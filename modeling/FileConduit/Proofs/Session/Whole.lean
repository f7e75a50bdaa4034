import FileConduit.Proofs.Session.Correlation
import FileConduit.Proofs.Wire.Encoding

/-!
# Replies that come whole

A device may send one whole frame for each request that reaches it, in pieces and with pauses as it
likes.  Then a session that is in step has nothing left of earlier replies, and a frame is refused
just when it is longer than what the client accepts.
-/

namespace FileConduit

/-- A frame whose header states its length, and an operation by which it is read. -/
structure Frame.Whole (frame : Frame) : Prop where
  length : frame.length.toNat = Header.size + frame.payload.length
  operation : .ofNumber frame.header.operation.number = frame.header.operation

namespace Frame

variable {limit : UInt64} {frame : Frame}

theorem whole_single {operation : Operation} (hoperation : .ofNumber operation.number = operation)
    {payload : Bytes} (number : UInt64) (hsize : Header.size + payload.length < UInt64.size) :
    (single operation payload number).Whole where
  length := toNat_thisLength_single operation payload number hsize
  operation := hoperation

/-- A whole frame is taken, and nothing with it. -/
theorem Whole.next_le (hwhole : frame.Whole) (hlimit : frame.length ≤ limit) :
    next limit frame.encode = .frame frame [] := by
  rw [← List.append_nil frame.encode]
  exact next_encode hlimit hwhole.length hwhole.operation []

/-- A whole frame that is too long is refused for its length. -/
theorem Whole.next_lt (hwhole : frame.Whole) (hlimit : limit < frame.length) :
    next limit frame.encode = .refused (.oversizedFrame frame.length) := by
  have hopens : Header.Opens frame.encode := Header.opens_encode _ _
  have hfields : Header.ofFields frame.encode = frame.header :=
    Header.ofFields_encode hwhole.operation frame.payload
  rw [next_eq_oversizedFrame_iff, ← Header.thisLength_ofFields, hfields]
  refine ⟨hopens, rfl, ?_, hlimit⟩
  have hlength : frame.header.thisLength.toNat = Header.size + frame.payload.length :=
    hwhole.length
  show Header.size ≤ frame.header.thisLength.toNat
  omega

end Frame

/-! ## The receiving side -/

namespace Inbox

structure Idle (inbox : Inbox) : Prop where
  buffer : inbox.buffer = []
  pending : inbox.pending = []

/-- A receiver that finds no frame possible has its reason in the buffer. -/
theorem receiveFrom_malformed (limit : UInt64) (patience : Patience) (error : FramingError)
    (arrivals : List Arrival) :
    ∀ (buffer : Bytes) (clock : Moment),
      (receiveFrom limit patience buffer clock arrivals).1 = .malformed error →
      Frame.next limit (receiveFrom limit patience buffer clock arrivals).2.buffer =
        .refused error := by
  have hsilence : patience.silence.1 ≠ .malformed error := by
    unfold Patience.silence
    split
    · simp
    · split <;> simp
  induction arrivals with
  | nil =>
      intro buffer clock hmalformed
      unfold receiveFrom at hmalformed ⊢
      split at hmalformed
      · cases hmalformed
      · rename_i found hnext
        cases hmalformed
        simp only [hnext]
      · exact absurd hmalformed hsilence
  | cons arrival later ih =>
      intro buffer clock hmalformed
      unfold receiveFrom at hmalformed ⊢
      split at hmalformed
      · cases hmalformed
      · rename_i found hnext
        cases hmalformed
        simp only [hnext]
      · cases arrival with
        | bytes data => exact ih (buffer ++ data) clock hmalformed
        | pause span =>
            dsimp only at hmalformed ⊢
            split at hmalformed
            · rename_i hlasts
              rw [if_pos hlasts]
              exact ih buffer (clock + span.microseconds) hmalformed
            · exact absurd hmalformed hsilence
        | fault fault => cases hmalformed
        | closed =>
            dsimp only at hmalformed
            split at hmalformed <;> cases hmalformed

variable {limit : UInt64} {patience : Patience} {before after : Inbox} {receipt : Receipt}
  {reply : Frame}

theorem receive_malformed {error : FramingError}
    (hreceive : before.receive limit patience = (.malformed error, after)) :
    Frame.next limit after.buffer = .refused error := by
  have hfront := receiveFrom_malformed limit patience error before.arrivals before.buffer
    before.clock
  rw [show receiveFrom _ _ _ _ _ = _ from hreceive] at hfront
  exact hfront rfl

/-- Of one whole frame that is under way a receiver takes all, or refuses it for its length. -/
theorem receive_whole (hwhole : reply.Whole) (hbuffer : before.buffer = [])
    (hpending : before.pending = reply.encode)
    (hreceive : before.receive limit patience = (receipt, after)) :
    (∀ frame, receipt = .frame frame → after.Idle) ∧
      ∀ error, receipt = .malformed error →
        error = .oversizedFrame reply.length ∧ limit < reply.length := by
  obtain ⟨read, hreads⟩ := receive_reads limit patience before
  rw [hreceive] at hreads
  have hbytes : read ++ after.pending = reply.encode := hreads.pending.symm.trans hpending
  -- What the bytes read so far decide, the whole frame decides.
  have htaken : ∀ frame, receipt = .frame frame →
      Frame.next limit reply.encode = .frame frame (after.buffer ++ after.pending) := by
    intro frame hframe
    have hfront := hreads.frame frame hframe
    rw [hbuffer, List.nil_append] at hfront
    rw [← hbytes]
    exact Frame.next_append hfront after.pending
  have hrefused : ∀ error, receipt = .malformed error →
      Frame.next limit reply.encode = .refused error := by
    intro error herror
    have hkept := hreads.other (by simp [herror])
    rw [hbuffer, List.nil_append] at hkept
    rw [herror] at hreceive
    rw [← hbytes, ← hkept]
    exact Frame.next_append_refused (receive_malformed hreceive) after.pending
  by_cases hlimit : limit < reply.length
  · have hnext := hwhole.next_lt hlimit
    constructor
    · intro frame hframe
      rw [htaken frame hframe] at hnext
      cases hnext
    · intro error herror
      rw [hrefused error herror] at hnext
      exact ⟨Frame.Next.refused.inj hnext, hlimit⟩
  · have hnext := hwhole.next_le (UInt64.not_lt.mp hlimit)
    constructor
    · intro frame hframe
      rw [htaken frame hframe, Frame.Next.frame.injEq, List.append_eq_nil_iff] at hnext
      exact ⟨hnext.2.1, hnext.2.2⟩
    · intro error herror
      rw [hrefused error herror] at hnext
      cases hnext

end Inbox

/-! ## Sessions in step -/

/-- Nothing is left of earlier replies, as long as replies can be told apart. -/
def Session.Tidy {σ : Type} (session : Session σ) : Prop :=
  session.desynchronized = false → session.inbox.Idle

namespace Trip

variable {σ : Type} {device : Device σ} {trip : Trip σ} {reply : Frame}

/-- What the device sends because of a request is one whole frame, however it is cut. -/
structure Replied (device : Device σ) (trip : Trip σ) (reply : Frame) : Prop where
  whole : reply.Whole
  bytes : Arrival.stream (trip.arrivals device) = reply.encode

theorem Replied.of_react (hsent : (trip.sent? device).isSome = true) (hwhole : reply.Whole)
    {cancels : Bool} {arrivals : List Arrival} {state : σ}
    (hreact : device.react trip.before.device trip.request = (.taken cancels arrivals, state))
    (hbytes : Arrival.stream arrivals = reply.encode) : trip.Replied device reply where
  whole := hwhole
  bytes := by
    have hproceeds : trip.proceeds = true := by
      cases hproceeds : trip.proceeds with
      | true => rfl
      | false =>
          rw [(sent?_of_not_proceeds device hproceeds).1] at hsent
          cases hsent
    rw [Trip.arrivals, if_pos hproceeds, hreact]
    exact hbytes

/-- Waiting for a reply that comes whole ends with all of it taken, or with its refusal. -/
theorem Replied.receipt (hreplied : trip.Replied device reply) (htidy : trip.before.Tidy)
    (hflag : trip.before.desynchronized = false) {state : σ} {cancels : Bool}
    {arrivals : List Arrival} {receipt : Receipt} {inbox : Inbox}
    (harrivals : trip.arrivals device = arrivals)
    (hreceipt :
      (trip.before.waiting trip.request state cancels arrivals).receipt = (receipt, inbox)) :
    (∀ frame, receipt = .frame frame → inbox.Idle) ∧
      ∀ error, receipt = .malformed error →
        error = .oversizedFrame reply.length ∧
          trip.before.config.maxFrameLength < reply.length := by
  have hidle := htidy hflag
  have hpending : (trip.before.inbox.queue arrivals).pending = reply.encode := by
    rw [Inbox.pending_queue, hidle.pending, List.nil_append, ← harrivals, hreplied.bytes]
  have hbuffer : (trip.before.inbox.queue arrivals).buffer = [] := hidle.buffer
  exact Inbox.receive_whole hreplied.whole hbuffer hpending hreceipt

/-- A round trip leaves nothing of its reply behind, or the session out of step. -/
theorem tidy_after (htidy : trip.before.Tidy)
    (hreplied : (trip.sent? device).isSome = true → ∃ reply, trip.Replied device reply) :
    (trip.after device).Tidy := by
  have heffect := trip.effect device
  generalize hsent : trip.sent? device = sent? at heffect
  generalize harrivals : trip.arrivals device = arrivals at heffect
  generalize trip.reply? device = reply? at heffect
  generalize trip.after device = after at heffect
  cases heffect with
  | still => exact htidy
  | refused state =>
      intro hflag
      cases hflag
  | unanswered hflag hreceipt hother =>
      intro hafter
      cases hafter
  | answered hflag hreceipt =>
      obtain ⟨reply, hreplied⟩ := hreplied (by rw [hsent]; rfl)
      intro hafter
      exact (hreplied.receipt htidy hflag harrivals hreceipt).1 _ rfl

/-- A reply that comes whole is refused for its length alone. -/
theorem Replied.refused (hreplied : trip.Replied device reply) (htidy : trip.before.Tidy)
    {error : FramingError} (houtcome : trip.outcome device = some (.error (.framing error))) :
    error = .oversizedFrame reply.length ∧
      trip.before.config.maxFrameLength < reply.length := by
  have hcourse := trip.course device
  rw [houtcome] at hcourse
  generalize hanswer : (some (.error (.framing error)) : Option (Except ClientError _)) = answer
    at hcourse
  generalize trip.after device = after at hcourse
  cases hcourse with
  | cancelled | desynchronized | refused | givenUp => cases hanswer
  | @brokenOff hcancelled hflag cancels arrivals state receipt inbox cause hreact hreceipt
      hfailure =>
      cases hanswer
      have hmalformed : receipt = .malformed error := by
        cases receipt <;> cases hfailure
        rfl
      have harrivals := (sent?_of_taken hcancelled hflag hreact).2
      exact (hreplied.receipt htidy hflag harrivals hreceipt).2 error hmalformed
  | answered hcancelled hflag hreact hreceipt =>
      -- A frame that has come is read as an answer, which fails in other ways.
      rename_i found inbox
      cases hread : trip.request.answer trip.before.config.tellByteOrder found <;>
        rw [hread] at hanswer <;> cases hanswer

/-! ## Replies that come in time -/

/-- Whether what is under way brings a reply before the time for it has run out, and nobody gives
up. -/
structure InTime (device : Device σ) (trip : Trip σ) (reply : Frame) : Prop where
  patient : trip.before.givesUp = none
  brings : ∃ time, time ≤ trip.before.config.responseTimeout.microseconds ∧
    Arrival.Brings time reply.encode (trip.before.inbox.arrivals ++ trip.arrivals device)

/-- A reply comes only to a request that has gone out. -/
theorem Replied.taken (hreplied : trip.Replied device reply) :
    trip.before.cancelled = false ∧ trip.before.desynchronized = false ∧
      ∃ cancels state, device.react trip.before.device trip.request =
        (.taken cancels (trip.arrivals device), state) := by
  have hbytes : trip.arrivals device ≠ [] := by
    intro hnil
    have hempty := hreplied.bytes
    rw [hnil] at hempty
    exact reply.encode_ne_nil hempty.symm
  cases hproceeds : trip.proceeds with
  | false => exact absurd (sent?_of_not_proceeds device hproceeds).2 hbytes
  | true =>
      have hready := hproceeds
      simp only [proceeds, Bool.and_eq_true, Bool.not_eq_true'] at hready
      cases hreact : device.react trip.before.device trip.request with
      | mk reaction state =>
          cases reaction with
          | refused fault => exact absurd (sent?_of_refused hreact).2 hbytes
          | taken cancels arrivals =>
              rw [(sent?_of_taken hready.1 hready.2 hreact).2]
              exact ⟨hready.1, hready.2, cancels, state, rfl⟩

/-- A reply that comes whole and in time is taken, unless it is too long. -/
theorem Replied.reply?_of_le (hreplied : trip.Replied device reply) (htidy : trip.before.Tidy)
    (hlimit : reply.length ≤ trip.before.config.maxFrameLength)
    (htime : trip.InTime device reply) : trip.reply? device = some reply := by
  obtain ⟨hcancelled, hflag, cancels, state, hreact⟩ := hreplied.taken
  obtain ⟨time, hearly, hbrings⟩ := htime.brings
  have hnext := hreplied.whole.next_le hlimit
  obtain ⟨later, hreceive⟩ := Inbox.receiveFrom_brings trip.before.config.maxFrameLength hbrings
    [] trip.before.inbox.clock (Nat.add_le_add_left hearly _) hnext
  have hreceipt : (trip.before.waiting trip.request state cancels (trip.arrivals device)).receipt =
      (.frame reply, ⟨[], [], later⟩) := by
    have hpatience : (trip.before.waiting trip.request state cancels
        (trip.arrivals device)).patience =
          ⟨trip.before.inbox.clock + trip.before.config.responseTimeout.microseconds, none⟩ :=
      congrArg (Patience.mk _) htime.patient
    rw [Session.receipt, hpatience, Inbox.receive]
    show Inbox.receiveFrom _ _ trip.before.inbox.buffer _ _ = _
    rw [(htidy hflag).buffer]
    exact hreceive
  exact reply?_of_frame hcancelled hflag hreact hreceipt

/-- Whether a reply is not refused for its frame, and is read if it comes in time. -/
structure Accepted (device : Device σ) (trip : Trip σ) (reply : Frame) : Prop where
  not_refused : ∀ error, trip.outcome device ≠ some (.error (.framing error))
  read : trip.InTime device reply → trip.outcome device =
    some ((trip.request.answer trip.before.config.tellByteOrder reply).mapError .reply)

theorem Replied.accepted (hreplied : trip.Replied device reply) (htidy : trip.before.Tidy)
    (hlimit : reply.length ≤ trip.before.config.maxFrameLength) :
    trip.Accepted device reply where
  not_refused _ houtcome := UInt64.not_lt.mpr hlimit (hreplied.refused htidy houtcome).2
  read htime := outcome_of_reply? (hreplied.reply?_of_le htidy hlimit htime)

end Trip

/-- Where every reply comes whole, a session in step has nothing left of them. -/
theorem Session.Reach.tidy {σ : Type} {device : Device σ} {start final : Session σ}
    {trips : List (Trip σ)} (hreach : Reach device start trips final) (hstart : start.Tidy)
    (hreplied : ∀ trip ∈ trips, (trip.sent? device).isSome = true →
      ∃ reply, trip.Replied device reply) : final.Tidy := by
  induction hreach with
  | start => exact hstart
  | aside hreach haside ih =>
      have hbefore := ih hreplied
      intro hflag
      rw [haside.desynchronized] at hflag
      rw [haside.inbox]
      exact hbefore hflag
  | @trip trips before request hreach ih =>
      have hearlier := ih fun trip htrip => hreplied trip (List.mem_append_left _ htrip)
      have hlast := hreplied ⟨before, request⟩ (List.mem_append_right trips List.mem_cons_self)
      have hafter : (Trip.after device ⟨before, request⟩).Tidy :=
        Trip.tidy_after hearlier hlast
      exact hafter

end FileConduit

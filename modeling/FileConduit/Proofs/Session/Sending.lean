import FileConduit.Proofs.Request.Refusal
import FileConduit.Proofs.Session.Correlation

/-!
# What a run sends

From whatever session a run begins, what it adds to the wire are the frames of the requests that
went out, numbered on from those before them.  A request is acknowledged by a frame that holds the
status of success, and by nothing else.
-/

namespace FileConduit

def Frame.isSuccess (frame : Frame) : Bool :=
  frame.operation == .status && frame.payload == Word.littleEndian 0

theorem Reply.isSuccess_iff (reply : Frame) :
    reply.isSuccess = true ↔ ∃ code, Reply.status reply = .ok code ∧ code.isSuccess = true := by
  simp only [Frame.isSuccess, Bool.and_eq_true, beq_iff_eq]
  constructor
  · rintro ⟨hoperation, hpayload⟩
    refine ⟨.success, ?_, rfl⟩
    rw [Reply.status, Reply.expect_ok_iff.mpr ⟨hoperation, hpayload⟩]
    rfl
  · rintro ⟨code, hstatus, hcode⟩
    unfold Reply.status at hstatus
    simp only [bind, Except.bind] at hstatus
    split at hstatus
    · cases hstatus
    · rename_i payload hexpected
      obtain ⟨hoperation, rfl⟩ := Reply.expect_ok_iff.mp hexpected
      unfold Reply.statusOf at hstatus
      split at hstatus
      · rename_i hsize
        cases hstatus
        have hnumber := (StatusCode.isSuccess_ofNumber _).mp hcode
        have hpayload := Word.littleEndian_ofLittleEndian hsize
        rw [hnumber] at hpayload
        exact ⟨hoperation, hpayload.symm⟩
      · cases hstatus

theorem Reply.success_iff (reply : Frame) :
    Reply.success reply = .ok () ↔ reply.isSuccess = true := by
  rw [isSuccess_iff, Reply.success]
  cases hstatus : Reply.status reply with
  | error cause => simp [bind, Except.bind]
  | ok code => cases hcode : code.isSuccess <;> simp [bind, Except.bind, hcode]

namespace Trip

variable {σ : Type} {device : Device σ} {trip : Trip σ}

def acknowledged (device : Device σ) (trip : Trip σ) : Bool :=
  (trip.reply? device).any Frame.isSuccess

/-- A write is acknowledged just when the operation is told that it succeeded. -/
theorem acknowledged_write_iff (device : Device σ) (before : Session σ) (chunk : WriteChunk) :
    acknowledged device ⟨before, .write chunk⟩ = true ↔
      outcome device ⟨before, .write chunk⟩ = some (.ok ()) := by
  rw [acknowledged, Option.any_eq_true]
  constructor
  · rintro ⟨reply, hreply, hsuccess⟩
    have hanswer : Request.answer before.config.tellByteOrder (.write chunk) reply = .ok () :=
      (Reply.success_iff reply).mpr hsuccess
    rw [outcome_of_reply? hreply, hanswer]
    rfl
  · intro houtcome
    obtain ⟨reply, hreply, hanswer⟩ := reply?_of_outcome houtcome
    exact ⟨reply, hreply, (Reply.success_iff reply).mp hanswer⟩

/-- A request that has its reply went out. -/
theorem sent?_of_reply? {reply : Frame} (hreply : trip.reply? device = some reply) :
    trip.sent? device = some (trip.request.frame trip.before.packetNumber) := by
  have heffect := trip.effect device
  rw [hreply] at heffect
  generalize trip.sent? device = sent at heffect
  generalize trip.arrivals device = arrivals at heffect
  generalize trip.after device = after at heffect
  cases heffect with
  | answered hflag hreceipt => rfl

/-- A request that is turned away because of a cancellation does not go out. -/
theorem sent?_of_cancelled (houtcome : trip.outcome device = some (.error .cancelled)) :
    trip.sent? device = none := by
  have hcourse := trip.course device
  rw [houtcome] at hcourse
  generalize hanswer :
    (some (.error .cancelled) : Option (Except ClientError trip.request.Answer)) = answer at hcourse
  generalize trip.after device = after at hcourse
  cases hcourse with
  | cancelled hcancelled => exact (sent?_of_not_proceeds device (by simp [proceeds, hcancelled])).1
  | desynchronized hcancelled hflag => cases hanswer
  | refused hcancelled hflag hreact => cases hanswer
  | brokenOff hcancelled hflag hreact hreceipt hfailure =>
      cases hanswer
      cases Receipt.breaksOff_of_failure? hfailure
  | givenUp hcancelled hflag hreact hreceipt => cases hanswer
  | answered hcancelled hflag hreact hreceipt =>
      generalize trip.request.answer _ _ = read at hanswer
      cases read <;> cases hanswer

/-- In a session that stays synchronized, a request goes out unless the client is cancelled. -/
theorem sent?_isSome_iff (hflag : (trip.after device).desynchronized = false) :
    (trip.sent? device).isSome = true ↔ trip.before.cancelled = false := by
  have hcourse := trip.course device
  generalize trip.outcome device = outcome at hcourse
  generalize trip.after device = after at hcourse hflag
  cases hcourse with
  | cancelled hcancelled =>
      rw [(sent?_of_not_proceeds device (by simp [proceeds, hcancelled])).1, hcancelled]
      simp
  | desynchronized hcancelled hbefore =>
      rw [hbefore] at hflag
      cases hflag
  | refused hcancelled hbefore hreact => cases hflag
  | brokenOff hcancelled hbefore hreact hreceipt hfailure =>
      rw [(sent?_of_taken hcancelled hbefore hreact).1, hcancelled]
      simp
  | givenUp hcancelled hbefore hreact hreceipt =>
      rw [(sent?_of_taken hcancelled hbefore hreact).1, hcancelled]
      simp
  | answered hcancelled hbefore hreact hreceipt =>
      rw [(sent?_of_taken hcancelled hbefore hreact).1, hcancelled]
      simp

end Trip

namespace Session

variable {σ : Type} {device : Device σ} {start final : Session σ} {trips : List (Trip σ)}

theorem Reach.sends (hreach : Reach device start trips final) :
    final.sentFrames = start.sentFrames ++
        Request.frames start.packetNumber ((Trip.sending device trips).map Trip.request) ∧
      (final.desynchronized = false → final.packetNumber =
        start.packetNumber + UInt64.ofNat (Trip.sending device trips).length) := by
  induction hreach with
  | start => simp [Trip.sending, Request.frames]
  | aside _ haside ih =>
      rw [sentFrames, haside.traffic, haside.desynchronized, haside.packetNumber]
      exact ih
  | @trip trips before request hreach ih =>
      obtain ⟨hframes, hnumber⟩ := ih
      have hlast : ∀ {frame : Frame}, Trip.sent? device ⟨before, request⟩ = some frame →
          before.desynchronized = false →
          before.sentFrames ++ [request.frame before.packetNumber] = start.sentFrames ++
            Request.frames start.packetNumber
              ((Trip.sending device (trips ++ [⟨before, request⟩])).map Trip.request) := by
        intro frame hsent hflag
        rw [Trip.sending_concat_of_sent hsent, List.map_append, List.map_singleton,
          Request.frames_concat, List.length_map, ← List.append_assoc, ← hframes, hnumber hflag]
      have heffect := Trip.effect device ⟨before, request⟩
      change Session.sentFrames (Trip.after device ⟨before, request⟩) = _ ∧
        ((Trip.after device ⟨before, request⟩).desynchronized = false →
          (Trip.after device ⟨before, request⟩).packetNumber = _)
      generalize hsent : Trip.sent? device ⟨before, request⟩ = sent? at heffect
      generalize Trip.arrivals device ⟨before, request⟩ = arrivals at heffect
      generalize Trip.reply? device ⟨before, request⟩ = reply? at heffect
      generalize Trip.after device ⟨before, request⟩ = after at heffect
      cases heffect with
      | still =>
          rw [Trip.sending_concat_of_none hsent]
          exact ⟨hframes, hnumber⟩
      | refused state =>
          rw [Trip.sending_concat_of_none hsent]
          exact ⟨hframes, fun hflag => by cases hflag⟩
      | unanswered hflag hreceipt hother =>
          rw [← hlast hsent hflag]
          exact ⟨sentFrames_of_traffic rfl, fun hafter => by cases hafter⟩
      | answered hflag hreceipt =>
          rw [← hlast hsent hflag, Trip.sending_concat_of_sent hsent, List.length_append,
            UInt64.ofNat_add, ← UInt64.add_assoc, ← hnumber hflag]
          refine ⟨?_, fun _ => rfl⟩
          simp [sentFrames, waiting, Session.sent, Session.received, opened]

end Session

end FileConduit

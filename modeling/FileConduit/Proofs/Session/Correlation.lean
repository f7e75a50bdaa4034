import FileConduit.Proofs.Request.Frames
import FileConduit.Proofs.Session.Effect

/-!
# Replies and requests

Nothing on the wire says which request a reply belongs to.  `Correlated` is what holds between
two round trips all the same: the frames taken so far are the first ones of everything that the
device has sent, the request frames are numbered without gaps, and each request has its own
reply, except the last one if the session is desynchronized.
-/

namespace FileConduit

namespace Trip

variable {σ : Type} {device : Device σ}

theorem sending_concat_of_sent {trips : List (Trip σ)} {trip : Trip σ} {frame : Frame}
    (hsent : trip.sent? device = some frame) :
    sending device (trips ++ [trip]) = sending device trips ++ [trip] := by
  simp [sending, hsent]

theorem sending_concat_of_none {trips : List (Trip σ)} {trip : Trip σ}
    (hsent : trip.sent? device = none) :
    sending device (trips ++ [trip]) = sending device trips := by
  simp [sending, hsent]

theorem replies_concat (trips : List (Trip σ)) (trip : Trip σ) :
    replies device (trips ++ [trip]) = replies device trips ++ (trip.reply? device).toList := by
  cases hreply : trip.reply? device <;> simp [replies, hreply]

/-- Everything that the device sends: unasked at first, and then because of requests. -/
def streamOf (device : Device σ) (unasked : List Arrival) (trips : List (Trip σ)) : Bytes :=
  Arrival.stream unasked ++ Arrival.stream (trips.flatMap (arrivals device))

theorem streamOf_concat (unasked : List Arrival) (trips : List (Trip σ)) (trip : Trip σ) :
    streamOf device unasked (trips ++ [trip]) =
      streamOf device unasked trips ++ Arrival.stream (trip.arrivals device) := by
  simp [streamOf]

end Trip

namespace Session

variable {σ : Type} {device : Device σ} {config : ClientConfig} {unasked : List Arrival}
  {trips : List (Trip σ)} {session : Session σ}

def receivedFrames (session : Session σ) : List Frame :=
  session.traffic.filterMap fun traffic =>
    match traffic with
    | .sent _ => none
    | .received frame => some frame

def wire (session : Session σ) : Bytes :=
  session.sentFrames.flatMap Frame.encode

theorem sentFrames_of_traffic {other : Session σ} {frame : Frame}
    (htraffic : other.traffic = session.traffic ++ [.sent frame]) :
    other.sentFrames = session.sentFrames ++ [frame] := by
  simp [sentFrames, htraffic]

structure Correlated (device : Device σ) (config : ClientConfig) (unasked : List Arrival)
    (trips : List (Trip σ)) (session : Session σ) : Prop where
  configured : session.config = config
  /-- What has been read of the stream is the frames returned and the buffer. -/
  stream : ∃ read, Trip.streamOf device unasked trips = read ++ session.inbox.pending ∧
    Frame.Taken config.maxFrameLength read (Trip.replies device trips) session.inbox.buffer
  sent : session.sentFrames = Request.frames 0 ((Trip.sending device trips).map Trip.request)
  received : session.receivedFrames = Trip.replies device trips
  number : session.desynchronized = false →
    session.packetNumber = UInt64.ofNat (Trip.sending device trips).length
  numbers : ∀ (k : Nat) (trip : Trip σ), (Trip.sending device trips)[k]? = some trip →
    trip.before.packetNumber = UInt64.ofNat k
  /-- Each request that went out has its reply, except the last one of a broken session. -/
  answers : ∃ last, (Trip.sending device trips).map (Trip.reply? device) =
    (Trip.replies device trips).map some ++ last ∧
      (session.desynchronized = false → last = [])

namespace Correlated

theorem fresh (device : Device σ) (config : ClientConfig) (state : σ) (host : HostTree)
    (unasked : List Arrival) :
    Correlated device config unasked [] (fresh config state host unasked) where
  configured := rfl
  stream := ⟨[], by simp [Trip.streamOf, Session.fresh, Inbox.pending], .none _⟩
  sent := rfl
  received := rfl
  number _ := rfl
  numbers k trip htrip := by simp [Trip.sending] at htrip
  answers := ⟨[], by simp [Trip.sending, Trip.replies], fun _ => rfl⟩

theorem aside {after : Session σ} (hcorrelated : Correlated device config unasked trips session)
    (haside : Aside session after) : Correlated device config unasked trips after where
  configured := by rw [haside.config, hcorrelated.configured]
  stream := by rw [haside.inbox]; exact hcorrelated.stream
  sent := by rw [sentFrames, haside.traffic]; exact hcorrelated.sent
  received := by rw [receivedFrames, haside.traffic]; exact hcorrelated.received
  number := by rw [haside.packetNumber, haside.desynchronized]; exact hcorrelated.number
  numbers := hcorrelated.numbers
  answers := by rw [haside.desynchronized]; exact hcorrelated.answers

theorem unsent {request : Request} {after : Session σ}
    (hcorrelated : Correlated device config unasked trips session)
    (hsent : Trip.sent? device ⟨session, request⟩ = none)
    (harrivals : Trip.arrivals device ⟨session, request⟩ = [])
    (hreply : Trip.reply? device ⟨session, request⟩ = none)
    (hconfig : after.config = session.config) (hinbox : after.inbox = session.inbox)
    (htraffic : after.traffic = session.traffic)
    (hflag : after.desynchronized = false →
      session.desynchronized = false ∧ after.packetNumber = session.packetNumber) :
    Correlated device config unasked (trips ++ [⟨session, request⟩]) after where
  configured := by rw [hconfig, hcorrelated.configured]
  stream := by
    rw [Trip.streamOf_concat, harrivals, Trip.replies_concat, hreply, hinbox]
    simpa using hcorrelated.stream
  sent := by
    rw [Trip.sending_concat_of_none hsent, sentFrames, htraffic]
    exact hcorrelated.sent
  received := by
    have hsame : after.receivedFrames = session.receivedFrames := by
      simp only [receivedFrames, htraffic]
    rw [Trip.replies_concat, hreply, hsame, hcorrelated.received]
    simp
  number hafter := by
    rw [Trip.sending_concat_of_none hsent, (hflag hafter).2]
    exact hcorrelated.number (hflag hafter).1
  numbers := by
    rw [Trip.sending_concat_of_none hsent]
    exact hcorrelated.numbers
  answers := by
    obtain ⟨last, hanswers, hlast⟩ := hcorrelated.answers
    rw [Trip.sending_concat_of_none hsent, Trip.replies_concat, hreply]
    exact ⟨last, by simpa using hanswers, fun hafter => hlast (hflag hafter).1⟩

theorem numbers_concat {request : Request}
    (hcorrelated : Correlated device config unasked trips session)
    (hflag : session.desynchronized = false) {frame : Frame}
    (hsent : Trip.sent? device ⟨session, request⟩ = some frame) (k : Nat) (trip : Trip σ)
    (htrip : (Trip.sending device (trips ++ [⟨session, request⟩]))[k]? = some trip) :
    trip.before.packetNumber = UInt64.ofNat k := by
  rw [Trip.sending_concat_of_sent hsent, List.getElem?_append] at htrip
  split at htrip
  · exact hcorrelated.numbers k trip htrip
  · have hlength := (List.getElem?_eq_some_iff.mp htrip).choose
    have hk : k = (Trip.sending device trips).length := by
      simp only [List.length_singleton] at hlength
      omega
    rw [hk, Nat.sub_self, List.getElem?_cons_zero, Option.some.injEq] at htrip
    rw [← htrip, hk]
    exact hcorrelated.number hflag

theorem sent_concat {request : Request} {after : Session σ}
    (hcorrelated : Correlated device config unasked trips session)
    (hflag : session.desynchronized = false)
    (hsent : Trip.sent? device ⟨session, request⟩ = some (request.frame session.packetNumber))
    (hafter : after.sentFrames = session.sentFrames ++ [request.frame session.packetNumber]) :
    after.sentFrames =
      Request.frames 0
        ((Trip.sending device (trips ++ [⟨session, request⟩])).map Trip.request) := by
  have hnumber : (0 : UInt64) + UInt64.ofNat ((Trip.sending device trips).map Trip.request).length =
      session.packetNumber := by
    rw [UInt64.zero_add, List.length_map, hcorrelated.number hflag]
  rw [hafter, Trip.sending_concat_of_sent hsent, List.map_append, List.map_singleton,
    Request.frames_concat, hnumber, hcorrelated.sent]

theorem number_concat {request : Request} {frame : Frame}
    (hcorrelated : Correlated device config unasked trips session)
    (hflag : session.desynchronized = false)
    (hsent : Trip.sent? device ⟨session, request⟩ = some frame) :
    session.packetNumber + 1 =
      UInt64.ofNat (Trip.sending device (trips ++ [⟨session, request⟩])).length := by
  rw [Trip.sending_concat_of_sent hsent, List.length_append, UInt64.ofNat_add,
    hcorrelated.number hflag]
  rfl

/-- What has been read of the stream when waiting for a reply has ended.  A frame that has come
is the next one of what has been read. -/
theorem read_concat {request : Request} {state : σ} {cancels : Bool} {arrivals : List Arrival}
    {receipt : Receipt} {inbox : Inbox}
    (hcorrelated : Correlated device config unasked trips session)
    (harrivals : Trip.arrivals device ⟨session, request⟩ = arrivals)
    (hreceipt : (session.waiting request state cancels arrivals).receipt = (receipt, inbox)) :
    ∃ read buffer, Trip.streamOf device unasked (trips ++ [⟨session, request⟩]) =
        read ++ inbox.pending ∧
      Frame.Taken config.maxFrameLength read (Trip.replies device trips) buffer ∧
      (∀ frame, receipt = .frame frame →
        Frame.next config.maxFrameLength buffer = .frame frame inbox.buffer) ∧
      ((∀ frame, receipt ≠ .frame frame) → inbox.buffer = buffer) := by
  obtain ⟨before, hbefore, htaken⟩ := hcorrelated.stream
  obtain ⟨read, hreads⟩ := Inbox.receive_reads config.maxFrameLength
    (session.waiting request state cancels arrivals).patience (session.inbox.queue arrivals)
  have hwaiting : (session.inbox.queue arrivals).receive config.maxFrameLength
      (session.waiting request state cancels arrivals).patience = (receipt, inbox) := by
    rw [← hcorrelated.configured]
    exact hreceipt
  rw [hwaiting] at hreads
  have hpending := hreads.pending
  rw [Inbox.pending_queue] at hpending
  refine ⟨before ++ read, session.inbox.buffer ++ read, ?_, htaken.append read, hreads.frame,
    hreads.other⟩
  rw [Trip.streamOf_concat, harrivals, hbefore, List.append_assoc, hpending, List.append_assoc]

/-- A round trip that breaks off, or is given up, once its request has gone out. -/
theorem unanswered {request : Request} {state : σ} {cancels : Bool} {arrivals : List Arrival}
    {receipt : Receipt} {inbox : Inbox} {metrics : Metrics}
    (hcorrelated : Correlated device config unasked trips session)
    (hflag : session.desynchronized = false)
    (hsent : Trip.sent? device ⟨session, request⟩ = some (request.frame session.packetNumber))
    (harrivals : Trip.arrivals device ⟨session, request⟩ = arrivals)
    (hreply : Trip.reply? device ⟨session, request⟩ = none)
    (hreceipt : (session.waiting request state cancels arrivals).receipt = (receipt, inbox))
    (hother : ∀ frame, receipt ≠ .frame frame) :
    Correlated device config unasked (trips ++ [⟨session, request⟩])
      { session.waiting request state cancels arrivals with inbox, metrics } where
  configured := hcorrelated.configured
  stream := by
    obtain ⟨read, buffer, hstream, htaken, -, hbuffer⟩ := hcorrelated.read_concat harrivals hreceipt
    refine ⟨read, hstream, ?_⟩
    rw [Trip.replies_concat, hreply]
    simpa [hbuffer hother] using htaken
  sent := hcorrelated.sent_concat hflag hsent (sentFrames_of_traffic rfl)
  received := by
    rw [Trip.replies_concat, hreply, ← hcorrelated.received]
    simp [receivedFrames, waiting, Session.sent, opened]
  number hafter := by cases hafter
  numbers := hcorrelated.numbers_concat hflag hsent
  answers := by
    obtain ⟨last, hanswers, hlast⟩ := hcorrelated.answers
    refine ⟨[none], ?_, fun hafter => by cases hafter⟩
    rw [Trip.sending_concat_of_sent hsent, Trip.replies_concat, hreply, List.map_append, hanswers,
      hlast hflag]
    simp [hreply]

theorem answered {request : Request} {state : σ} {cancels : Bool} {arrivals : List Arrival}
    {reply : Frame} {inbox : Inbox} {metrics : Metrics}
    (hcorrelated : Correlated device config unasked trips session)
    (hflag : session.desynchronized = false)
    (hsent : Trip.sent? device ⟨session, request⟩ = some (request.frame session.packetNumber))
    (harrivals : Trip.arrivals device ⟨session, request⟩ = arrivals)
    (hreply : Trip.reply? device ⟨session, request⟩ = some reply)
    (hreceipt :
      (session.waiting request state cancels arrivals).receipt = (.frame reply, inbox)) :
    Correlated device config unasked (trips ++ [⟨session, request⟩])
      { { session.waiting request state cancels arrivals with inbox }.received reply with
        metrics } where
  configured := hcorrelated.configured
  stream := by
    obtain ⟨read, buffer, hstream, htaken, hnext, -⟩ := hcorrelated.read_concat harrivals hreceipt
    refine ⟨read, hstream, ?_⟩
    rw [Trip.replies_concat, hreply]
    exact htaken.snoc (hnext reply rfl)
  sent := by
    refine hcorrelated.sent_concat hflag hsent ?_
    simp [sentFrames, waiting, Session.sent, Session.received, opened]
  received := by
    rw [Trip.replies_concat, hreply, ← hcorrelated.received]
    simp [receivedFrames, waiting, Session.sent, Session.received, opened]
  number _ := hcorrelated.number_concat hflag hsent
  numbers := hcorrelated.numbers_concat hflag hsent
  answers := by
    obtain ⟨last, hanswers, hlast⟩ := hcorrelated.answers
    refine ⟨[], ?_, fun _ => rfl⟩
    rw [Trip.sending_concat_of_sent hsent, Trip.replies_concat, hreply, List.map_append, hanswers,
      hlast hflag]
    simp [hreply]

theorem trip (hcorrelated : Correlated device config unasked trips session) (request : Request) :
    Correlated device config unasked (trips ++ [⟨session, request⟩])
      (session.call device request).2 := by
  have heffect := Trip.effect device ⟨session, request⟩
  change Correlated device config unasked _ (Trip.after device ⟨session, request⟩)
  generalize hsent : Trip.sent? device ⟨session, request⟩ = sent? at heffect
  generalize harrivals : Trip.arrivals device ⟨session, request⟩ = arrivals at heffect
  generalize hreply : Trip.reply? device ⟨session, request⟩ = reply? at heffect
  generalize Trip.after device ⟨session, request⟩ = after at heffect
  cases heffect with
  | still => exact hcorrelated.unsent hsent harrivals hreply rfl rfl rfl fun hflag => ⟨hflag, rfl⟩
  | refused state =>
      exact hcorrelated.unsent hsent harrivals hreply rfl rfl rfl fun hflag => by cases hflag
  | unanswered hflag hreceipt hother =>
      exact hcorrelated.unanswered hflag hsent harrivals hreply hreceipt hother
  | answered hflag hreceipt =>
      exact hcorrelated.answered hflag hsent harrivals hreply hreceipt

theorem of_reach {state : σ} {host : HostTree}
    (hreach : Reach device (Session.fresh config state host unasked) trips session) :
    Correlated device config unasked trips session := by
  induction hreach with
  | start => exact fresh device config state host unasked
  | aside _ haside ih => exact ih.aside haside
  | trip request _ ih => exact ih.trip request

end Correlated

end Session

namespace Trip

variable {σ : Type} {device : Device σ}

theorem sent?_of_mem_sending {trips : List (Trip σ)} {trip : Trip σ}
    (htrip : trip ∈ sending device trips) :
    trip.sent? device = some (trip.request.frame trip.before.packetNumber) := by
  have hsome : (trip.sent? device).isSome = true := (List.mem_filter.mp htrip).2
  unfold sent? at hsome ⊢
  split at hsome
  · rename_i hproceeds
    rw [if_pos hproceeds]
    split at hsome
    · rfl
    · cases hsome
  · cases hsome

/-- What the operation is told is read from the reply of its own exchange. -/
theorem outcome_of_reply? {trip : Trip σ} {reply : Frame}
    (hreply : trip.reply? device = some reply) :
    trip.outcome device =
      some ((trip.request.answer trip.before.config.tellByteOrder reply).mapError .reply) := by
  have hcancelled : trip.before.cancelled = false := by
    cases hcancelled : trip.before.cancelled with
    | false => rfl
    | true => simp [reply?, hcancelled] at hreply
  cases hexchange : trip.before.exchange device trip.request with
  | mk answer after =>
      rw [reply?_of_exchange hcancelled hexchange] at hreply
      have hanswer : answer = some (.ok reply) := by
        rcases answer with _ | ⟨error | frame⟩
        · cases hreply
        · cases hreply
        · rw [Option.bind_some, Except.toOption, Option.some.injEq] at hreply
          rw [hreply]
      have hconfig : after.config = trip.before.config := by
        have h := trip.before.exchange_config device trip.request
        rwa [hexchange] at h
      rw [hanswer] at hexchange
      rw [outcome, Session.call_of_reply hcancelled hexchange, hconfig]

/-- An operation that is told a value has had a reply. -/
theorem reply?_of_outcome {trip : Trip σ} {value : trip.request.Answer}
    (houtcome : trip.outcome device = some (.ok value)) :
    ∃ reply, trip.reply? device = some reply ∧
      trip.request.answer trip.before.config.tellByteOrder reply = .ok value := by
  have hcourse := trip.course device
  rw [houtcome] at hcourse
  generalize hafter : trip.after device = after at hcourse
  cases hreply : trip.reply? device with
  | some reply =>
      have hread := outcome_of_reply? hreply
      rw [houtcome] at hread
      refine ⟨reply, rfl, ?_⟩
      cases hanswer : trip.request.answer trip.before.config.tellByteOrder reply with
      | error cause =>
          rw [hanswer] at hread
          cases hread
      | ok other =>
          rw [hanswer] at hread
          cases hread
          rfl
  | none =>
      exfalso
      generalize hanswer : (some (.ok value) : Option (Except ClientError _)) = answer at hcourse
      cases hcourse with
      | answered hcancelled hflag hreact hreceipt =>
          rw [reply?_of_frame hcancelled hflag hreact hreceipt] at hreply
          cases hreply
      | cancelled | desynchronized | refused | brokenOff | givenUp => cases hanswer

/-- The `k`-th reply is the one of the `k`-th request that went out. -/
theorem sending_of_reply {trips : List (Trip σ)} {last : List (Option Frame)} {k : Nat}
    {reply : Frame}
    (hanswers : (sending device trips).map (reply? device) =
      (replies device trips).map some ++ last)
    (hreply : (replies device trips)[k]? = some reply) :
    ∃ trip, (sending device trips)[k]? = some trip ∧ trip.reply? device = some reply := by
  have hlength : k < (replies device trips).length := (List.getElem?_eq_some_iff.mp hreply).choose
  have hk : ((sending device trips).map (reply? device))[k]? = some (some reply) := by
    rw [hanswers, List.getElem?_append_left (by simpa using hlength), List.getElem?_map, hreply]
    rfl
  rw [List.getElem?_map, Option.map_eq_some_iff] at hk
  exact hk

end Trip

/-- In every history, the replies are the first frames of what the device sends, the `k`-th of
them is read as the answer to the `k`-th request that goes out, and the requests go out as whole
frames with the numbers 0, 1, 2 and so on. -/
theorem replies_in_order {σ : Type} (device : Device σ) (config : ClientConfig) (state : σ)
    (host : HostTree) (unasked : List Arrival) (uses : List Use) :
    let start := Session.fresh config state host unasked
    let trips := start.trips device uses
    let sending := Trip.sending device trips
    let replies := Trip.replies device trips
    (∀ more, replies = (Frame.drain config.maxFrameLength
      (Trip.streamOf device unasked trips ++ more)).frames.take replies.length) ∧
    (∀ (k : Nat) (reply : Frame), replies[k]? = some reply → ∃ trip, sending[k]? = some trip ∧
      trip.reply? device = some reply ∧
      trip.outcome device =
        some ((trip.request.answer config.tellByteOrder reply).mapError .reply)) ∧
    (∀ (k : Nat) (trip : Trip σ), sending[k]? = some trip →
      trip.sent? device = some (trip.request.frame (UInt64.ofNat k))) ∧
    (start.afterUses device uses).wire =
      (Request.frames 0 (sending.map Trip.request)).flatMap Frame.encode := by
  intro start trips sending replies
  have hreach := Session.reach_afterUses device start uses
  have hcorrelated : Session.Correlated device config unasked trips _ := .of_reach hreach
  refine ⟨fun more => ?_, fun k reply hreply => ?_, fun k trip htrip => ?_, ?_⟩
  · obtain ⟨read, hstream, htaken⟩ := hcorrelated.stream
    rw [hstream, List.append_assoc]
    exact htaken.eq_take_drain _
  · obtain ⟨last, hanswers, -⟩ := hcorrelated.answers
    obtain ⟨trip, htrip, hown⟩ := Trip.sending_of_reply hanswers hreply
    refine ⟨trip, htrip, hown, ?_⟩
    have hmem : trip ∈ trips := (List.mem_filter.mp (List.mem_of_getElem? htrip)).1
    obtain ⟨earlier, later, hall⟩ := List.append_of_mem hmem
    have hbefore : Session.Correlated device config unasked earlier trip.before :=
      .of_reach (hreach.before_of_append hall)
    rw [Trip.outcome_of_reply? hown, hbefore.configured]
  · rw [Trip.sent?_of_mem_sending (List.mem_of_getElem? htrip), hcorrelated.numbers k trip htrip]
  · rw [Session.wire, hcorrelated.sent]

end FileConduit

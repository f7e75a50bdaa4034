import FileConduit.Proofs.Session.Counting

/-!
# The balance of the counters

The counters of frames and bytes agree with what has crossed the channel.  Between round trips each
frame that went out has had its reply; only the round trip that broke the session off can have sent
a frame for which none came.
-/

namespace FileConduit

/-- The bytes of a request frame are as many as its header states, up to overflow. -/
theorem Request.length_frame (request : Request) (number : UInt64) :
    (request.frame number).length = UInt64.ofNat (request.frame number).encode.length := by
  have hencode : (request.frame number).encode.length = request.frameLength := by
    rw [Frame.encode, List.length_append, Header.length_encode, frameLength, ← length_payload]
    rfl
  rw [hencode]
  exact thisLength_header request number

namespace Trip

variable {σ : Type} {device : Device σ}

theorem sent?_eq_some {trip : Trip σ} {frame : Frame} (hsent : trip.sent? device = some frame) :
    frame = trip.request.frame trip.before.packetNumber := by
  unfold sent? at hsent
  split at hsent
  · split at hsent
    · exact (Option.some.inj hsent).symm
    · cases hsent
  · cases hsent

/-- What becomes of a session: nothing goes out, or a request goes out and stays without a reply, or
it is answered. -/
theorem exchange_cases (device : Device σ) (trip : Trip σ) :
    (trip.sent? device = none ∧ trip.reply? device = none ∧
        ((trip.after device).desynchronized = true ∨
          (trip.after device).desynchronized = trip.before.desynchronized)) ∨
      (∃ frame, trip.sent? device = some frame ∧ trip.reply? device = none ∧
        trip.before.desynchronized = false ∧ (trip.after device).desynchronized = true) ∨
      ∃ frame reply, trip.sent? device = some frame ∧ trip.reply? device = some reply ∧
        trip.before.desynchronized = false ∧ (trip.after device).desynchronized = false := by
  have heffect := trip.effect device
  generalize trip.sent? device = sent? at heffect ⊢
  generalize trip.arrivals device = arrivals at heffect
  generalize trip.reply? device = reply? at heffect ⊢
  generalize trip.after device = after at heffect ⊢
  cases heffect with
  | still => exact .inl ⟨rfl, rfl, .inr rfl⟩
  | refused state => exact .inl ⟨rfl, rfl, .inl rfl⟩
  | unanswered hflag => exact .inr (.inl ⟨_, rfl, rfl, hflag, rfl⟩)
  | answered hflag => exact .inr (.inr ⟨_, _, rfl, rfl, hflag, rfl⟩)

/-- The round trip at which a session falls out of step, if one does. -/
structure Breaks (device : Device σ) (trip : Trip σ) : Prop where
  before : trip.before.desynchronized = false
  after : (trip.after device).desynchronized = true

def TimedOut (device : Device σ) (trips : List (Trip σ)) : Prop :=
  ∃ trip ∈ trips, trip.outcome device = some (.error .timeout)

theorem timedOut_concat (device : Device σ) (trips : List (Trip σ)) (trip : Trip σ) :
    TimedOut device (trips ++ [trip]) ↔
      TimedOut device trips ∨ trip.outcome device = some (.error .timeout) := by
  simp only [TimedOut, List.mem_append, List.mem_singleton, or_and_right, exists_or,
    exists_eq_left]

end Trip

namespace Session

variable {σ : Type}

/-- How the counters of a session, and what has crossed its channel, follow from the round trips
that have led to it. -/
structure Balanced (device : Device σ) (trips : List (Trip σ)) (session : Session σ) : Prop where
  sent : session.sentFrames = trips.filterMap (Trip.sent? device)
  received : session.receivedFrames = trips.filterMap (Trip.reply? device)
  framesSent : session.metrics.framesSent = UInt64.ofNat session.sentFrames.length
  bytesSent : session.metrics.bytesSent =
    UInt64.ofNat (session.sentFrames.map fun frame => frame.encode.length).sum
  framesReceived : session.metrics.framesReceived = UInt64.ofNat session.receivedFrames.length
  bytesReceived : session.metrics.bytesReceived =
    UInt64.ofNat (session.receivedFrames.map fun frame => frame.header.thisLength.toNat).sum
  inStep : session.desynchronized = false →
    session.sentFrames.length = session.receivedFrames.length
  /-- One round trip has broken the session off, and may have sent a frame without a reply. -/
  broken : session.desynchronized = true → ∃ earlier trip later,
    trips = earlier ++ trip :: later ∧ trip.Breaks device ∧
      session.sentFrames.length =
        session.receivedFrames.length + if (trip.sent? device).isSome then 1 else 0
  abandoned : session.metrics.abandonedRoundTrips = 1 ∧ Trip.TimedOut device trips ∨
    session.metrics.abandonedRoundTrips = 0 ∧ ¬ Trip.TimedOut device trips

theorem desynchronized_of_timedOut {device : Device σ} {config : ClientConfig} {state : σ}
    {host : HostTree} {unasked : List Arrival} {trips : List (Trip σ)} {session : Session σ}
    (hreach : Reach device (fresh config state host unasked) trips session)
    (htimed : Trip.TimedOut device trips) : session.desynchronized = true := by
  obtain ⟨trip, htrip, houtcome⟩ := htimed
  exact (desynchronized_iff hreach).mpr ⟨trip, htrip, .inl ⟨.timeout, houtcome, rfl⟩⟩

namespace Balanced

variable {device : Device σ} {trips : List (Trip σ)} {session : Session σ}

theorem fresh (device : Device σ) (config : ClientConfig) (state : σ) (host : HostTree)
    (unasked : List Arrival) : Balanced device [] (fresh config state host unasked) where
  sent := rfl
  received := rfl
  framesSent := rfl
  bytesSent := rfl
  framesReceived := rfl
  bytesReceived := rfl
  inStep _ := rfl
  broken hflag := by cases hflag
  abandoned := .inr ⟨rfl, by simp [Trip.TimedOut]⟩

theorem aside {after : Session σ} (hbalanced : Balanced device trips session)
    (haside : Aside session after) : Balanced device trips after := by
  have hsent : after.sentFrames = session.sentFrames := by
    simp only [sentFrames, haside.traffic]
  have hreceived : after.receivedFrames = session.receivedFrames := by
    simp only [receivedFrames, haside.traffic]
  constructor
  · rw [hsent, hbalanced.sent]
  · rw [hreceived, hbalanced.received]
  · rw [haside.metrics, hsent, hbalanced.framesSent]
  · rw [haside.metrics, hsent, hbalanced.bytesSent]
  · rw [haside.metrics, hreceived, hbalanced.framesReceived]
  · rw [haside.metrics, hreceived, hbalanced.bytesReceived]
  · rw [haside.desynchronized, hsent, hreceived]
    exact hbalanced.inStep
  · rw [haside.desynchronized, hsent, hreceived]
    exact hbalanced.broken
  · rw [haside.metrics]
    exact hbalanced.abandoned

/-- A round trip keeps a session in step only if it was, and if its request, if any, is answered. -/
theorem inStep_after {request : Request} (hbalanced : Balanced device trips session)
    (hflag : (Trip.after device ⟨session, request⟩).desynchronized = false) :
    (Trip.after device ⟨session, request⟩).sentFrames.length =
      (Trip.after device ⟨session, request⟩).receivedFrames.length := by
  obtain ⟨hsent, hreceived⟩ := Trip.frames_after device ⟨session, request⟩
  rw [hsent, hreceived, List.length_append, List.length_append]
  rcases Trip.exchange_cases device ⟨session, request⟩ with
    ⟨hout, hback, hbroken | hkept⟩ | ⟨-, -, -, -, hbroken⟩ | ⟨frame, reply, hout, hback, hbefore, -⟩
  · rw [hflag] at hbroken
    cases hbroken
  · rw [hout, hback, hbalanced.inStep (hkept.symm.trans hflag)]
  · rw [hflag] at hbroken
    cases hbroken
  · rw [hout, hback, hbalanced.inStep hbefore]
    rfl

/-- Once a round trip has broken a session off, the others leave everything as it is. -/
theorem broken_after {request : Request} (hbalanced : Balanced device trips session)
    (hflag : (Trip.after device ⟨session, request⟩).desynchronized = true) :
    ∃ earlier trip later, trips ++ [⟨session, request⟩] = earlier ++ trip :: later ∧
      trip.Breaks device ∧
      (Trip.after device ⟨session, request⟩).sentFrames.length =
        (Trip.after device ⟨session, request⟩).receivedFrames.length +
          if (trip.sent? device).isSome then 1 else 0 := by
  cases hbefore : session.desynchronized with
  | true =>
      obtain ⟨earlier, trip, later, rfl, hbreaks, hlengths⟩ := hbalanced.broken hbefore
      have hsame : Trip.after device ⟨session, request⟩ = session :=
        (Trip.of_desynchronized hbefore).2
      refine ⟨earlier, trip, later ++ [⟨session, request⟩], by simp, hbreaks, ?_⟩
      rw [hsame]
      exact hlengths
  | false =>
      refine ⟨trips, ⟨session, request⟩, [], rfl, ⟨hbefore, hflag⟩, ?_⟩
      obtain ⟨hsent, hreceived⟩ := Trip.frames_after device ⟨session, request⟩
      rw [hsent, hreceived, List.length_append, List.length_append, hbalanced.inStep hbefore]
      rcases Trip.exchange_cases device ⟨session, request⟩ with
        ⟨hout, hback, -⟩ | ⟨frame, hout, hback, -, -⟩ | ⟨-, -, -, -, -, hkept⟩
      · rw [hout, hback]
        rfl
      · rw [hout, hback]
        rfl
      · rw [hflag] at hkept
        cases hkept

/-- A session that has waited too long once does not wait again. -/
theorem abandoned_after {request : Request} (hbalanced : Balanced device trips session)
    (hbroken : Trip.TimedOut device trips → session.desynchronized = true) :
    let after := Trip.after device ⟨session, request⟩
    after.metrics.abandonedRoundTrips = 1 ∧ Trip.TimedOut device (trips ++ [⟨session, request⟩]) ∨
      after.metrics.abandonedRoundTrips = 0 ∧
        ¬ Trip.TimedOut device (trips ++ [⟨session, request⟩]) := by
  intro after
  have hadds := (Trip.adds device ⟨session, request⟩).abandonedRoundTrips
  have hevent : Trip.endEvent? device ⟨session, request⟩ = some .roundTripAbandoned ↔
      Trip.outcome device ⟨session, request⟩ = some (.error .timeout) :=
    Metrics.endEvent?_eq_abandoned_iff
  have hconcat := Trip.timedOut_concat device trips ⟨session, request⟩
  by_cases hnow : Trip.outcome device ⟨session, request⟩ = some (.error .timeout)
  · have hnone : session.metrics.abandonedRoundTrips = 0 := by
      rcases hbalanced.abandoned with ⟨-, hbefore⟩ | ⟨hzero, -⟩
      · have hflag : (⟨session, request⟩ : Trip σ).before.desynchronized = true := hbroken hbefore
        obtain ⟨hturned, -⟩ := Trip.of_desynchronized hflag
        rw [hnow] at hturned
        split at hturned <;> cases hturned
      · exact hzero
    rw [if_pos (hevent.mpr hnow), hnone] at hadds
    exact .inl ⟨hadds, hconcat.mpr (.inr hnow)⟩
  · rw [if_neg (fun habandoned => hnow (hevent.mp habandoned)), UInt64.add_zero] at hadds
    rw [show after.metrics.abandonedRoundTrips = _ from hadds, hconcat, or_iff_left hnow]
    exact hbalanced.abandoned

theorem trip (hbalanced : Balanced device trips session)
    (hbroken : Trip.TimedOut device trips → session.desynchronized = true) (request : Request) :
    Balanced device (trips ++ [⟨session, request⟩]) (session.call device request).2 := by
  obtain ⟨hsent, hreceived⟩ := Trip.frames_after device ⟨session, request⟩
  have hadds := Trip.adds device ⟨session, request⟩
  change Balanced device _ (Trip.after device ⟨session, request⟩)
  constructor
  · rw [hsent, List.filterMap_append, ← hbalanced.sent]
    cases hout : Trip.sent? device ⟨session, request⟩ <;> simp [hout]
  · rw [hreceived, List.filterMap_append, ← hbalanced.received]
    cases hback : Trip.reply? device ⟨session, request⟩ <;> simp [hback]
  · rw [hadds.framesSent, hsent, List.length_append, UInt64.ofNat_add, hbalanced.framesSent]
  · rw [hadds.bytesSent, hsent, List.map_append, List.sum_append, UInt64.ofNat_add,
      hbalanced.bytesSent]
    cases hout : Trip.sent? device ⟨session, request⟩ with
    | none => rfl
    | some frame =>
        obtain rfl := Trip.sent?_eq_some hout
        simp [Request.length_frame]
  · rw [hadds.framesReceived, hreceived, List.length_append, UInt64.ofNat_add,
      hbalanced.framesReceived]
  · rw [hadds.bytesReceived, hreceived, List.map_append, List.sum_append, UInt64.ofNat_add,
      hbalanced.bytesReceived]
    cases hback : Trip.reply? device ⟨session, request⟩ with
    | none => rfl
    | some reply => simp [Frame.length]
  · exact hbalanced.inStep_after
  · exact hbalanced.broken_after
  · exact hbalanced.abandoned_after hbroken

theorem of_reach {config : ClientConfig} {state : σ} {host : HostTree} {unasked : List Arrival}
    (hreach : Reach device (Session.fresh config state host unasked) trips session) :
    Balanced device trips session := by
  induction hreach with
  | start => exact fresh device config state host unasked
  | aside _ haside ih => exact ih.aside haside
  | trip request hreach ih => exact ih.trip (desynchronized_of_timedOut hreach) request

end Balanced

end Session

/-- In every history, after each round trip and at the end, the counters balance. -/
theorem traffic_balances {σ : Type} (device : Device σ) (config : ClientConfig) (state : σ)
    (host : HostTree) (unasked : List Arrival) (uses : List Use) :
    let start := Session.fresh config state host unasked
    let trips := start.trips device uses
    Session.Balanced device trips (start.afterUses device uses) ∧
      ∀ earlier trip later, trips = earlier ++ trip :: later →
        Session.Balanced device (earlier ++ [trip]) (trip.after device) := by
  intro start trips
  have hreach := Session.reach_afterUses device start uses
  exact ⟨.of_reach hreach, fun earlier trip later hall => .of_reach (hreach.after_of_append hall)⟩

end FileConduit

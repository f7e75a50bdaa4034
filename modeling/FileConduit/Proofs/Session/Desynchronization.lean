import FileConduit.Proofs.Session.Correlation

/-!
# Desynchronization

A round trip that breaks off, or is given up, is the only thing that desynchronizes a session,
and nothing synchronizes it again.  A failure of any other kind comes either before the request
is sent or after its own reply has been read.
-/

namespace FileConduit

namespace Trip

variable {σ : Type} {device : Device σ} {trip : Trip σ}

/-- Whether sending, receiving or waiting failed. -/
def BreaksOff (device : Device σ) (trip : Trip σ) : Prop :=
  ∃ error, trip.outcome device = some (.error error) ∧ error.breaksOff = true

/-- Whether the caller gave up while the request was under way. -/
def GivenUp (device : Device σ) (trip : Trip σ) : Prop :=
  trip.outcome device = none

/-- Whether the request and its own reply are all that crossed the channel. -/
def Completes (device : Device σ) (trip : Trip σ) : Prop :=
  ∃ reply, trip.reply? device = some reply ∧ (trip.after device).desynchronized = false ∧
    (trip.after device).traffic = trip.before.traffic ++
      [.sent (trip.request.frame trip.before.packetNumber), .received reply]

/-- A reply ends its round trip. -/
theorem completes_of_reply? {reply : Frame} (hreply : trip.reply? device = some reply) :
    trip.Completes device := by
  refine ⟨reply, hreply, ?_⟩
  have heffect := trip.effect device
  rw [hreply] at heffect
  generalize trip.sent? device = sent at heffect
  generalize trip.arrivals device = arrivals at heffect
  generalize trip.after device = after at heffect
  cases heffect with
  | answered hflag hreceipt =>
      exact ⟨rfl, by simp [Session.received, Session.waiting, Session.sent, Session.opened]⟩

theorem cause_of_mapError_reply {result : Except ReplyError α} {error : ClientError}
    (herror : result.mapError ClientError.reply = .error error) :
    ∃ cause, error = .reply cause := by
  cases result with
  | error cause =>
      cases herror
      exact ⟨cause, rfl⟩
  | ok value => cases herror

theorem desynchronized_after_iff (device : Device σ) (trip : Trip σ) :
    (trip.after device).desynchronized = true ↔
      trip.before.desynchronized = true ∨ trip.BreaksOff device ∨ trip.GivenUp device := by
  have hcourse := trip.course device
  unfold BreaksOff GivenUp
  generalize trip.outcome device = outcome at hcourse
  generalize trip.after device = after at hcourse
  cases hcourse with
  | cancelled hcancelled => simp [ClientError.breaksOff]
  | desynchronized hcancelled hflag => simp [hflag]
  | refused hcancelled hflag hreact => simp [Session.opened, ClientError.breaksOff]
  | brokenOff hcancelled hflag hreact hreceipt hfailure =>
      obtain ⟨metrics, hmetrics⟩ := Session.countAny_eq
        { trip.before.waiting trip.request _ _ _ with inbox := _ } _
      have hbreaks := Receipt.breaksOff_of_failure? hfailure
      rw [hmetrics]
      exact iff_of_true rfl (.inr (.inl ⟨_, rfl, hbreaks⟩))
  | givenUp hcancelled hflag hreact hreceipt => exact iff_of_true rfl (.inr (.inr rfl))
  | answered hcancelled hflag hreact hreceipt =>
      obtain ⟨metrics, hmetrics⟩ := Session.observe_eq
        ({ trip.before.waiting trip.request _ _ _ with inbox := _ }.received _)
        (trip.request.answer trip.before.config.tellByteOrder _)
      rw [hmetrics, hflag]
      refine iff_of_false (by simp [Session.received]) ?_
      rintro (hfalse | ⟨error, herror, hbreaks⟩ | hnone)
      · cases hfalse
      · obtain ⟨cause, rfl⟩ := cause_of_mapError_reply (Option.some.inj herror)
        cases hbreaks
      · cases hnone

theorem of_desynchronized (hflag : trip.before.desynchronized = true) :
    trip.outcome device =
        some (.error (if trip.before.cancelled then .cancelled else .desynchronized)) ∧
      trip.after device = trip.before := by
  unfold outcome after
  by_cases hcancelled : trip.before.cancelled = true
  · rw [Session.call_of_cancelled hcancelled, if_pos hcancelled]
    exact ⟨rfl, rfl⟩
  · rw [if_neg hcancelled]
    rw [Bool.not_eq_true] at hcancelled
    rw [Session.call_of_error hcancelled (Session.exchange_of_desynchronized hflag)]
    exact ⟨rfl, rfl⟩

/-- A failed round trip broke off, or never began, or read its own reply. -/
theorem failure_cases {error : ClientError} (herror : trip.outcome device = some (.error error)) :
    (error.breaksOff = true ∧ (trip.after device).desynchronized = true) ∨
      ((error = .cancelled ∧ trip.before.cancelled = true ∨
          error = .desynchronized ∧ trip.before.cancelled = false ∧
            trip.before.desynchronized = true) ∧ trip.after device = trip.before) ∨
      ((∃ cause, error = .reply cause) ∧ trip.Completes device) := by
  have hcourse := trip.course device
  rw [herror] at hcourse
  generalize hanswer : (some (.error error) : Option (Except ClientError trip.request.Answer)) =
    outcome at hcourse
  generalize trip.after device = after at hcourse
  cases hcourse with
  | cancelled hcancelled =>
      cases hanswer
      exact .inr (.inl ⟨.inl ⟨rfl, hcancelled⟩, rfl⟩)
  | desynchronized hcancelled hflag =>
      cases hanswer
      exact .inr (.inl ⟨.inr ⟨rfl, hcancelled, hflag⟩, rfl⟩)
  | refused hcancelled hflag hreact =>
      cases hanswer
      exact .inl ⟨rfl, rfl⟩
  | brokenOff hcancelled hflag hreact hreceipt hfailure =>
      cases hanswer
      obtain ⟨metrics, hmetrics⟩ := Session.countAny_eq
        { trip.before.waiting trip.request _ _ _ with inbox := _ } _
      rw [hmetrics]
      exact .inl ⟨Receipt.breaksOff_of_failure? hfailure, rfl⟩
  | givenUp hcancelled hflag hreact hreceipt => cases hanswer
  | answered hcancelled hflag hreact hreceipt =>
      have hreply := cause_of_mapError_reply (Option.some.inj hanswer).symm
      exact .inr (.inr ⟨hreply,
        completes_of_reply? (reply?_of_frame hcancelled hflag hreact hreceipt)⟩)

theorem cancelled_iff (device : Device σ) (trip : Trip σ) :
    trip.outcome device = some (.error .cancelled) ↔ trip.before.cancelled = true := by
  constructor
  · intro herror
    rcases failure_cases herror with
      ⟨hbreaks, -⟩ | ⟨⟨-, hcancelled⟩ | ⟨hkind, -⟩, -⟩ | ⟨⟨_, hkind⟩, -⟩
    · cases hbreaks
    · exact hcancelled
    · cases hkind
    · cases hkind
  · intro hcancelled
    rw [outcome, Session.call_of_cancelled hcancelled]

theorem refused_desynchronized_iff (device : Device σ) (trip : Trip σ) :
    trip.outcome device = some (.error .desynchronized) ↔
      trip.before.cancelled = false ∧ trip.before.desynchronized = true := by
  constructor
  · intro herror
    rcases failure_cases herror with
      ⟨hbreaks, -⟩ | ⟨⟨hkind, -⟩ | ⟨-, hlost⟩, -⟩ | ⟨⟨_, hkind⟩, -⟩
    · cases hbreaks
    · cases hkind
    · exact hlost
    · cases hkind
  · rintro ⟨hcancelled, hflag⟩
    rw [(of_desynchronized hflag).1, hcancelled]
    rfl

/-- A request that is not turned away is answered, unless its round trip breaks off or is given
up. -/
theorem completes_or (hcancelled : trip.before.cancelled = false)
    (hflag : trip.before.desynchronized = false) :
    trip.Completes device ∨ trip.BreaksOff device ∨ trip.GivenUp device := by
  have hcourse := trip.course device
  unfold BreaksOff GivenUp
  generalize trip.outcome device = outcome at hcourse ⊢
  generalize trip.after device = after at hcourse
  cases hcourse with
  | cancelled hturned =>
      rw [hturned] at hcancelled
      cases hcancelled
  | desynchronized _ hturned =>
      rw [hturned] at hflag
      cases hflag
  | refused hcancelled hflag hreact => exact .inr (.inl ⟨_, rfl, rfl⟩)
  | brokenOff hcancelled hflag hreact hreceipt hfailure =>
      exact .inr (.inl ⟨_, rfl, Receipt.breaksOff_of_failure? hfailure⟩)
  | givenUp hcancelled hflag hreact hreceipt => exact .inr (.inr rfl)
  | answered hcancelled hflag hreact hreceipt =>
      exact .inl (completes_of_reply? (reply?_of_frame hcancelled hflag hreact hreceipt))

end Trip

/-! ## Runs -/

namespace Session

variable {σ : Type} {device : Device σ} {config : ClientConfig} {state : σ} {host : HostTree}
  {unasked : List Arrival} {trips : List (Trip σ)} {session start final : Session σ}

theorem desynchronized_iff
    (hreach : Reach device (fresh config state host unasked) trips session) :
    session.desynchronized = true ↔
      ∃ trip ∈ trips, trip.BreaksOff device ∨ trip.GivenUp device := by
  induction hreach with
  | start => simp [fresh]
  | aside _ haside ih => rw [haside.desynchronized, ih]
  | @trip trips before request _ ih =>
      have hstep := Trip.desynchronized_after_iff device ⟨before, request⟩
      rw [show (before.call device request).2 = Trip.after device ⟨before, request⟩ from rfl,
        hstep, ih]
      simp only [List.mem_append, List.mem_singleton, or_and_right, exists_or, exists_eq_left]

/-- Nothing synchronizes a session again. -/
theorem Reach.desynchronized (hreach : Reach device start trips final)
    (hflag : start.desynchronized = true) : final.desynchronized = true := by
  induction hreach with
  | start => exact hflag
  | aside _ haside ih => rw [haside.desynchronized, ih]
  | @trip trips before request _ ih =>
      exact (Trip.desynchronized_after_iff device ⟨before, request⟩).mpr (.inl ih)

/-- While a session is in step, as many frames have come as have gone out. -/
theorem frames_in_step
    (hreach : Reach device (fresh config state host unasked) trips session)
    (hflag : session.desynchronized = false) :
    session.sentFrames.length = session.receivedFrames.length := by
  have hcorrelated : Correlated device config unasked trips session := .of_reach hreach
  obtain ⟨last, hanswers, hlast⟩ := hcorrelated.answers
  have hlength := congrArg List.length hanswers
  rw [hlast hflag, List.append_nil, List.length_map, List.length_map] at hlength
  rw [hcorrelated.received, hcorrelated.sent, ← hlength, Request.length_frames, List.length_map]

end Session

/-! ## Giving up -/

namespace Inbox

theorem receiveFrom_ne_abandoned (limit : UInt64) (deadline : Moment) (arrivals : List Arrival) :
    ∀ (buffer : Bytes) (clock : Moment),
      (receiveFrom limit ⟨deadline, none⟩ buffer clock arrivals).1 ≠ .abandoned := by
  induction arrivals with
  | nil =>
      intro buffer clock
      unfold receiveFrom
      split <;> simp [Patience.silence]
  | cons arrival later ih =>
      intro buffer clock
      unfold receiveFrom
      split
      · simp
      · simp
      · cases arrival with
        | bytes data => exact ih (buffer ++ data) clock
        | pause span =>
            dsimp only
            split
            · exact ih buffer (clock + span.microseconds)
            · simp [Patience.silence]
        | fault fault => simp
        | closed =>
            dsimp only
            split <;> simp

end Inbox

namespace Trip

variable {σ : Type} {device : Device σ} {trip : Trip σ}

theorem not_givenUp (hgivesUp : trip.before.givesUp = none) : ¬ trip.GivenUp device := by
  intro hnone
  have hcourse := trip.course device
  rw [hnone] at hcourse
  generalize trip.after device = after at hcourse
  cases hcourse with
  | @givenUp hcancelled hflag cancels arrivals state inbox hreact hreceipt =>
      let waiting := trip.before.waiting trip.request state cancels arrivals
      have hpatience : waiting.patience = ⟨waiting.patience.deadline, none⟩ := by
        show Patience.mk _ trip.before.givesUp = _
        rw [hgivesUp]
        rfl
      refine Inbox.receiveFrom_ne_abandoned waiting.config.maxFrameLength
        waiting.patience.deadline waiting.inbox.arrivals waiting.inbox.buffer waiting.inbox.clock ?_
      rw [← hpatience]
      exact congrArg Prod.fst hreceipt

end Trip

namespace Session

variable {σ : Type}

theorem programTrips_givesUp (device : Device σ) (program : Program α) :
    ∀ session : Session σ, ∀ trip ∈ session.programTrips device program,
      trip.before.givesUp = session.givesUp := by
  induction program with
  | done result =>
      intro session trip htrip
      cases htrip
  | halted cause =>
      intro session trip htrip
      cases htrip
  | checkpoint next ih =>
      intro session
      exact ih session.cancelled session
  | call request next ih =>
      intro session trip htrip
      have hkept := (session.call_keeps device request).1
      unfold programTrips at htrip
      rcases List.mem_cons.mp htrip with rfl | hlater
      · rfl
      · cases hcall : session.call device request with
        | mk answer after =>
            rw [hcall] at hlater hkept
            cases answer with
            | none => cases hlater
            | some answer =>
                rw [ih answer after trip hlater]
                exact hkept
  | host action next ih =>
      intro session trip htrip
      exact ih _ { session with host := (session.host.perform action).2 } trip htrip

theorem trips_givesUp (device : Device σ) (session : Session σ) (uses : List Use)
    (hpatient : ∀ use ∈ uses, use.Patient) :
    ∀ trip ∈ session.trips device uses, trip.before.givesUp = none := by
  induction uses generalizing session with
  | nil =>
      intro trip htrip
      cases htrip
  | cons first uses ih =>
      intro trip htrip
      have hfirst := hpatient first List.mem_cons_self
      rcases List.mem_append.mp htrip with hnow | hlater
      · cases first with
        | operation program span =>
            rw [show span = none from hfirst] at hnow
            exact programTrips_givesUp device program (session.givingUp none) trip hnow
        | cancel => cases hnow
      · exact ih (session.use device first)
          (fun use huse => hpatient use (List.mem_cons_of_mem first huse)) trip hlater

end Session

/-- In every history, a session is desynchronized exactly from the first round trip on that
breaks off or is given up.  From then on round trips fail and change nothing.  Nothing else but the
user's cancelling turns a request away, so that one is answered, breaks off or is given up.  A round
trip that fails in any other way leaves the flag as it is, and no reply of its own unread.  Nothing
is given up unless a time has been set for it. -/
theorem desynchronization_exact {σ : Type} (device : Device σ) (config : ClientConfig)
    (state : σ) (host : HostTree) (unasked : List Arrival) (uses : List Use) :
    let start := Session.fresh config state host unasked
    let trips := start.trips device uses
    let final := start.afterUses device uses
    let Broken := fun trips : List (Trip σ) =>
      ∃ trip ∈ trips, trip.BreaksOff device ∨ trip.GivenUp device
    (final.desynchronized = true ↔ Broken trips) ∧
    (¬ Broken trips → final.sentFrames.length = final.receivedFrames.length) ∧
    (∀ earlier trip later, trips = earlier ++ trip :: later →
      (trip.before.desynchronized = true ↔ Broken earlier) ∧
      ((trip.after device).desynchronized = true ↔ Broken (earlier ++ [trip])) ∧
      (Broken earlier → trip.after device = trip.before ∧ trip.outcome device =
        some (.error (if trip.before.cancelled then .cancelled else .desynchronized))) ∧
      (trip.outcome device = some (.error .cancelled) ↔ trip.before.cancelled = true) ∧
      (trip.outcome device = some (.error .desynchronized) ↔
        trip.before.cancelled = false ∧ Broken earlier) ∧
      (trip.before.cancelled = false → ¬ Broken earlier →
        trip.Completes device ∨ trip.BreaksOff device ∨ trip.GivenUp device) ∧
      (∀ error, trip.outcome device = some (.error error) → error.breaksOff = false →
        ((error = .cancelled ∨ error = .desynchronized) ∧ trip.after device = trip.before) ∨
          ((∃ cause, error = .reply cause) ∧ trip.Completes device))) ∧
    ((∀ use ∈ uses, use.Patient) → ∀ trip ∈ trips, ¬ trip.GivenUp device) := by
  intro start trips final Broken
  have hreach := Session.reach_afterUses device start uses
  have hfinal := Session.desynchronized_iff hreach
  refine ⟨hfinal, fun hnone => ?_, fun earlier trip later hall => ?_, fun hpatient trip htrip => ?_⟩
  · have hflag : final.desynchronized = false := by
      rw [← Bool.not_eq_true]
      exact fun hflag => hnone (hfinal.mp hflag)
    exact Session.frames_in_step hreach hflag
  · have hbefore := Session.desynchronized_iff (hreach.before_of_append hall)
    have hafter := Session.desynchronized_iff (hreach.after_of_append hall)
    refine ⟨hbefore, hafter, fun hbroken => ?_, trip.cancelled_iff device, ?_,
      fun hcancelled hwhole => ?_, fun error herror hother => ?_⟩
    · exact (Trip.of_desynchronized (hbefore.mpr hbroken)).symm
    · rw [trip.refused_desynchronized_iff device, hbefore]
    · have hflag : trip.before.desynchronized = false := by
        rw [← Bool.not_eq_true]
        exact fun hflag => hwhole (hbefore.mp hflag)
      exact Trip.completes_or hcancelled hflag
    · rcases Trip.failure_cases herror with ⟨hbreaks, -⟩ | ⟨hturned, hafter⟩ | hread
      · rw [hother] at hbreaks
        cases hbreaks
      · exact .inl ⟨hturned.imp And.left And.left, hafter⟩
      · exact .inr hread
  · exact Trip.not_givenUp (Session.trips_givesUp device start uses hpatient trip htrip)

end FileConduit

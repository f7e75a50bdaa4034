import FileConduit.Proofs.Session.Desynchronization

/-!
# The round trips that a program makes

`Makes` relates a program to the round trips that it can make and to how it then ends, whatever it
is answered; it knows nothing of frames and connections.  Every run of a session is such a course,
so what follows from `Makes` holds for every device, and however the channel behaves.
-/

namespace FileConduit

/-- A round trip as a program sees it: what is asked and what is told, which is nothing if the
caller gives up meanwhile. -/
structure Round where
  request : Request
  answer : Option (Except ClientError request.Answer)

def Trip.round {σ : Type} (device : Device σ) (trip : Trip σ) : Round :=
  ⟨trip.request, trip.outcome device⟩

/-- Whether a failure is one of those with which a round trip can end. -/
def ClientError.endsRound : ClientError → Bool
  | channel _ | framing _ | reply _ => true
  | cancelled | timeout | connectionClosed | desynchronized => true
  | _ => false

def ClientError.isStatus : ClientError → Bool
  | reply (.status _) => true
  | _ => false

theorem ClientError.endsRound_of_breaksOff {error : ClientError}
    (hbreaks : error.breaksOff = true) : error.endsRound = true := by
  cases error <;> simp_all [breaksOff, endsRound]

theorem ClientError.not_isStatus_of_breaksOff {error : ClientError}
    (hbreaks : error.breaksOff = true) : error.isStatus = false := by
  cases error <;> simp_all [breaksOff, isStatus]

structure Round.Sound (round : Round) : Prop where
  ends : ∀ error, round.answer = some (.error error) → error.endsRound = true
  /-- The status that answers a request for removal is a value, whatever it says. -/
  removal : ∀ path error, round.request = .remove path → round.answer = some (.error error) →
    error.isStatus = false

theorem Reply.status_error {reply : Frame} {error : ReplyError}
    (hstatus : Reply.status reply = .error error) (code : StatusCode) : error ≠ .status code := by
  unfold Reply.status expect statusOf at hstatus
  simp only [bind, Except.bind] at hstatus
  by_cases hoperation : reply.operation = .status
  · rw [if_pos hoperation] at hstatus
    dsimp only at hstatus
    split at hstatus
    · cases hstatus
    · cases hstatus
      simp
  · rw [if_neg hoperation, if_neg hoperation] at hstatus
    cases hstatus
    simp

/-- With what a round trip fails: it breaks off, it is not made, or its reply is no answer. -/
theorem Session.Course.failure {σ : Type} {device : Device σ} {session after : Session σ}
    {request : Request} {outcome : Option (Except ClientError request.Answer)}
    (hcourse : Course device session request outcome after) {error : ClientError}
    (herror : outcome = some (.error error)) :
    error.breaksOff = true ∨ error = .cancelled ∨ error = .desynchronized ∨
      ∃ cause order reply, error = .reply cause ∧ request.answer order reply = .error cause := by
  cases hcourse with
  | cancelled hcancelled =>
      cases herror
      exact .inr (.inl rfl)
  | desynchronized hcancelled hflag =>
      cases herror
      exact .inr (.inr (.inl rfl))
  | refused hcancelled hflag hreact =>
      cases herror
      exact .inl rfl
  | brokenOff hcancelled hflag hreact hreceipt hfailure =>
      cases herror
      exact .inl (Receipt.breaksOff_of_failure? hfailure)
  | givenUp hcancelled hflag hreact hreceipt => cases herror
  | answered hcancelled hflag hreact hreceipt =>
      rename_i reply inbox
      have hread := Option.some.inj herror
      generalize hanswer : request.answer session.config.tellByteOrder reply = answer at hread
      cases answer with
      | ok value => cases hread
      | error cause =>
          cases hread
          exact .inr (.inr (.inr ⟨cause, _, reply, rfl, hanswer⟩))

theorem Trip.round_sound {σ : Type} (device : Device σ) (trip : Trip σ) :
    (trip.round device).Sound := by
  constructor
  · intro error herror
    rcases (trip.course device).failure herror with hbreaks | rfl | rfl | ⟨cause, -, -, rfl, -⟩
    · exact ClientError.endsRound_of_breaksOff hbreaks
    · rfl
    · rfl
    · rfl
  · intro path error hrequest herror
    rcases (trip.course device).failure herror with
      hbreaks | rfl | rfl | ⟨cause, order, reply, rfl, hanswer⟩
    · exact ClientError.not_isStatus_of_breaksOff hbreaks
    · rfl
    · rfl
    · have hstatus : Reply.status reply = .error cause := by
        obtain ⟨before, request⟩ := trip
        cases hrequest
        exact hanswer
      cases cause with
      | status code => exact absurd rfl (Reply.status_error hstatus code)
      | _ => rfl

namespace Program

variable {α β : Type}

/-- A program can make these round trips, one after another, and then ends so. -/
inductive Makes : Program α → List Round → Outcome α → Prop where
  | done (result : Except ClientError α) : Makes (.done result) [] (.finished result)
  | halted (cause : Halt) : Makes (.halted cause) [] (.halted cause)
  | answered {request : Request} {next : Except ClientError request.Answer → Program α}
      {answer : Except ClientError request.Answer} {rounds : List Round} {outcome : Outcome α}
      (hnext : Makes (next answer) rounds outcome) :
      Makes (.call request next) (⟨request, some answer⟩ :: rounds) outcome
  | givenUp {request : Request} {next : Except ClientError request.Answer → Program α} :
      Makes (.call request next) [⟨request, none⟩] .abandoned
  | checkpoint {next : Bool → Program α} {cancelled : Bool} {rounds : List Round}
      {outcome : Outcome α} (hnext : Makes (next cancelled) rounds outcome) :
      Makes (.checkpoint next) rounds outcome
  | host {action : HostAction} {next : Except HostFault action.Answer → Program α}
      {answer : Except HostFault action.Answer} {rounds : List Round} {outcome : Outcome α}
      (hnext : Makes (next answer) rounds outcome) : Makes (.host action next) rounds outcome

variable {rounds : List Round}

/-- How two programs in a row can go: the first ends, and the second goes on from its result; or
the first does not end. -/
inductive Chained (program : Program α) (next : Except ClientError α → Program β) :
    List Round → Outcome β → Prop where
  | both {first rest : List Round} {result : Except ClientError α} {outcome : Outcome β}
      (hfirst : Makes program first (.finished result)) (hrest : Makes (next result) rest outcome) :
      Chained program next (first ++ rest) outcome
  | abandoned {first : List Round} (hfirst : Makes program first .abandoned) :
      Chained program next first .abandoned
  | halted {first : List Round} {cause : Halt} (hfirst : Makes program first (.halted cause)) :
      Chained program next first (.halted cause)

theorem Makes.chained {program : Program α} {next : Except ClientError α → Program β}
    {outcome : Outcome β} (hmakes : Makes (program.andThen next) rounds outcome) :
    Chained program next rounds outcome := by
  induction program generalizing rounds with
  | done result =>
      show Chained _ _ ([] ++ rounds) outcome
      exact .both (.done result) hmakes
  | halted cause =>
      cases hmakes
      exact .halted (.halted cause)
  | call request rest ih =>
      cases hmakes with
      | givenUp => exact .abandoned .givenUp
      | answered hnext =>
          cases ih _ hnext with
          | both hfirst hrest => exact .both (.answered hfirst) hrest
          | abandoned hfirst => exact .abandoned (.answered hfirst)
          | halted hfirst => exact .halted (.answered hfirst)
  | checkpoint rest ih =>
      cases hmakes with
      | checkpoint hnext =>
          cases ih _ hnext with
          | both hfirst hrest => exact .both (.checkpoint hfirst) hrest
          | abandoned hfirst => exact .abandoned (.checkpoint hfirst)
          | halted hfirst => exact .halted (.checkpoint hfirst)
  | host action rest ih =>
      cases hmakes with
      | host hnext =>
          cases ih _ hnext with
          | both hfirst hrest => exact .both (.host hfirst) hrest
          | abandoned hfirst => exact .abandoned (.host hfirst)
          | halted hfirst => exact .halted (.host hfirst)

end Program

/-! ## Runs of a session -/

namespace Session

variable {σ α : Type}

/-- The round trips of a program in a session, in order; also those that fail before anything is
sent. -/
def rounds (device : Device σ) (program : Program α) (session : Session σ) : List Round :=
  (session.programTrips device program).map (Trip.round device)

theorem rounds_call (device : Device σ) {request : Request}
    {next : Except ClientError request.Answer → Program α} (session : Session σ) :
    ∃ others, session.rounds device (.call request next) =
      Trip.round device ⟨session, request⟩ :: others := by
  rw [rounds, programTrips, List.map_cons]
  exact ⟨_, rfl⟩

/-- What is last among the rounds of a run is last among its round trips. -/
theorem last_of_rounds {device : Device σ} {program : Program α} {session : Session σ}
    {trip : Trip σ} {goal : Prop} (htrip : trip ∈ session.programTrips device program)
    (hlast : ∀ earlier later, session.rounds device program =
      earlier ++ trip.round device :: later → later = [] ∧ goal) :
    goal ∧ ∃ earlier, session.programTrips device program = earlier ++ [trip] := by
  obtain ⟨earlier, later, htrips⟩ := List.append_of_mem htrip
  have hall : session.rounds device program =
      earlier.map (Trip.round device) ++ trip.round device :: later.map (Trip.round device) := by
    rw [rounds, htrips, List.map_append, List.map_cons]
  obtain ⟨hlater, hgoal⟩ := hlast _ _ hall
  rw [List.map_eq_nil_iff] at hlater
  subst hlater
  exact ⟨hgoal, earlier, htrips⟩

theorem rounds_sound (device : Device σ) (program : Program α) (session : Session σ) :
    ∀ round ∈ session.rounds device program, round.Sound := by
  intro round hround
  obtain ⟨trip, -, rfl⟩ := List.mem_map.mp hround
  exact trip.round_sound device

theorem run_makes (device : Device σ) (program : Program α) :
    ∀ session : Session σ, Program.Makes program (session.rounds device program)
      (session.run device program).1 := by
  induction program with
  | done result =>
      intro session
      exact .done result
  | halted cause =>
      intro session
      exact .halted cause
  | call request next ih =>
      intro session
      rw [rounds, programTrips, run, List.map_cons]
      have houtcome : Trip.round device ⟨session, request⟩ =
          ⟨request, (session.call device request).1⟩ := rfl
      rw [houtcome]
      cases hcall : session.call device request with
      | mk answer after =>
          cases answer with
          | none => exact .givenUp
          | some answer => exact .answered (ih answer after)
  | checkpoint next ih =>
      intro session
      exact .checkpoint (ih session.cancelled session)
  | host action next ih =>
      intro session
      exact .host (ih (session.host.perform action).1
        { session with host := (session.host.perform action).2 })

end Session

end FileConduit

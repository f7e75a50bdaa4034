import FileConduit.Proofs.Program.Rounds

/-!
# What a program asks, and with what it fails

`Within` bounds a program from both sides: every request that it can make is of one kind, and it
fails in certain ways only, if round trips do.  Its steps need not suffice.  The rules follow the
ways in which programs are put together.
-/

namespace FileConduit.Program

variable {α β τ : Type} {asks : Request → Prop} {fails : ClientError → Prop}

/-- Whether every failure that a result reports is one of these. -/
def Faultless (fails : ClientError → Prop) (result : Except ClientError α) : Prop :=
  ∀ error, result = .error error → fails error

/-- Whether a program makes requests of one kind only, and fails in certain ways only, if its round
trips do. -/
def Within (asks : Request → Prop) (fails : ClientError → Prop) : Program α → Prop
  | done result => Faultless fails result
  | halted _ => True
  | call request next =>
      asks request ∧ ∀ answer, Faultless fails answer → Within asks fails (next answer)
  | checkpoint next => ∀ cancelled, Within asks fails (next cancelled)
  | host _ next => ∀ answer, Within asks fails (next answer)

namespace Within

variable {program : Program α}

theorem value (value : α) : Within asks fails (done (.ok value)) := by
  intro error herror
  cases herror

theorem fail {error : ClientError} (herror : fails error) :
    Within asks fails (Program.fail error : Program α) := by
  intro other hother
  cases hother
  exact herror

theorem request {request : Request} (hasks : asks request) :
    Within asks fails (Program.request request) :=
  ⟨hasks, fun _ hanswer => hanswer⟩

theorem stopIfCancelled (hcancelled : fails .cancelled) :
    Within asks fails Program.stopIfCancelled := by
  intro cancelled
  cases cancelled with
  | true => exact fail hcancelled
  | false => exact value ()

theorem onHost (hhost : ∀ fault, fails (.host fault)) (action : HostAction) :
    Within asks fails (Program.onHost action) := by
  intro answer
  cases answer with
  | ok answer => exact value answer
  | error fault => exact fail (hhost fault)

theorem andThen {next : Except ClientError α → Program β} (hfirst : Within asks fails program)
    (hnext : ∀ result, Faultless fails result → Within asks fails (next result)) :
    Within asks fails (program.andThen next) := by
  induction program with
  | done result => exact hnext result hfirst
  | halted cause => trivial
  | call request rest ih =>
      exact ⟨hfirst.1, fun answer hanswer => ih answer (hfirst.2 answer hanswer)⟩
  | checkpoint rest ih => exact fun cancelled => ih cancelled (hfirst cancelled)
  | host action rest ih => exact fun answer => ih answer (hfirst answer)

theorem bind {next : α → Program β} (hfirst : Within asks fails program)
    (hnext : ∀ value, Within asks fails (next value)) : Within asks fails (program >>= next) := by
  refine hfirst.andThen fun result hresult => ?_
  cases result with
  | ok value => exact hnext value
  | error error => exact fail (hresult error rfl)

theorem repeatUntilNone {step : τ → Program (Option τ)}
    (hstep : ∀ now, Within asks fails (step now)) (steps : Nat) :
    ∀ now, Within asks fails (Program.repeatUntilNone step steps now) := by
  induction steps with
  | zero =>
      intro now
      trivial
  | succ steps ih =>
      intro now
      apply (hstep now).bind
      intro next
      cases next with
      | none => exact value ()
      | some next => exact ih next

theorem collect {step : τ → Program (Option (α × τ))}
    (hstep : ∀ now, Within asks fails (step now)) (count : Nat) :
    ∀ now, Within asks fails (Program.collect step count now) := by
  induction count with
  | zero => exact fun _ => value []
  | succ count ih =>
      intro now
      apply (hstep now).andThen
      intro result _
      rcases result with error | next
      · exact value _
      · cases next with
        | none => exact value []
        | some next => exact (ih next.2).bind fun rest => value _

/-- Where round trips fail so, the whole program does. -/
theorem of_makes {rounds : List Round} {outcome : Outcome α} (hwithin : Within asks fails program)
    (hmakes : Makes program rounds outcome)
    (hrounds : ∀ round ∈ rounds, ∀ error, round.answer = some (.error error) → fails error) :
    (∀ round ∈ rounds, asks round.request) ∧
      ∀ error, outcome = .finished (.error error) → fails error := by
  induction hmakes with
  | done result =>
      refine ⟨fun _ hround => (List.not_mem_nil hround).elim, fun error herror => ?_⟩
      cases herror
      exact hwithin error rfl
  | halted cause =>
      refine ⟨fun _ hround => (List.not_mem_nil hround).elim, fun error herror => ?_⟩
      cases herror
  | @answered request next answer rounds outcome hnext ih =>
      obtain ⟨hfirst, hlater⟩ := List.forall_mem_cons.mp hrounds
      have hanswer : Faultless fails answer := by
        intro error herror
        exact hfirst error (by rw [herror])
      obtain ⟨hasked, hended⟩ := ih (hwithin.2 answer hanswer) hlater
      exact ⟨List.forall_mem_cons.mpr ⟨hwithin.1, hasked⟩, hended⟩
  | givenUp =>
      refine ⟨fun round hround => ?_, fun _ herror => by cases herror⟩
      rw [List.mem_singleton.mp hround]
      exact hwithin.1
  | checkpoint hnext ih => exact ih (hwithin _) hrounds
  | host hnext ih => exact ih (hwithin _) hrounds

variable {σ : Type}

/-- What a program is within, every run of it in a session is. -/
theorem of_run (hwithin : Within asks fails program)
    (hends : ∀ error : ClientError, error.endsRound = true → fails error) (device : Device σ)
    (session : Session σ) :
    (∀ trip ∈ session.programTrips device program, asks trip.request) ∧
      ∀ error, (session.run device program).1 = .finished (.error error) → fails error := by
  have hrounds : ∀ round ∈ session.rounds device program, ∀ error,
      round.answer = some (.error error) → fails error := by
    intro round hround error herror
    exact hends error ((session.rounds_sound device program round hround).ends error herror)
  obtain ⟨hasked, hended⟩ := hwithin.of_makes (session.run_makes device program) hrounds
  refine ⟨fun trip htrip => ?_, hended⟩
  exact hasked (trip.round device) (List.mem_map_of_mem htrip)

end Within

end FileConduit.Program

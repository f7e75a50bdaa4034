import FileConduit.Proofs.Program.Confinement
import FileConduit.Proofs.Program.Rounds
import FileConduit.Proofs.Request.Refusal

/-!
# Traces

A trace tells the round trips of a run and what it asks of the host, in the order in which they
happen.  `Traces` relates a program to the traces that it can leave, whatever it is answered, and a
program that is made of two leaves the trace of the one and then that of the other.
-/

namespace FileConduit

inductive Event where
  | round (round : Round)
  | host (action : HostAction) (answer : Except HostFault action.Answer)

namespace Event

def round? : Event → Option Round
  | .round made => some made
  | .host .. => none

end Event

namespace Program

variable {α β : Type}

/-- A program can leave this trace, and then ends so. -/
inductive Traces : Program α → List Event → Outcome α → Prop where
  | done (result : Except ClientError α) : Traces (.done result) [] (.finished result)
  | halted (cause : Halt) : Traces (.halted cause) [] (.halted cause)
  | answered {request : Request} {next : Except ClientError request.Answer → Program α}
      {answer : Except ClientError request.Answer} {events : List Event} {outcome : Outcome α}
      (hnext : Traces (next answer) events outcome) :
      Traces (.call request next) (.round ⟨request, some answer⟩ :: events) outcome
  | givenUp {request : Request} {next : Except ClientError request.Answer → Program α} :
      Traces (.call request next) [.round ⟨request, none⟩] .abandoned
  | checkpoint {next : Bool → Program α} {cancelled : Bool} {events : List Event}
      {outcome : Outcome α} (hnext : Traces (next cancelled) events outcome) :
      Traces (.checkpoint next) events outcome
  | host {action : HostAction} {next : Except HostFault action.Answer → Program α}
      {answer : Except HostFault action.Answer} {events : List Event} {outcome : Outcome α}
      (hnext : Traces (next answer) events outcome) :
      Traces (.host action next) (.host action answer :: events) outcome

namespace Traces

variable {events : List Event}

/-- When two programs in a row come to a result, the first has come to one too. -/
theorem of_andThen {program : Program α} {next : Except ClientError α → Program β}
    {result : Except ClientError β}
    (htraces : Traces (program.andThen next) events (.finished result)) :
    ∃ first rest middle, events = first ++ rest ∧ Traces program first (.finished middle) ∧
      Traces (next middle) rest (.finished result) := by
  induction program generalizing events with
  | done middle => exact ⟨[], events, middle, rfl, .done middle, htraces⟩
  | halted cause => cases htraces
  | call request later ih =>
      cases htraces with
      | answered hnext =>
          obtain ⟨first, rest, middle, rfl, hfirst, hrest⟩ := ih _ hnext
          exact ⟨_, rest, middle, rfl, .answered hfirst, hrest⟩
  | checkpoint later ih =>
      cases htraces with
      | checkpoint hnext =>
          obtain ⟨first, rest, middle, rfl, hfirst, hrest⟩ := ih _ hnext
          exact ⟨_, rest, middle, rfl, .checkpoint hfirst, hrest⟩
  | host action later ih =>
      cases htraces with
      | host hnext =>
          obtain ⟨first, rest, middle, rfl, hfirst, hrest⟩ := ih _ hnext
          exact ⟨_, rest, middle, rfl, .host hfirst, hrest⟩

theorem of_bind {program : Program α} {next : α → Program β} {value : β}
    (htraces : Traces (program >>= next) events (.finished (.ok value))) :
    ∃ first rest middle, events = first ++ rest ∧ Traces program first (.finished (.ok middle)) ∧
      Traces (next middle) rest (.finished (.ok value)) := by
  obtain ⟨first, rest, middle, hevents, hfirst, hrest⟩ := of_andThen htraces
  rcases middle with error | middle
  · cases hrest
  · exact ⟨first, rest, middle, hevents, hfirst, hrest⟩

theorem of_request {request : Request} {answer : request.Answer}
    (htraces : Traces (Program.request request) events (.finished (.ok answer))) :
    events = [.round ⟨request, some (.ok answer)⟩] := by
  cases htraces with
  | answered hnext =>
      cases hnext
      rfl

theorem of_stopIfCancelled {value : Unit}
    (htraces : Traces stopIfCancelled events (.finished (.ok value))) : events = [] := by
  cases htraces with
  | @checkpoint _ cancelled _ _ hnext =>
      cases cancelled <;> cases hnext
      rfl

theorem of_onHost {action : HostAction} {answer : action.Answer}
    (htraces : Traces (onHost action) events (.finished (.ok answer))) :
    events = [.host action (.ok answer)] := by
  cases htraces with
  | @host _ _ told _ _ hnext =>
      rcases told with fault | told
      · cases hnext
      · cases hnext
        rfl

end Traces

end Program

namespace Session

variable {σ α : Type}

def events (device : Device σ) : Program α → Session σ → List Event
  | .done _, _ => []
  | .halted _, _ => []
  | .checkpoint next, session => events device (next session.cancelled) session
  | .call request next, session =>
      .round ⟨request, (session.call device request).1⟩ ::
        match session.call device request with
        | (none, _) => []
        | (some answer, session) => events device (next answer) session
  | .host action next, session =>
      let (answer, host) := session.host.perform action
      .host action answer :: events device (next answer) { session with host }

theorem run_traces (device : Device σ) (program : Program α) :
    ∀ session : Session σ, Program.Traces program (session.events device program)
      (session.run device program).1 := by
  induction program with
  | done result =>
      intro session
      exact .done result
  | halted cause =>
      intro session
      exact .halted cause
  | call request next ih =>
      intro session
      rw [events, run]
      cases hcall : session.call device request with
      | mk answer after =>
          cases answer with
          | none => exact .givenUp
          | some answer => exact .answered (ih answer after)
  | checkpoint next ih =>
      intro session
      exact .checkpoint (ih session.cancelled session)
  | host action next ih =>
      intro session
      exact .host (ih (session.host.perform action).1
        { session with host := (session.host.perform action).2 })

theorem rounds_of_events (device : Device σ) (program : Program α) :
    ∀ session : Session σ,
      (session.events device program).filterMap Event.round? = session.rounds device program := by
  induction program with
  | done result =>
      intro session
      rfl
  | halted cause =>
      intro session
      rfl
  | call request next ih =>
      intro session
      have hround : Trip.round device ⟨session, request⟩ =
          ⟨request, (session.call device request).1⟩ := rfl
      rw [events, rounds, programTrips, List.map_cons, List.filterMap_cons, hround]
      cases hcall : session.call device request with
      | mk answer after =>
          cases answer with
          | none => rfl
          | some answer => exact congrArg _ (ih answer after)
  | checkpoint next ih =>
      intro session
      exact ih session.cancelled session
  | host action next ih =>
      intro session
      exact ih (session.host.perform action).1
        { session with host := (session.host.perform action).2 }

theorem length_read_le (device : Device σ) (program : Program α) (session : Session σ)
    {handle : Handle} {size : UInt64} {data : Bytes}
    (hevent : .round ⟨.read handle size, some (.ok data)⟩ ∈ session.events device program) :
    data.length ≤ size.toNat := by
  have hround : ⟨.read handle size, some (.ok data)⟩ ∈ session.rounds device program := by
    rw [← rounds_of_events]
    exact List.mem_filterMap.mpr ⟨_, hevent, rfl⟩
  obtain ⟨⟨before, request⟩, -, htrip⟩ := List.mem_map.mp hround
  obtain ⟨rfl, hanswer⟩ := Round.mk.inj htrip
  obtain ⟨reply, -, hread⟩ := Trip.reply?_of_outcome (eq_of_heq hanswer)
  exact (Reply.data_ok_iff.mp hread).2.2

end Session

end FileConduit

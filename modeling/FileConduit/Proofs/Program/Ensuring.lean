import FileConduit.Proofs.Program.Play
import FileConduit.Proofs.Program.Trace

/-!
# What runs leave behind

Some events of a run leave marks.  `Ensures` tells what holds of the marks and of how a program
ends, whatever it is answered as long as the answers can be trusted.  Its rules follow the ways in
which programs are put together; a loop keeps an invariant, which may count the steps that are left.
-/

namespace FileConduit.Program

variable {α β μ : Type} {trusted : Event → Prop} {mark? : Event → Option μ}

/-- From these marks on, a program ends with marks and an outcome of which a condition holds. -/
def Ensures (trusted : Event → Prop) (mark? : Event → Option μ)
    (post : List μ → Outcome α → Prop) : Program α → List μ → Prop
  | done result, past => post past (.finished result)
  | halted cause, past => post past (.halted cause)
  | call request next, past =>
      post (past ++ (mark? (.round ⟨request, none⟩)).toList) .abandoned ∧
        ∀ answer, trusted (.round ⟨request, some answer⟩) →
          Ensures trusted mark? post (next answer)
            (past ++ (mark? (.round ⟨request, some answer⟩)).toList)
  | checkpoint next, past => ∀ cancelled, Ensures trusted mark? post (next cancelled) past
  | host action next, past =>
      ∀ answer, trusted (.host action answer) →
        Ensures trusted mark? post (next answer) (past ++ (mark? (.host action answer)).toList)

namespace Ensures

variable {post : List μ → Outcome α → Prop} {program : Program α} {past : List μ}

theorem marks_cons (mark? : Event → Option μ) (event : Event) (events : List Event) :
    (event :: events).filterMap mark? = (mark? event).toList ++ events.filterMap mark? := by
  rw [List.filterMap_cons]
  cases mark? event <;> rfl

/-- What is ensured holds of every trace whose events can be trusted. -/
theorem of_traces {events : List Event} {outcome : Outcome α}
    (hensures : Ensures trusted mark? post program past)
    (htraces : Traces program events outcome) (htrusted : ∀ event ∈ events, trusted event) :
    post (past ++ events.filterMap mark?) outcome := by
  induction htraces generalizing past with
  | done result => rwa [List.filterMap_nil, List.append_nil]
  | halted cause => rwa [List.filterMap_nil, List.append_nil]
  | answered hnext ih =>
      obtain ⟨hevent, hlater⟩ := List.forall_mem_cons.mp htrusted
      rw [marks_cons, ← List.append_assoc]
      exact ih (hensures.2 _ hevent) hlater
  | givenUp =>
      rw [marks_cons, ← List.append_assoc, List.filterMap_nil, List.append_nil]
      exact hensures.1
  | checkpoint hnext ih => exact ih (hensures _) htrusted
  | host hnext ih =>
      obtain ⟨hevent, hlater⟩ := List.forall_mem_cons.mp htrusted
      rw [marks_cons, ← List.append_assoc]
      exact ih (hensures _ hevent) hlater

/-- A condition on how a first program ends from which a second one goes on. -/
def Next (trusted : Event → Prop) (mark? : Event → Option μ) (post : List μ → Outcome β → Prop)
    (next : Except ClientError α → Program β) : List μ → Outcome α → Prop
  | marks, .finished result => Ensures trusted mark? post (next result) marks
  | marks, .abandoned => post marks .abandoned
  | marks, .halted cause => post marks (.halted cause)

theorem andThen {post : List μ → Outcome β → Prop} {next : Except ClientError α → Program β}
    (hfirst : Ensures trusted mark? (Next trusted mark? post next) program past) :
    Ensures trusted mark? post (program.andThen next) past := by
  induction program generalizing past with
  | done result => exact hfirst
  | halted cause => exact hfirst
  | call request rest ih => exact ⟨hfirst.1, fun answer htrusted => ih _ (hfirst.2 answer htrusted)⟩
  | checkpoint rest ih => exact fun cancelled => ih _ (hfirst cancelled)
  | host action rest ih => exact fun answer htrusted => ih _ (hfirst answer htrusted)

theorem mono {weaker : List μ → Outcome α → Prop}
    (hensures : Ensures trusted mark? post program past)
    (hweaker : ∀ marks outcome, post marks outcome → weaker marks outcome) :
    Ensures trusted mark? weaker program past := by
  induction program generalizing past with
  | done result => exact hweaker _ _ hensures
  | halted cause => exact hweaker _ _ hensures
  | call request rest ih =>
      exact ⟨hweaker _ _ hensures.1, fun answer htrusted => ih _ (hensures.2 answer htrusted)⟩
  | checkpoint rest ih => exact fun cancelled => ih _ (hensures cancelled)
  | host action rest ih => exact fun answer htrusted => ih _ (hensures answer htrusted)

/-- A program that asks nothing of the host, and only for what leaves no marks. -/
theorem unmarked {allowed : Request → Prop} {causes : List Halt} {good : α → Prop}
    (honly : Only allowed causes program)
    (hconfined : program.Confined (fun _ => False) good)
    (hsilent : ∀ request, allowed request → ∀ answer, mark? (.round ⟨request, answer⟩) = none)
    (hpost : ∀ outcome, (∀ cause, outcome = .halted cause → cause ∈ causes) → post past outcome) :
    Ensures trusted mark? post program past := by
  induction program with
  | done result => exact hpost _ (by simp)
  | halted cause => exact hpost _ fun other hother => Outcome.halted.inj hother ▸ honly
  | call request rest ih =>
      have hnone := hsilent request honly.1
      refine ⟨?_, fun answer _ => ?_⟩
      · rw [hnone, Option.toList_none, List.append_nil]
        exact hpost _ (by simp)
      · rw [hnone, Option.toList_none, List.append_nil]
        exact ih answer (honly.2 answer) (hconfined answer)
  | checkpoint rest ih => exact fun cancelled => ih _ (honly cancelled) (hconfined cancelled)
  | host action rest ih => exact hconfined.1.elim

theorem stopIfCancelled {post : List μ → Outcome Unit → Prop}
    (hgoes : post past (.finished (.ok ()))) (hstops : post past (.finished (.error .cancelled))) :
    Ensures trusted mark? post Program.stopIfCancelled past := by
  intro cancelled
  cases cancelled with
  | true => exact hstops
  | false => exact hgoes

theorem request (request : Request) {post : List μ → Outcome request.Answer → Prop}
    (hgivenUp : post (past ++ (mark? (.round ⟨request, none⟩)).toList) .abandoned)
    (hanswer : ∀ answer, trusted (.round ⟨request, some answer⟩) →
      post (past ++ (mark? (.round ⟨request, some answer⟩)).toList) (.finished answer)) :
    Ensures trusted mark? post (Program.request request) past :=
  ⟨hgivenUp, hanswer⟩

theorem onHost {action : HostAction} {post : List μ → Outcome action.Answer → Prop}
    (hanswer : ∀ answer, trusted (.host action (.ok answer)) →
      post (past ++ (mark? (.host action (.ok answer))).toList) (.finished (.ok answer)))
    (hfault : ∀ fault, post (past ++ (mark? (.host action (.error fault))).toList)
      (.finished (.error (.host fault)))) :
    Ensures trusted mark? post (Program.onHost action) past := by
  intro answer htrusted
  cases answer with
  | ok answer => exact hanswer answer htrusted
  | error fault => exact hfault fault

/-- A condition on how a step of a loop ends: either the loop ends with it, or an invariant holds
of the state to go on from. -/
def Stepped {τ : Type} (post : List μ → Outcome Unit → Prop) (invariant : τ → List μ → Prop) :
    List μ → Outcome (Option τ) → Prop
  | marks, .finished (.ok (some next)) => invariant next marks
  | marks, .finished (.ok none) => post marks (.finished (.ok ()))
  | marks, .finished (.error error) => post marks (.finished (.error error))
  | marks, .abandoned => post marks .abandoned
  | marks, .halted cause => post marks (.halted cause)

theorem repeatUntilNone {τ : Type} {step : τ → Program (Option τ)}
    {post : List μ → Outcome Unit → Prop} (invariant : Nat → τ → List μ → Prop)
    (hzero : ∀ now past, invariant 0 now past → post past (.halted .steps))
    (hstep : ∀ count now past, invariant (count + 1) now past →
      Ensures trusted mark? (Stepped post (invariant count)) (step now) past) :
    ∀ count now past, invariant count now past →
      Ensures trusted mark? post (repeatUntilNone step count now) past := by
  intro count
  induction count with
  | zero => exact hzero
  | succ count ih =>
      intro now past hnow
      refine (hstep count now past hnow).mono (fun marks outcome hstepped => ?_) |>.andThen
      cases outcome with
      | finished result =>
          rcases result with error | next
          · exact hstepped
          · cases next with
            | none => exact hstepped
            | some next => exact ih next marks hstepped
      | abandoned => exact hstepped
      | halted cause => exact hstepped

end Ensures

end FileConduit.Program

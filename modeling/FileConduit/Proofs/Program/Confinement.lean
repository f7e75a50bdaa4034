import FileConduit.Proofs.Session.Desynchronization

/-!
# What a program asks of the host

`Session.hostActions` lists what a run asks of the host's file system, and nothing else changes
the host's files.  A confined program asks only for what is allowed, whatever it is answered; the
rules below follow the ways in which programs are put together.
-/

namespace FileConduit

namespace Program

/-- Whether a program asks of the host only what is allowed, and every value that it ends with is
as it should be. -/
def Confined (allowed : HostAction → Prop) (good : α → Prop) : Program α → Prop
  | done (.ok value) => good value
  | done (.error _) => True
  | halted _ => True
  | call _ next => ∀ answer, (next answer).Confined allowed good
  | checkpoint next => ∀ cancelled, (next cancelled).Confined allowed good
  | host action next => allowed action ∧ ∀ answer, (next answer).Confined allowed good

namespace Confined

variable {allowed : HostAction → Prop} {good : α → Prop} {better : β → Prop}
  {program : Program α}

theorem request (request : Request) :
    (Program.request request).Confined allowed fun _ => True :=
  fun answer => by cases answer <;> trivial

theorem ofResult (result : Except ClientError α) :
    (Program.ofResult result).Confined allowed fun _ => True := by
  cases result <;> trivial

theorem stopIfCancelled : Program.stopIfCancelled.Confined allowed fun _ => True :=
  fun cancelled => by cases cancelled <;> trivial

theorem onHost {action : HostAction} (hallowed : allowed action) :
    (Program.onHost action).Confined allowed fun _ => True :=
  ⟨hallowed, fun answer => by cases answer <;> trivial⟩

/-- Whatever comes next may rely on the values of what comes before. -/
theorem andThen {next : Except ClientError α → Program β}
    (hprogram : program.Confined allowed good)
    (hnext : ∀ result, (∀ value, result = .ok value → good value) →
      (next result).Confined allowed better) :
    (program.andThen next).Confined allowed better := by
  induction program with
  | done result =>
      refine hnext result fun value hvalue => ?_
      subst hvalue
      exact hprogram
  | halted cause => trivial
  | call request rest ih => exact fun answer => ih answer (hprogram answer)
  | checkpoint rest ih => exact fun cancelled => ih cancelled (hprogram cancelled)
  | host action rest ih => exact ⟨hprogram.1, fun answer => ih answer (hprogram.2 answer)⟩

theorem bind {next : α → Program β} (hprogram : program.Confined allowed good)
    (hnext : ∀ value, good value → (next value).Confined allowed better) :
    (program >>= next).Confined allowed better := by
  refine hprogram.andThen fun result hresult => ?_
  cases result with
  | error error => trivial
  | ok value => exact hnext value (hresult value rfl)

/-- What each step keeps holds for all steps. -/
theorem repeatUntilNone {state : Type} {step : state → Program (Option state)}
    {invariant : state → Prop}
    (hstep : ∀ now, invariant now →
      (step now).Confined allowed fun next => ∀ later, next = some later → invariant later)
    (count : Nat) : ∀ now, invariant now →
      (Program.repeatUntilNone step count now).Confined allowed fun _ => True := by
  induction count with
  | zero =>
      intro now hnow
      trivial
  | succ count ih =>
      intro now hnow
      refine (hstep now hnow).bind fun next hnext => ?_
      cases next with
      | none => trivial
      | some later => exact ih later (hnext later rfl)

end Confined

end Program

namespace Session

variable {σ : Type}

def hostActions (device : Device σ) : Program α → Session σ → List HostAction
  | .done _, _ => []
  | .halted _, _ => []
  | .checkpoint next, session => hostActions device (next session.cancelled) session
  | .call request next, session =>
      match session.call device request with
      | (none, _) => []
      | (some answer, session) => hostActions device (next answer) session
  | .host action next, session =>
      let (answer, host) := session.host.perform action
      action :: hostActions device (next answer) { session with host }

theorem allowed_of_confined (device : Device σ) {allowed : HostAction → Prop} {good : α → Prop}
    {program : Program α} (hconfined : program.Confined allowed good) :
    ∀ session : Session σ, ∀ action ∈ session.hostActions device program, allowed action := by
  induction program with
  | done result =>
      intro session action haction
      cases haction
  | halted cause =>
      intro session action haction
      cases haction
  | call request next ih =>
      intro session action haction
      rw [hostActions] at haction
      split at haction
      · cases haction
      · exact ih _ (hconfined _) _ action haction
  | checkpoint next ih =>
      intro session
      exact ih session.cancelled (hconfined session.cancelled) session
  | host action next ih =>
      intro session other hother
      rcases List.mem_cons.mp hother with rfl | hlater
      · exact hconfined.1
      · exact ih _ (hconfined.2 _) _ other hlater

/-- A run changes the host's files by what it asks of the host, and in no other way. -/
theorem run_host (device : Device σ) (program : Program α) :
    ∀ session : Session σ, (session.run device program).2.host =
      (session.hostActions device program).foldl (fun tree action => (tree.perform action).2)
        session.host := by
  induction program with
  | done result =>
      intro session
      rfl
  | halted cause =>
      intro session
      rfl
  | call request next ih =>
      intro session
      have hkept := (session.call_keeps device request).2
      rw [run, hostActions]
      cases hcall : session.call device request with
      | mk answer after =>
          rw [hcall] at hkept
          cases answer with
          | none => exact hkept
          | some answer =>
              have hrest := ih answer after
              rw [hkept] at hrest
              exact hrest
  | checkpoint next ih =>
      intro session
      exact ih session.cancelled session
  | host action next ih =>
      intro session
      exact ih (session.host.perform action).1
        { session with host := (session.host.perform action).2 }

end Session

end FileConduit

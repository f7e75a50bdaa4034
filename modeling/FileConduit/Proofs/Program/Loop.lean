import FileConduit.Proofs.Program.Play

/-!
# Loops

A segment of a loop is a number of its steps, each of which gives a state to go on from.  Segments
compose, and a loop that comes to a state whose step gives none ends, in however many steps it is
allowed beyond those that it needs.  A loop that always comes to a state of the same kind never
does.
-/

namespace FileConduit.Program

variable {σ τ : Type} {responder : Responder σ} {step : τ → Program (Option τ)}

/-- A segment of a loop, which leads from one state to another. -/
inductive Loops (responder : Responder σ) (step : τ → Program (Option τ)) :
    τ → World σ → List Request → τ → World σ → Prop where
  | refl (now : τ) (world : World σ) : Loops responder step now world [] now world
  | step {now next last : τ} {requests later : List Request} {world middle final : World σ}
      (hstep : Ends responder (step now) world (.ok (some next)) requests middle)
      (hrest : Loops responder step next middle later last final) :
      Loops responder step now world (requests ++ later) last final

namespace Loops

variable {now middle last : τ} {requests later : List Request} {world reached final : World σ}

theorem trans (hfirst : Loops responder step now world requests middle reached)
    (hrest : Loops responder step middle reached later last final) :
    Loops responder step now world (requests ++ later) last final := by
  induction hfirst with
  | refl now world => exact hrest
  | step hstep hfirst ih =>
      rw [List.append_assoc]
      exact .step hstep (ih hrest)

theorem of_step (hstep : Ends responder (step now) world (.ok (some last)) requests final) :
    Loops responder step now world requests last final := by
  have hloops := Loops.step hstep (.refl last final)
  rwa [List.append_nil] at hloops

/-- A loop that comes to its end does so in every sufficient number of steps. -/
theorem ends (hloops : Loops responder step now world requests last final)
    (hlast : Ends responder (step last) final (.ok none) [] final) :
    ∃ enough, ∀ steps, enough ≤ steps →
      Ends responder (repeatUntilNone step steps now) world (.ok ()) requests final := by
  induction hloops with
  | refl now world =>
      refine ⟨1, fun steps hsteps => ?_⟩
      obtain ⟨spare, rfl⟩ := Nat.exists_eq_add_of_le' hsteps
      exact hlast.bind (.done _ _)
  | step hstep hrest ih =>
      obtain ⟨enough, hrest⟩ := ih hlast
      refine ⟨enough + 1, fun steps hsteps => ?_⟩
      have hone : 1 ≤ steps := Nat.le_trans (Nat.le_add_left 1 enough) hsteps
      obtain ⟨spare, rfl⟩ := Nat.exists_eq_add_of_le' hone
      exact hstep.bind (hrest spare (by omega))

end Loops

/-- A loop whose steps lead from states of one kind to states of the same kind never ends. -/
theorem play_repeatUntilNone_endless (Kind : τ → World σ → Prop)
    (hstep : ∀ now world, Kind now world → ∃ next requests final,
      Ends responder (step now) world (.ok (some next)) requests final ∧ Kind next final)
    (steps : Nat) :
    ∀ now world, Kind now world →
      ((repeatUntilNone step steps now).play responder world).outcome = .halted .steps := by
  induction steps with
  | zero => exact fun _ _ _ => rfl
  | succ steps ih =>
      intro now world hkind
      obtain ⟨next, requests, final, hends, hnext⟩ := hstep now world hkind
      show ((step now >>= _).play responder world).outcome = _
      rw [hends.play_bind, Play.outcome_after]
      exact ih next final hnext

end FileConduit.Program

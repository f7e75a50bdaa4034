import FileConduit.Proofs.Program.Play
import FileConduit.Proofs.Program.Rounds

/-!
# Handles that are closed again

A run is `Paired` if it uses no handle but one that it has just opened, and asks to close that one
as soon as it is done with it.  Such runs put one after another are such a run again, so it suffices
to look at the places where a program opens a file.  A run that is given up closes nothing any more,
and one that halts for want of a buffer may leave the handle open that it has opened last.
-/

namespace FileConduit

namespace Request

def handle? : Request → Option Handle
  | close handle | tell handle => some handle
  | read handle _ | lock handle _ | seek handle _ | resize handle _ => some handle
  | write chunk => some chunk.handle
  | _ => none

inductive Uses (handle : Handle) : Request → Prop where
  | read (size : UInt64) : Uses handle (.read handle size)
  | write {chunk : WriteChunk} (hchunk : chunk.handle = handle) : Uses handle (.write chunk)

end Request

namespace Round

/-- The handle that has been opened.  The null handle stands for none. -/
def opened? : Round → Option Handle
  | ⟨.openFile _ _, some (.ok handle)⟩ => if handle.isNull then none else some handle
  | _ => none

/-- Whether a request is about no handle, and opens none whatever it is answered. -/
def Plain (request : Request) : Prop :=
  request.handle? = none ∧ ∀ answer, opened? ⟨request, answer⟩ = none

/-- Round trips that open a handle, use it and close it, and others that are about none.  If they
have come to a halt, the last one may open a handle. -/
inductive Paired (halted : Prop) : List Round → Prop where
  | nil : Paired halted []
  | left {opened : Round} {handle : Handle} (hhalted : halted)
      (hopened : opened.opened? = some handle) : Paired halted [opened]
  | aside {round : Round} {rounds : List Round} (hhandle : round.request.handle? = none)
      (hopened : round.opened? = none) (hrest : Paired halted rounds) :
      Paired halted (round :: rounds)
  | opened {opened close : Round} {handle : Handle} {uses rounds : List Round}
      (hopened : opened.opened? = some handle) (huses : ∀ use ∈ uses, use.request.Uses handle)
      (hclose : close.request = .close handle) (hrest : Paired halted rounds) :
      Paired halted (opened :: (uses ++ close :: rounds))

theorem Paired.of_plain {halted : Prop} {rounds : List Round}
    (hplain : ∀ round ∈ rounds, Plain round.request) : Paired halted rounds := by
  induction rounds with
  | nil => exact .nil
  | cons round rounds ih =>
      obtain ⟨hfirst, hrest⟩ := List.forall_mem_cons.mp hplain
      exact .aside hfirst.1 (hfirst.2 round.answer) (ih hrest)

/-- Round trips that use an open handle and close it, and go on paired.  If they have come to a
halt, there may be none. -/
inductive Closing (halted : Prop) (handle : Handle) : List Round → Prop where
  | left (hhalted : halted) : Closing halted handle []
  | closed {uses rest : List Round} {close : Round}
      (huses : ∀ use ∈ uses, use.request.Uses handle) (hclose : close.request = .close handle)
      (hrest : Paired halted rest) : Closing halted handle (uses ++ close :: rest)

namespace Paired

variable {halted : Prop} {rounds more earlier later : List Round} {opened : Round}
  {handle : Handle}

theorem append (hrounds : Paired False rounds) (hmore : Paired halted more) :
    Paired halted (rounds ++ more) := by
  induction hrounds with
  | nil => exact hmore
  | left hfalse => exact hfalse.elim
  | aside hhandle hopened hrest ih => exact .aside hhandle hopened ih
  | opened hopened huses hclose hrest ih =>
      rw [List.cons_append, List.append_assoc, List.cons_append]
      exact .opened hopened huses hclose ih

end Paired

theorem Closing.append {halted : Prop} {rounds more : List Round} {handle : Handle}
    (hrounds : Closing False handle rounds) (hmore : Paired halted more) :
    Closing halted handle (rounds ++ more) := by
  cases hrounds with
  | left hfalse => exact hfalse.elim
  | closed huses hclose hrest =>
      rw [List.append_assoc, List.cons_append]
      exact .closed huses hclose (hrest.append hmore)

end Round

namespace Outcome

variable {α : Type}

/-- Whether a run halts because a buffer would be too long. -/
def Overlong : Outcome α → Prop
  | halted cause => cause = .capacity
  | _ => False

end Outcome

namespace Program

variable {α β : Type} {program : Program α}

/-- A run makes only the requests that its program can make, and halts only for the causes for which
it can. -/
theorem Only.makes {allowed : Request → Prop} {causes : List Halt} {rounds : List Round}
    {outcome : Outcome α} (honly : Only allowed causes program)
    (hmakes : Makes program rounds outcome) :
    (∀ cause, outcome = .halted cause → cause ∈ causes) ∧
      ∀ round ∈ rounds, allowed round.request := by
  induction hmakes with
  | done result => simp
  | halted cause => exact ⟨fun other hother => Outcome.halted.inj hother ▸ honly, by simp⟩
  | answered hnext ih =>
      obtain ⟨hends, hrounds⟩ := ih (honly.2 _)
      exact ⟨hends, List.forall_mem_cons.mpr ⟨honly.1, hrounds⟩⟩
  | givenUp => exact ⟨by simp, by simpa using honly.1⟩
  | checkpoint hnext ih => exact ih (honly _)
  | host hnext ih => exact ih (honly _)

def Pairs (program : Program α) : Prop :=
  ∀ rounds outcome, Makes program rounds outcome → outcome ≠ .abandoned →
    Round.Paired outcome.Overlong rounds

/-- Whether every run begins with uses of a handle and its closing, and closes what it opens after
that, as long as nobody gives it up. -/
def Closes (handle : Handle) (program : Program α) : Prop :=
  ∀ rounds outcome, Makes program rounds outcome → outcome ≠ .abandoned →
    Round.Closing outcome.Overlong handle rounds

namespace Pairs

theorem done (result : Except ClientError α) : Pairs (.done result) := by
  intro rounds outcome hmakes _
  cases hmakes
  exact .nil

theorem halted (cause : Halt) : Pairs (.halted cause : Program α) := by
  intro rounds outcome hmakes _
  cases hmakes
  exact .nil

theorem of_only (honly : Only Round.Plain [] program) : Pairs program :=
  fun _ _ hmakes _ => .of_plain (honly.makes hmakes).2

theorem checkpoint {next : Bool → Program α} (hnext : ∀ cancelled, Pairs (next cancelled)) :
    Pairs (.checkpoint next) := by
  intro rounds outcome hmakes hends
  cases hmakes with
  | checkpoint hrest => exact hnext _ _ _ hrest hends

theorem host {action : HostAction} {next : Except HostFault action.Answer → Program α}
    (hnext : ∀ answer, Pairs (next answer)) : Pairs (.host action next) := by
  intro rounds outcome hmakes hends
  cases hmakes with
  | host hrest => exact hnext _ _ _ hrest hends

theorem andThen {next : Except ClientError α → Program β} (hfirst : Pairs program)
    (hnext : ∀ result, Pairs (next result)) : Pairs (program.andThen next) := by
  intro rounds outcome hmakes hends
  cases hmakes.chained with
  | both hmade hrest => exact (hfirst _ _ hmade nofun).append (hnext _ _ _ hrest hends)
  | abandoned hmade => exact absurd rfl hends
  | halted hmade => exact hfirst _ _ hmade nofun

theorem bind {next : α → Program β} (hfirst : Pairs program)
    (hnext : ∀ value, Pairs (next value)) : Pairs (program >>= next) := by
  refine hfirst.andThen fun result => ?_
  cases result with
  | ok value => exact hnext value
  | error error => exact done _

theorem stopIfCancelled : Pairs Program.stopIfCancelled := by
  refine checkpoint fun cancelled => ?_
  cases cancelled <;> exact done _

theorem onHost (action : HostAction) : Pairs (Program.onHost action) := by
  refine host fun answer => ?_
  cases answer <;> exact done _

theorem repeatUntilNone {τ : Type} {step : τ → Program (Option τ)}
    (hstep : ∀ now, Pairs (step now)) (steps : Nat) :
    ∀ now, Pairs (Program.repeatUntilNone step steps now) := by
  induction steps with
  | zero =>
      intro now
      exact halted .steps
  | succ steps ih =>
      intro now
      apply (hstep now).bind
      intro next
      cases next with
      | none => exact done _
      | some next => exact ih next

/-- A file that is opened, used if there is a handle, and closed. -/
theorem opening (path : String) (mode : OpenMode) {next : Handle → Program β}
    (hnull : ∀ handle : Handle, handle.isNull = true → Pairs (next handle))
    (hheld : ∀ handle : Handle, handle.isNull = false → Closes handle (next handle)) :
    Pairs (Program.request (.openFile path mode) >>= next) := by
  intro rounds outcome hmakes hends
  cases hmakes with
  | givenUp => exact absurd rfl hends
  | @answered _ _ answer rounds _ hrest =>
      rcases answer with error | handle
      · cases hrest
        exact .aside rfl rfl .nil
      · cases hhandle : handle.isNull with
        | true =>
            have hopened : Round.opened? ⟨.openFile path mode, some (.ok handle)⟩ = none :=
              if_pos hhandle
            exact .aside rfl hopened (hnull handle hhandle _ _ hrest hends)
        | false =>
            have hopened : Round.opened? ⟨.openFile path mode, some (.ok handle)⟩ =
                some handle := if_neg (by simp [hhandle])
            cases hheld handle hhandle _ _ hrest hends with
            | left hhalted => exact .left hhalted hopened
            | closed huses hclose hpaired => exact .opened hopened huses hclose hpaired

end Pairs

namespace Closes

variable {handle : Handle}

theorem andThen {next : Except ClientError α → Program β} (hfirst : Closes handle program)
    (hnext : ∀ result, Pairs (next result)) : Closes handle (program.andThen next) := by
  intro rounds outcome hmakes hends
  cases hmakes.chained with
  | both hmade hrest => exact (hfirst _ _ hmade nofun).append (hnext _ _ _ hrest hends)
  | abandoned hmade => exact absurd rfl hends
  | halted hmade => exact hfirst _ _ hmade nofun

theorem bind {next : α → Program β} (hfirst : Closes handle program)
    (hnext : ∀ value, Pairs (next value)) : Closes handle (program >>= next) := by
  refine hfirst.andThen fun result => ?_
  cases result with
  | ok value => exact hnext value
  | error error => exact .done _

end Closes

end Program

end FileConduit

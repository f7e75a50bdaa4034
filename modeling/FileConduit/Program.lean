import FileConduit.Host.Tree
import FileConduit.Request.Answer

/-!
# Programs

An operation of the client is a tree: it makes a request and goes on as the answer tells, or it
looks whether it has been cancelled, or asks something of the host's file system.  Nothing is
said about how a request travels, so what holds of a program holds for every device.  Programs
are chained as computations that may fail; `attempt` turns a failure into a value.  A program that
halts has no result, and nothing that should have come after it is done.
-/

namespace FileConduit

/-- Why a program ends without a result. -/
inductive Halt where
  /-- The number of steps that the program was allowed did not suffice. -/
  | steps
  /-- A buffer was asked for that is longer than any can be. -/
  | capacity
  deriving DecidableEq, Repr

inductive Outcome (α : Type) where
  | finished (result : Except ClientError α)
  /-- The caller gave up. -/
  | abandoned
  | halted (cause : Halt)

/-- What an operation does, step by step. -/
inductive Program (α : Type) : Type where
  | done (result : Except ClientError α)
  | halted (cause : Halt)
  /-- Makes a request, unless cancelled, and goes on with the answer. -/
  | call (request : Request) (next : Except ClientError request.Answer → Program α)
  /-- Goes on, knowing whether it has been cancelled. -/
  | checkpoint (next : Bool → Program α)
  | host (action : HostAction) (next : Except HostFault action.Answer → Program α)

namespace Program

/-- Chains a program with one that depends on its result, failures included. -/
def andThen (program : Program α) (next : Except ClientError α → Program β) : Program β :=
  match program with
  | done result => next result
  | halted cause => halted cause
  | call request rest => call request fun answer => (rest answer).andThen next
  | checkpoint rest => checkpoint fun cancelled => (rest cancelled).andThen next
  | host action rest => host action fun answer => (rest answer).andThen next

/-- Chains a program with one that depends on its value; a failure ends both. -/
def bind (program : Program α) (next : α → Program β) : Program β :=
  program.andThen fun result =>
    match result with
    | .ok value => next value
    | .error error => done (.error error)

instance : Monad Program where
  pure value := done (.ok value)
  bind := bind

def fail (error : ClientError) : Program α :=
  done (.error error)

def ofResult (result : Except ClientError α) : Program α :=
  done result

def attempt (program : Program α) : Program (Except ClientError α) :=
  program.andThen fun result => done (.ok result)

def request (request : Request) : Program request.Answer :=
  call request done

/-- Ends here if cancelled. -/
def stopIfCancelled : Program Unit :=
  checkpoint fun cancelled => if cancelled then fail .cancelled else done (.ok ())

def onHost (action : HostAction) : Program action.Answer :=
  host action fun answer =>
    match answer with
    | .ok value => done (.ok value)
    | .error fault => fail (.host fault)

/-- Repeats a step from state to state until it gives none, at most so many times. -/
def repeatUntilNone (step : σ → Program (Option σ)) : Nat → σ → Program Unit
  | 0, _ => halted .steps
  | count + 1, state =>
      (step state).bind fun next =>
        match next with
        | none => done (.ok ())
        | some state => repeatUntilNone step count state

/-- The first values of a stream, at most so many.  A failure is the last of them. -/
def collect (step : σ → Program (Option (α × σ))) :
    Nat → σ → Program (List (Except ClientError α))
  | 0, _ => done (.ok [])
  | count + 1, state =>
      (step state).andThen fun result =>
        match result with
        | .error error => done (.ok [.error error])
        | .ok none => done (.ok [])
        | .ok (some (value, state)) =>
            (collect step count state).bind fun rest => done (.ok (.ok value :: rest))

theorem andThen_assoc (program : Program α) (first : Except ClientError α → Program β)
    (second : Except ClientError β → Program γ) :
    (program.andThen first).andThen second =
      program.andThen fun result => (first result).andThen second := by
  induction program with
  | done result => rfl
  | halted cause => rfl
  | call request rest ih => simp only [andThen, ih]
  | checkpoint rest ih => simp only [andThen, ih]
  | host action rest ih => simp only [andThen, ih]

@[simp] theorem done_bind (value : α) (next : α → Program β) :
    (done (.ok value)).bind next = next value := rfl

end Program

end FileConduit

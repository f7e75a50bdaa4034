import FileConduit.Program

/-!
# Plays

A responder answers requests and keeps a state.  A program that asks a responder, and that is
not cancelled, plays itself out; `play` tells how it ends, what it asks on the way, and what has
become of the responder and of the host.
-/

namespace FileConduit

structure Responder (σ : Type) where
  respond : σ → (request : Request) → Except ReplyError request.Answer × σ

structure World (σ : Type) where
  device : σ
  host : HostTree

structure Play (σ α : Type) where
  outcome : Outcome α
  requests : List Request
  world : World σ

namespace Play

variable {σ α : Type}

def after (requests : List Request) (play : Play σ α) : Play σ α :=
  { play with requests := requests ++ play.requests }

@[simp] theorem outcome_after (requests : List Request) (play : Play σ α) :
    (play.after requests).outcome = play.outcome := rfl

@[simp] theorem requests_after (requests : List Request) (play : Play σ α) :
    (play.after requests).requests = requests ++ play.requests := rfl

end Play

namespace Program

variable {σ α β : Type}

def play (responder : Responder σ) : Program α → World σ → Play σ α
  | done result, world => ⟨.finished result, [], world⟩
  | halted cause, world => ⟨.halted cause, [], world⟩
  | call request next, world =>
      let (answer, device) := responder.respond world.device request
      ((next (answer.mapError .reply)).play responder { world with device }).after [request]
  | checkpoint next, world => (next false).play responder world
  | .host action next, world =>
      let (answer, tree) := world.host.perform action
      (next answer).play responder { world with host := tree }

variable {responder : Responder σ} {world : World σ}

@[simp] theorem play_done (result : Except ClientError α) :
    (done result).play responder world = ⟨.finished result, [], world⟩ := rfl

theorem play_call {request : Request} {next : Except ClientError request.Answer → Program α}
    {answer : Except ReplyError request.Answer} {device : σ}
    (hrespond : responder.respond world.device request = (answer, device)) :
    (call request next).play responder world =
      ((next (answer.mapError .reply)).play responder { world with device }).after [request] := by
  simp only [play, hrespond]

/-- A chained program plays its first part, and then the second on the result of the first. -/
theorem play_andThen (program : Program α) (next : Except ClientError α → Program β) :
    ∀ world, (program.andThen next).play responder world =
      match program.play responder world with
      | ⟨.finished result, requests, world⟩ =>
          ((next result).play responder world).after requests
      | ⟨.abandoned, requests, world⟩ => ⟨.abandoned, requests, world⟩
      | ⟨.halted cause, requests, world⟩ => ⟨.halted cause, requests, world⟩ := by
  induction program with
  | done result =>
      intro world
      rfl
  | halted cause =>
      intro world
      rfl
  | call request rest ih =>
      intro world
      cases hrespond : responder.respond world.device request with
      | mk answer device =>
          rw [andThen, play_call hrespond, play_call hrespond, ih]
          cases (rest (answer.mapError .reply)).play responder { world with device } with
          | mk outcome requests world =>
              cases outcome with
              | finished result => rfl
              | abandoned => rfl
              | halted cause => rfl
  | checkpoint rest ih =>
      intro world
      exact ih false world
  | host action rest ih =>
      intro world
      exact ih _ { world with host := (world.host.perform action).2 }

/-- With more steps a loop makes the same requests first, and ends the same way if it has ended. -/
theorem play_repeatUntilNone_of_le (responder : Responder σ) {τ : Type}
    (step : τ → Program (Option τ)) (fewer : Nat) :
    ∀ {more : Nat}, fewer ≤ more → ∀ (now : τ) (world : World σ),
      let short := (repeatUntilNone step fewer now).play responder world
      let long := (repeatUntilNone step more now).play responder world
      short.requests <+: long.requests ∧ (short.outcome = .halted .steps ∨ long = short) := by
  induction fewer with
  | zero => exact fun _ now world => ⟨List.nil_prefix, .inl rfl⟩
  | succ fewer ih =>
      intro more hmore now world
      obtain ⟨rest, rfl⟩ := Nat.exists_eq_add_of_lt hmore
      intro short long
      have hshort : short = _ := play_andThen (step now) _ world
      have hlong : long = _ := play_andThen (step now) _ world
      rw [hshort, hlong]
      cases (step now).play responder world with
      | mk outcome requests reached =>
          rcases outcome with (error | _ | next) | _ | cause
          · exact ⟨List.prefix_rfl, .inr rfl⟩
          · exact ⟨List.prefix_rfl, .inr rfl⟩
          · obtain ⟨hfront, hended⟩ := ih (Nat.le_add_right fewer rest) next reached
            exact ⟨(List.prefix_append_right_inj requests).mpr hfront,
              hended.imp_right (congrArg (Play.after requests))⟩
          · exact ⟨List.prefix_rfl, .inr rfl⟩
          · exact ⟨List.prefix_rfl, .inr rfl⟩

/-- A program that plays itself out to a result. -/
def Ends (responder : Responder σ) (program : Program α) (world : World σ)
    (result : Except ClientError α) (requests : List Request) (final : World σ) : Prop :=
  program.play responder world = ⟨.finished result, requests, final⟩

namespace Ends

variable {program : Program α} {result : Except ClientError α} {requests later : List Request}
  {middle final : World σ}

theorem done (result : Except ClientError α) (world : World σ) :
    Ends responder (done result) world result [] world := rfl

theorem call {request : Request} {next : Except ClientError request.Answer → Program α}
    {answer : Except ReplyError request.Answer} {device : σ}
    (hrespond : responder.respond world.device request = (answer, device))
    (hnext : Ends responder (next (answer.mapError .reply)) { world with device } result requests
      final) :
    Ends responder (.call request next) world result (request :: requests) final := by
  unfold Ends at *
  rw [play_call hrespond, hnext]
  rfl

theorem request {request : Request} {answer : Except ReplyError request.Answer} {device : σ}
    (hrespond : responder.respond world.device request = (answer, device)) :
    Ends responder (Program.request request) world (answer.mapError .reply) [request]
      { world with device } :=
  call hrespond (done _ _)

theorem andThen {next : Except ClientError α → Program β} {last : Except ClientError β}
    (hfirst : Ends responder program world result requests middle)
    (hnext : Ends responder (next result) middle last later final) :
    Ends responder (program.andThen next) world last (requests ++ later) final := by
  unfold Ends at *
  rw [play_andThen, hfirst]
  simp only [hnext]
  rfl

theorem bind {next : α → Program β} {value : α} {last : Except ClientError β}
    (hfirst : Ends responder program world (.ok value) requests middle)
    (hnext : Ends responder (next value) middle last later final) :
    Ends responder (program >>= next) world last (requests ++ later) final :=
  hfirst.andThen hnext

theorem play_bind {value : α} (hfirst : Ends responder program world (.ok value) requests middle)
    (next : α → Program β) :
    (program >>= next).play responder world =
      ((next value).play responder middle).after requests := by
  unfold Ends at hfirst
  show (program.andThen _).play responder world = _
  rw [play_andThen, hfirst]

theorem bind_error {next : α → Program β} {error : ClientError}
    (hfirst : Ends responder program world (.error error) requests middle) :
    Ends responder (program >>= next) world (.error error) (requests ++ []) middle :=
  hfirst.andThen (done _ _)

/-- A play is never cancelled. -/
theorem stopIfCancelled (responder : Responder σ) (world : World σ) :
    Ends responder stopIfCancelled world (.ok ()) [] world := rfl

theorem onHost (responder : Responder σ) {action : HostAction}
    {answer : Except HostFault action.Answer} {tree : HostTree}
    (hperform : world.host.perform action = (answer, tree)) :
    Ends responder (onHost action) world (answer.mapError .host) []
      { world with host := tree } := by
  unfold Ends Program.onHost
  simp only [play, hperform]
  cases answer with
  | error fault => rfl
  | ok value => rfl

theorem performed (responder : Responder σ) (device : σ) {action : HostAction}
    {answer : action.Answer} {host tree : HostTree}
    (hperform : host.perform action = (.ok answer, tree)) :
    Ends responder (Program.onHost action) ⟨device, host⟩ (.ok answer) [] ⟨device, tree⟩ := by
  unfold Ends Program.onHost
  simp only [play, hperform]

end Ends

/-! ## Programs that make requests of one kind -/

/-- Whether all requests that a program can make are allowed, and it can halt for these causes
only. -/
def Only (allowed : Request → Prop) (causes : List Halt) : Program α → Prop
  | done _ => True
  | halted cause => cause ∈ causes
  | call request next => allowed request ∧ ∀ answer, Only allowed causes (next answer)
  | checkpoint next => ∀ cancelled, Only allowed causes (next cancelled)
  | host _ next => ∀ answer, Only allowed causes (next answer)

namespace Only

variable {allowed : Request → Prop} {causes : List Halt} {program : Program α}

theorem andThen {next : Except ClientError α → Program β} (hfirst : Only allowed causes program)
    (hnext : ∀ result, Only allowed causes (next result)) :
    Only allowed causes (program.andThen next) := by
  induction program with
  | done result => exact hnext result
  | halted cause => exact hfirst
  | call request rest ih => exact ⟨hfirst.1, fun answer => ih answer (hfirst.2 answer)⟩
  | checkpoint rest ih => exact fun cancelled => ih cancelled (hfirst cancelled)
  | host action rest ih => exact fun answer => ih answer (hfirst answer)

theorem bind {next : α → Program β} (hfirst : Only allowed causes program)
    (hnext : ∀ value, Only allowed causes (next value)) :
    Only allowed causes (program >>= next) := by
  refine hfirst.andThen fun result => ?_
  cases result with
  | ok value => exact hnext value
  | error error => trivial

theorem request {request : Request} (hallowed : allowed request) :
    Only allowed causes (Program.request request) :=
  ⟨hallowed, fun _ => trivial⟩

theorem stopIfCancelled : Only allowed causes Program.stopIfCancelled := by
  intro cancelled
  cases cancelled <;> trivial

theorem onHost (action : HostAction) : Only allowed causes (Program.onHost action) := by
  intro answer
  cases answer <;> trivial

theorem repeatUntilNone {τ : Type} {step : τ → Program (Option τ)} (hsteps : .steps ∈ causes)
    (hstep : ∀ now, Only allowed causes (step now)) (steps : Nat) :
    ∀ now, Only allowed causes (Program.repeatUntilNone step steps now) := by
  induction steps with
  | zero => exact fun _ => hsteps
  | succ steps ih =>
      intro now
      apply (hstep now).bind
      intro next
      cases next with
      | none => trivial
      | some next => exact ih next

theorem mono {more : Request → Prop} {others : List Halt} (honly : Only allowed causes program)
    (hmore : ∀ request, allowed request → more request) (hothers : causes ⊆ others) :
    Only more others program := by
  induction program with
  | done result => trivial
  | halted cause => exact hothers honly
  | call request next ih => exact ⟨hmore request honly.1, fun answer => ih answer (honly.2 answer)⟩
  | checkpoint next ih => exact fun cancelled => ih cancelled (honly cancelled)
  | host action next ih => exact fun answer => ih answer (honly answer)

/-- A program plays itself out to a result, or halts for a cause for which it can. -/
theorem outcome_play (honly : Only allowed causes program) (responder : Responder σ)
    (world : World σ) :
    (∃ result, (program.play responder world).outcome = .finished result) ∨
      ∃ cause ∈ causes, (program.play responder world).outcome = .halted cause := by
  induction program generalizing world with
  | done result => exact .inl ⟨result, rfl⟩
  | halted cause => exact .inr ⟨cause, honly, rfl⟩
  | call request next ih => exact ih _ (honly.2 _) _
  | checkpoint next ih => exact ih false (honly false) world
  | host action next ih => exact ih _ (honly _) _

/-- All requests of a play are allowed. -/
theorem requests_play (honly : Only allowed causes program) (responder : Responder σ) :
    ∀ world : World σ, ∀ request ∈ (program.play responder world).requests, allowed request := by
  induction program with
  | done result => simp
  | halted cause => simp [Program.play]
  | call request next ih =>
      intro world other hother
      rcases List.mem_cons.mp hother with rfl | hother
      · exact honly.1
      · exact ih _ (honly.2 _) _ other hother
  | checkpoint next ih => exact fun world => ih false (honly false) world
  | host action next ih => exact fun world => ih _ (honly _) _

theorem ends (honly : Only allowed causes program) {world final : World σ}
    {result : Except ClientError α} {requests : List Request}
    (hends : Ends responder program world result requests final) :
    ∀ request ∈ requests, allowed request := by
  have hplay := honly.requests_play responder world
  rwa [show program.play responder world = _ from hends] at hplay

end Only

end Program

end FileConduit

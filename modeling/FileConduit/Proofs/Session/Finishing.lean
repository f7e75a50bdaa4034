import FileConduit.Proofs.Program.Pairing
import FileConduit.Proofs.Session.Cancellation
import FileConduit.Proofs.Session.Sending

/-!
# Runs that come to a result

`Finishes` tells of a run to what result it comes, by which round trips, and what session it
leaves.  Runs put one after another are a run, and as long as nobody gives up, a program that does
not halt always comes to a result.
-/

namespace FileConduit

/-- Whether a program makes one request and ends with what it reads in the answer. -/
def Program.Once (request : Request) (program : Program α) : Prop :=
  ∃ read : Except ClientError request.Answer → Except ClientError α,
    program = .call request fun answer => .done (read answer)

theorem Program.Once.call {request : Request}
    {next : Except ClientError request.Answer → Program α}
    (hnext : ∀ answer, ∃ result, next answer = .done result) :
    (Program.call request next).Once request := by
  choose read hread using hnext
  exact ⟨read, congrArg _ (funext hread)⟩

theorem Program.Once.andThen {request : Request} {program : Program α}
    {next : Except ClientError α → Program β} (honce : program.Once request)
    (hnext : ∀ result, ∃ last, next result = .done last) :
    (program.andThen next).Once request := by
  obtain ⟨read, rfl⟩ := honce
  choose last hlast using hnext
  exact ⟨fun answer => last (read answer), congrArg _ (funext fun answer => hlast (read answer))⟩

namespace Session

variable {σ α β : Type} {device : Device σ} {session middle final : Session σ}

structure Finishes (device : Device σ) (session : Session σ) (program : Program α)
    (trips : List (Trip σ)) (result : Except ClientError α) (final : Session σ) : Prop where
  run : session.run device program = (.finished result, final)
  trips : session.programTrips device program = trips

namespace Finishes

variable {program : Program α} {trips later : List (Trip σ)} {result : Except ClientError α}

theorem done (result : Except ClientError α) : Finishes device session (.done result) [] result
    session where
  run := rfl
  trips := rfl

theorem call {request : Request} {next : Except ClientError request.Answer → Program α}
    {answer : Except ClientError request.Answer}
    (houtcome : Trip.outcome device ⟨session, request⟩ = some answer)
    (hnext : Finishes device (Trip.after device ⟨session, request⟩) (next answer) later result
      final) :
    Finishes device session (.call request next) (⟨session, request⟩ :: later) result final := by
  have hcall : session.call device request =
      (some answer, Trip.after device ⟨session, request⟩) := Prod.ext houtcome rfl
  constructor
  · rw [Session.run, hcall]
    exact hnext.run
  · rw [programTrips, hcall]
    exact congrArg _ hnext.trips

theorem checkpoint {next : Bool → Program α}
    (hnext : Finishes device session (next session.cancelled) trips result final) :
    Finishes device session (.checkpoint next) trips result final :=
  ⟨hnext.run, hnext.trips⟩

theorem host {action : HostAction} {next : Except HostFault action.Answer → Program α}
    (hnext : Finishes device { session with host := (session.host.perform action).2 }
      (next (session.host.perform action).1) trips result final) :
    Finishes device session (.host action next) trips result final :=
  ⟨hnext.run, hnext.trips⟩

/-- A program goes on from the result of the one before it and the session that this leaves. -/
theorem run_andThen (hfirst : Finishes device session program trips result middle)
    (next : Except ClientError α → Program β) :
    session.run device (program.andThen next) = middle.run device (next result) ∧
      session.programTrips device (program.andThen next) =
        trips ++ middle.programTrips device (next result) := by
  induction program generalizing session trips with
  | done told =>
      obtain ⟨hrun, rfl⟩ := hfirst
      cases hrun
      exact ⟨rfl, rfl⟩
  | halted cause => cases hfirst.run
  | checkpoint rest ih => exact ih session.cancelled ⟨hfirst.run, hfirst.trips⟩
  | host action rest ih => exact ih _ ⟨hfirst.run, hfirst.trips⟩
  | call request rest ih =>
      obtain ⟨hrun, rfl⟩ := hfirst
      rw [Session.run] at hrun
      rw [Program.andThen, Session.run, programTrips, programTrips]
      cases hcall : session.call device request with
      | mk answer after =>
          rw [hcall] at hrun
          cases answer with
          | none => cases hrun
          | some answer =>
              obtain ⟨hrest, htrips⟩ := ih answer ⟨hrun, rfl⟩
              exact ⟨hrest, congrArg _ htrips⟩

theorem run_bind {value : α} (hfirst : Finishes device session program trips (.ok value) middle)
    (next : α → Program β) :
    session.run device (program >>= next) = middle.run device (next value) ∧
      session.programTrips device (program >>= next) =
        trips ++ middle.programTrips device (next value) :=
  hfirst.run_andThen _

theorem andThen {next : Except ClientError α → Program β} {last : Except ClientError β}
    (hfirst : Finishes device session program trips result middle)
    (hnext : Finishes device middle (next result) later last final) :
    Finishes device session (program.andThen next) (trips ++ later) last final := by
  obtain ⟨hrun, htrips⟩ := hfirst.run_andThen next
  exact ⟨hrun.trans hnext.run, htrips.trans (congrArg _ hnext.trips)⟩

theorem bind {next : α → Program β} {value : α} {last : Except ClientError β}
    (hfirst : Finishes device session program trips (.ok value) middle)
    (hnext : Finishes device middle (next value) later last final) :
    Finishes device session (program >>= next) (trips ++ later) last final :=
  hfirst.andThen hnext

end Finishes

/-- A run makes only the requests that the program can make, and halts only for the causes for which
it can. -/
theorem run_only (device : Device σ) {allowed : Request → Prop} {causes : List Halt}
    {program : Program α} (honly : Program.Only allowed causes program) (session : Session σ) :
    (∀ cause, (session.run device program).1 = .halted cause → cause ∈ causes) ∧
      ∀ trip ∈ session.programTrips device program, allowed trip.request := by
  obtain ⟨hhalts, hrounds⟩ := honly.makes (session.run_makes device program)
  exact ⟨hhalts, fun trip htrip => hrounds _ (List.mem_map_of_mem htrip)⟩

/-! ## Runs that nobody gives up -/

theorem call_finishes (device : Device σ) (hpatient : session.givesUp = none) (request : Request) :
    ∃ answer, Trip.outcome device ⟨session, request⟩ = some answer := by
  have hpresent : ¬Trip.GivenUp device ⟨session, request⟩ := Trip.not_givenUp hpatient
  exact Option.ne_none_iff_exists'.mp hpresent

/-- A program of one round trip comes to a result by it. -/
theorem finishes_once (device : Device σ) (hpatient : session.givesUp = none) {request : Request}
    {program : Program α} (honce : program.Once request) :
    ∃ result, Finishes device session program [⟨session, request⟩] result
      (Trip.after device ⟨session, request⟩) := by
  obtain ⟨read, rfl⟩ := honce
  obtain ⟨answer, houtcome⟩ := call_finishes device hpatient request
  exact ⟨read answer, .call houtcome (.done _)⟩

theorem run_givesUp (device : Device σ) (program : Program α) :
    ∀ session : Session σ, (session.run device program).2.givesUp = session.givesUp := by
  induction program with
  | done result => intro session; rfl
  | halted cause => intro session; rfl
  | checkpoint next ih => exact fun session => ih session.cancelled session
  | host action next ih =>
      exact fun session => ih _ { session with host := (session.host.perform action).2 }
  | call request next ih =>
      intro session
      have hkept := (session.call_keeps device request).1
      rw [run]
      cases hcall : session.call device request with
      | mk answer after =>
          rw [hcall] at hkept
          cases answer with
          | none => exact hkept
          | some answer => exact (ih answer after).trans hkept

theorem run_not_abandoned (device : Device σ) (program : Program α) :
    ∀ session : Session σ, session.givesUp = none →
      (session.run device program).1 ≠ .abandoned := by
  induction program with
  | done result => intro session _ habandoned; cases habandoned
  | halted cause => intro session _ habandoned; cases habandoned
  | checkpoint next ih => exact fun session => ih session.cancelled session
  | host action next ih =>
      exact fun session => ih _ { session with host := (session.host.perform action).2 }
  | call request next ih =>
      intro session hpatient
      obtain ⟨answer, houtcome⟩ := call_finishes device hpatient request
      have hcall : session.call device request =
          (some answer, Trip.after device ⟨session, request⟩) := Prod.ext houtcome rfl
      have hkept := (session.call_keeps device request).1
      rw [hcall, hpatient] at hkept
      rw [run, hcall]
      exact ih answer _ hkept

/-- As long as nobody gives up, a program that does not halt comes to a result. -/
theorem finishes (device : Device σ) (hpatient : session.givesUp = none) {program : Program α}
    (hgoes : ∀ cause, (session.run device program).1 ≠ .halted cause) :
    ∃ result final, Finishes device session program (session.programTrips device program) result
      final := by
  cases hrun : session.run device program with
  | mk outcome final =>
      rw [hrun] at hgoes
      have hpresent := run_not_abandoned device program session hpatient
      rw [hrun] at hpresent
      cases outcome with
      | finished result => exact ⟨result, final, hrun, rfl⟩
      | abandoned => exact absurd rfl hpresent
      | halted cause => exact absurd rfl (hgoes cause)

end Session

end FileConduit

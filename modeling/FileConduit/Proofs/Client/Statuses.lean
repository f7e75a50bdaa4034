import FileConduit.Proofs.Client.Removal.Course
import FileConduit.Proofs.Request.Status
import FileConduit.Proofs.Session.Cancellation
import FileConduit.Session.Script

/-!
# Statuses that come through

An operation that makes requests of one kind fails with the first status that refuses one of them,
and tells its number, whatever reply the request expects.  A status of success is no answer to a
request that expects something else.  Either way the round trip has come to its end, so the session
stays in step.
-/

namespace FileConduit

def Round.failure? (round : Round) : Option ClientError :=
  round.answer.bind round.request.failure?

/-! ## Programs that end with the first failure -/

namespace Program

/-- Whether a result is a failure.  Reading into a buffer gives back the buffer as well. -/
inductive Fails : {α : Type} → Except ClientError α → ClientError → Prop where
  | failed {α : Type} (error : ClientError) : Fails (.error error : Except ClientError α) error
  | unread (error : ClientError) (buffer : Bytes) :
      Fails (.ok (.error error, buffer) : Except ClientError (Except ClientError Nat × Bytes)) error

/-- Whether a program ends with the first answer that it cannot do without, and reports why. -/
def Surfaces : Program α → Prop
  | done _ => True
  | halted _ => True
  | call request next =>
      (∀ answer error, request.failure? answer = some error →
        ∃ result, next answer = done result ∧ Fails result error) ∧
      ∀ answer, request.failure? answer = none → Surfaces (next answer)
  | checkpoint next => ∀ cancelled, Surfaces (next cancelled)
  | host _ next => ∀ answer, Surfaces (next answer)

variable {α : Type} {program : Program α} {rounds earlier later : List Round} {round : Round}
  {outcome : Outcome α} {error : ClientError}

/-- The first failure is the last round of a program that surfaces it, and its outcome. -/
theorem Surfaces.of_makes (hsurfaces : program.Surfaces) (hmakes : Makes program rounds outcome)
    (hall : rounds = earlier ++ round :: later) (hfailure : round.failure? = some error) :
    later = [] ∧ ∃ result, outcome = .finished result ∧ Fails result error := by
  induction hmakes generalizing earlier with
  | done result => simp at hall
  | halted cause => simp at hall
  | @answered request next answer rounds outcome hnext ih =>
      cases earlier with
      | nil =>
          obtain ⟨rfl, rfl⟩ := List.cons.inj hall
          obtain ⟨result, hdone, hfails⟩ := hsurfaces.1 answer error hfailure
          rw [hdone] at hnext
          cases hnext
          exact ⟨rfl, result, rfl, hfails⟩
      | cons first earlier =>
          have hrest := (List.cons.inj hall).2
          cases hanswer : request.failure? answer with
          | none => exact ih (hsurfaces.2 answer hanswer) hrest
          | some cause =>
              obtain ⟨result, hdone, -⟩ := hsurfaces.1 answer cause hanswer
              rw [hdone] at hnext
              cases hnext
              simp at hrest
  | givenUp =>
      cases earlier with
      | nil =>
          obtain ⟨rfl, rfl⟩ := List.cons.inj hall
          cases hfailure
      | cons first earlier => simp at hall
  | checkpoint hnext ih => exact ih (hsurfaces _) hall
  | host hnext ih => exact ih (hsurfaces _) hall

/-- The rule for a request that does without nothing. -/
theorem Surfaces.of_call {request : Request} {next : Except ClientError request.Answer → Program α}
    (hremove : request.operation ≠ .removePath) (hinfo : request.operation ≠ .fileInfo)
    (herror : ∀ error, ∃ result, next (.error error) = done result ∧ Fails result error)
    (hvalue : ∀ value, Surfaces (next (.ok value))) : Surfaces (.call request next) := by
  constructor
  · intro answer error hfailure
    rw [(Request.failure?_eq_some_iff hremove hinfo).mp hfailure]
    exact herror error
  · intro answer hfailure
    cases answer with
    | ok value => exact hvalue value
    | error error => exact absurd hfailure (Request.failure?_error_ne_none error)

theorem Surfaces.request {request : Request} (hremove : request.operation ≠ .removePath)
    (hinfo : request.operation ≠ .fileInfo) : Surfaces (Program.request request) :=
  .of_call hremove hinfo (fun error => ⟨_, rfl, .failed error⟩) fun _ => trivial

end Program

namespace Client

open Program

/-! ## Operations that make requests of one kind -/

/-- The operations that make requests of one kind only. -/
inductive Uniform (config : ClientConfig) : {α : Type} → Program α → Prop where
  | openFile (path : String) (mode : OpenMode) : Uniform config (openFile path mode)
  | close (handle : Handle) : Uniform config (close handle)
  | readInto (handle : Handle) (buffer : Bytes) : Uniform config (readInto config handle buffer)
  | read (handle : Handle) (length : Nat) : Uniform config (read config handle length)
  | write (handle : Handle) (data : Bytes) : Uniform config (write config handle data)
  | writeChunked (handle : Handle) (data : Bytes) (size : Nat) :
      Uniform config (writeChunked handle data size)
  | seek (handle : Handle) (target : SeekTarget) : Uniform config (seek handle target)
  | tell (handle : Handle) : Uniform config (tell handle)
  | lock (handle : Handle) (mode : LockMode) : Uniform config (lock handle mode)
  | resize (handle : Handle) (size : UInt64) : Uniform config (resize handle size)
  | listDirectory (path : String) : Uniform config (listDirectory path)
  | makeDirectory (path : String) : Uniform config (makeDirectory path)
  | rename (source destination : String) : Uniform config (rename source destination)
  | makeLink (kind : LinkKind) (target link : String) : Uniform config (makeLink kind target link)
  | deviceInfo : Uniform config deviceInfo
  | stat (path : String) : Uniform config (stat path)

variable {config : ClientConfig}

theorem stat_surfaces (path : String) : Surfaces (stat path) := by
  constructor
  · intro answer error hfailure
    cases answer with
    | ok fields => cases hfailure
    | error told =>
        by_cases hread : told = .reply (.status .readError)
        · subst hread
          cases hfailure
          exact ⟨_, rfl, .failed _⟩
        · rw [Request.failure?_error hread] at hfailure
          cases hfailure
          refine ⟨.error error, ?_, .failed error⟩
          dsimp only
          split
          · rename_i heq
            cases heq
            exact absurd rfl hread
          · rename_i heq
            cases heq
            rfl
          · rename_i heq
            cases heq
  · intro answer hnone
    cases answer with
    | error told => exact absurd hnone (Request.failure?_error_ne_none told)
    | ok fields =>
        dsimp only
        split
        · trivial
        · split <;> trivial

theorem readInto_surfaces (handle : Handle) (buffer : Bytes) :
    Surfaces (readInto config handle buffer) :=
  .of_call nofun nofun (fun error => ⟨_, rfl, .unread error buffer⟩) fun _ => trivial

theorem readRemaining_surfaces (handle : Handle) (remaining : Nat) :
    ∀ received : Bytes, Surfaces (readRemaining config handle received remaining) := by
  induction remaining using Nat.strongRecOn with
  | ind remaining ih =>
      intro received
      unfold readRemaining
      split
      · trivial
      · refine .of_call nofun nofun (fun error => ⟨_, rfl, .failed error⟩) fun data => ?_
        cases data with
        | nil => trivial
        | cons byte data => exact ih _ (by omega) _

theorem sendChunks_surfaces (chunks : List WriteChunk) : Surfaces (sendChunks chunks) := by
  induction chunks with
  | nil => trivial
  | cons chunk chunks ih =>
      exact .of_call nofun nofun (fun error => ⟨_, rfl, .failed error⟩) fun _ => ih

theorem writeChunked_surfaces (handle : Handle) (data : Bytes) (size : Nat) :
    Surfaces (writeChunked handle data size) := by
  unfold writeChunked
  cases WriteChunk.ofData handle size data with
  | error error => trivial
  | ok chunks =>
      intro cancelled
      cases cancelled with
      | true => trivial
      | false => exact sendChunks_surfaces chunks

theorem seek_surfaces (handle : Handle) (target : SeekTarget) : Surfaces (seek handle target) := by
  unfold seek
  cases target.parameters with
  | error error => trivial
  | ok parameters =>
      show Surfaces (Program.request (.seek handle parameters))
      exact .request nofun nofun

theorem Uniform.surfaces {α : Type} {program : Program α} (huniform : Uniform config program) :
    Surfaces program := by
  cases huniform with
  | readInto handle buffer => exact readInto_surfaces handle buffer
  | read handle length => exact readRemaining_surfaces handle length []
  | write handle data => exact writeChunked_surfaces handle data _
  | writeChunked handle data size => exact writeChunked_surfaces handle data size
  | seek handle target => exact seek_surfaces handle target
  | stat path => exact stat_surfaces path
  | _ => exact .request nofun nofun

/-! ## Removals -/

/-- A removal that is not forced ends with the failure of its own request. -/
theorem settled_of_failure? {path : String} {answer : Except ClientError StatusCode}
    {error : ClientError} (hfailure : (Request.remove path).failure? answer = some error) :
    settled path false [] answer = .error error := by
  cases answer with
  | error told =>
      cases hfailure
      rfl
  | ok code =>
      obtain ⟨hrefused, herror⟩ := Option.ite_none_left_eq_some.mp hfailure
      cases herror
      rw [settled, if_neg hrefused]
      rfl

/-- A removal that is not forced of a path that is seen as no directory ends with the failure of
its request for removal. -/
theorem unforced_ends {depth : Nat} {path : String}
    {own : Option (Except ClientError StatusCode)} {rounds earlier later : List Round}
    {outcome : Outcome (List String)} {error : ClientError}
    (hmakes : Makes (removeTree (depth + 1) path false) rounds outcome)
    (hsight : ∀ answer rest, rounds = ⟨.fileInfo path, some answer⟩ :: rest →
      Sight.ofAnswer answer ≠ .directory)
    (hall : rounds = earlier ++ ⟨.remove path, own⟩ :: later)
    (hfailure : Round.failure? ⟨.remove path, own⟩ = some error) :
    later = [] ∧ outcome = .finished (.error error) := by
  have hmem : ⟨.remove path, own⟩ ∈ rounds := by
    rw [hall]
    exact List.mem_append_right _ List.mem_cons_self
  cases tree_course path false hmakes with
  | unseen hopens => simp at hmem
  | failed hopens hfailed => simp at hmem
  | single hopens hseen answer =>
      obtain ⟨first, rfl⟩ : ∃ first, earlier = [first] := by
        rcases earlier with _ | ⟨first, _ | ⟨second, earlier⟩⟩
        · cases (List.cons.inj hall).1
        · exact ⟨first, rfl⟩
        · simp at hall
      obtain ⟨hown, rfl⟩ := List.cons.inj (List.cons.inj hall).2
      cases hown
      obtain ⟨told, htold, hfailed⟩ : ∃ told, own = some told ∧
          (Request.remove path).failure? told = some error := Option.bind_eq_some_iff.mp hfailure
      cases hopens
      rw [htold]
      exact ⟨rfl, congrArg Outcome.finished (settled_of_failure? hfailed)⟩
  | unlisted hdirectory => exact absurd hdirectory (hsight _ _ rfl)
  | unreadable _ hdirectory => exact absurd hdirectory (hsight _ _ rfl)
  | interrupted hdirectory _ _ => exact absurd hdirectory (hsight _ _ rfl)
  | emptied hdirectory _ _ => exact absurd hdirectory (hsight _ _ rfl)
  | absent hopens _ => cases hopens

/-! ## Runs -/

variable {σ : Type} {device : Device σ}

/-- The round trips of a run that decide over it: those of an operation that makes requests of one
kind, and the request for removal of one that is not forced, for a path that is seen as no
directory. -/
inductive Decides (device : Device σ) (session : Session σ) (config : ClientConfig) :
    {α : Type} → Program α → Trip σ → Prop where
  | uniform {α : Type} {program : Program α} {trip : Trip σ} (huniform : Uniform config program)
      (htrip : trip ∈ session.programTrips device program) :
      Decides device session config program trip
  | removal {depth : Nat} {path : String} {before : Session σ}
      (hsight : ∀ answer, Trip.outcome device ⟨session, .fileInfo path⟩ = some answer →
        Sight.ofAnswer answer ≠ .directory)
      (htrip : ⟨before, .remove path⟩ ∈
        session.programTrips device (removeTree (depth + 1) path false)) :
      Decides device session config (removeTree (depth + 1) path false) ⟨before, .remove path⟩

variable {α : Type} {session : Session σ} {program : Program α} {trip : Trip σ}

/-- A round trip that decides over a run and fails is the last of it. -/
theorem Decides.ends {error : ClientError} (hdecides : Decides device session config program trip)
    (hfailure : (trip.round device).failure? = some error) :
    (∃ result, (session.run device program).1 = .finished result ∧ Fails result error) ∧
      ∃ earlier, session.programTrips device program = earlier ++ [trip] := by
  have hmakes := session.run_makes device program
  cases hdecides with
  | uniform huniform htrip =>
      exact Session.last_of_rounds htrip fun earlier later hall =>
        huniform.surfaces.of_makes hmakes hall hfailure
  | @removal depth path before hsight htrip =>
      refine Session.last_of_rounds htrip fun earlier later hall => ?_
      -- The first round of a removal is the look.
      obtain ⟨others, hfirst⟩ : ∃ others,
          session.rounds device (removeTree (depth + 1) path false) =
            Trip.round device ⟨session, .fileInfo path⟩ :: others := session.rounds_call device
      have hseen : ∀ answer rest, session.rounds device (removeTree (depth + 1) path false) =
          ⟨.fileInfo path, some answer⟩ :: rest → Sight.ofAnswer answer ≠ .directory := by
        intro answer rest hrounds
        have hlook := (List.cons.inj (hfirst.symm.trans hrounds)).1
        exact hsight answer (eq_of_heq (Round.mk.inj hlook).2)
      obtain ⟨hlater, hends⟩ := unforced_ends hmakes hseen hall hfailure
      exact ⟨hlater, _, hends, .failed error⟩

end Client

/-- Whatever status the device sends in reply to a request of an operation that consists of it, the
operation fails with that status, unless it says success and the request expects just that.  Only a
read error in reply to a request for the fields of a path is reported as the path not being found.
The request is the last, and the session stays in step. -/
theorem Session.status_preserved {σ α : Type} (device : Device σ) (config : ClientConfig)
    (session : Session σ) (program : Program α) (trip : Trip σ) (reply : Frame) (number : UInt64)
    (hdecides : Client.Decides device session config program trip)
    (hreply : trip.reply? device = some reply) (hstatus : reply.IsStatus number)
    (hrefused : number ≠ 0 ∨ trip.request.expected ≠ .status) :
    ∃ result error final, session.run device program = (.finished result, final) ∧
      Program.Fails result error ∧ trip.request.Reports number error ∧
      (∃ earlier, session.programTrips device program = earlier ++ [trip]) ∧
      trip.Completes device ∧ Session.Aside (trip.after device) final ∧
      final.desynchronized = false := by
  have houtcome := Trip.outcome_of_reply? hreply
  obtain ⟨error, hfailure, hreports⟩ : ∃ error, (trip.round device).failure? = some error ∧
      trip.request.Reports number error := by
    rw [Round.failure?, Trip.round, houtcome]
    by_cases hnumber : number = 0
    · subst hnumber
      exact Request.failure?_of_success hstatus (hrefused.resolve_left (absurd rfl))
    · exact Request.failure?_of_refusal hstatus hnumber
  obtain ⟨⟨result, hrun, hfails⟩, earlier, htrips⟩ := hdecides.ends hfailure
  have haside := ((Session.reach_run device program session).rest_of_append htrips).aside_of_nil rfl
  have hcompletes := Trip.completes_of_reply? hreply
  refine ⟨result, error, _, Prod.ext hrun rfl, hfails, hreports, ⟨earlier, htrips⟩, hcompletes,
    haside, ?_⟩
  obtain ⟨-, -, hstep, -⟩ := hcompletes
  rw [haside.desynchronized, hstep]

/-- The device refuses to open a file, with a number that the protocol does not name. -/
def Script.refusesOpen : Session Script :=
  .fresh {} ⟨[code 77], 0, none, none, false⟩ (.empty "host") []

theorem Script.refused_open_reported :
    let trip : Trip Script := ⟨refusesOpen, .openFile "/f" .readOnly⟩
    trip.reply? device = some (.single .status (Word.littleEndian 77) 0) ∧
      ∃ result error final,
        refusesOpen.run device (Client.openFile "/f" .readOnly) = (.finished result, final) ∧
          Program.Fails result error ∧ error.code?.bind StatusCode.number? = some 77 ∧
          final.desynchronized = false := by
  intro trip
  have hreply : trip.reply? device = some (.single .status (Word.littleEndian 77) 0) := rfl
  have htrip : trip ∈ refusesOpen.programTrips device (Client.openFile "/f" .readOnly) := by
    unfold Client.openFile Program.request Session.programTrips
    exact List.mem_cons_self
  obtain ⟨result, error, final, hrun, hfails, hreports, -, -, -, hstep⟩ :=
    Session.status_preserved device {} refusesOpen _ trip _ 77 (.uniform (.openFile _ _) htrip)
      hreply ⟨rfl, rfl⟩ (.inl (by decide))
  have hcode := hreports.code (by decide) fun _ _ => by decide
  exact ⟨hreply, result, error, final, hrun, hfails, hcode, hstep⟩

end FileConduit

import FileConduit.Proofs.Client.Looking
import FileConduit.Proofs.Client.Removal

/-!
# The course of a removal

`Course` says once what a removal can do, whatever the device answers: which round trips it makes
for a path, for an entry of a directory and for the entries of a directory one after another, and
how it ends after them.  `course_of_makes` reads it off the program; whatever holds of removals is
proved from these rules.
-/

namespace FileConduit

namespace Client

open Program

/-! ## One request for removal -/

/-- How the removal of a path ends with the answer to the request for it, given what is left below
it. -/
def settled (path : String) (force : Bool) (left : List String) :
    Except ClientError StatusCode → Except ClientError (List String)
  | .error error => if left.isEmpty then .error error else .error (.removeFailed (left ++ [path]))
  | .ok code =>
      if code.isSuccess then
        if left.isEmpty then .ok [] else .error (.removeFailed left)
      else if force then .ok (left ++ [path])
      else if left.isEmpty then .error (.reply (.status code))
      else .error (.removeFailed (left ++ [path]))

def concluded (path : String) (force : Bool) (left : List String) :
    Option (Except ClientError StatusCode) → Outcome (List String)
  | none => .abandoned
  | some answer => .finished (settled path force left answer)

theorem removeEmptied_eq (path : String) (force : Bool) (left : List String) :
    removeEmptied path force left =
      .call (.remove path) fun answer => done (settled path force left answer) := by
  refine congrArg (Program.call (.remove path)) (funext fun answer => ?_)
  rcases answer with error | code
  · cases left <;> rfl
  · unfold settled
    show ((if code.isSuccess then _ else _ : Program Bool).andThen _) = done (if _ then _ else _)
    by_cases hsuccess : code.isSuccess = true
    · rw [if_pos hsuccess, if_pos hsuccess]
      cases left <;> rfl
    · rw [if_neg hsuccess, if_neg hsuccess]
      cases force <;> cases left <;> rfl

theorem removeEmptied_concluded {path : String} {force : Bool} {left : List String}
    {rounds : List Round} {outcome : Outcome (List String)}
    (hmakes : Makes (removeEmptied path force left) rounds outcome) :
    ∃ answer, rounds = [⟨.remove path, answer⟩] ∧ outcome = concluded path force left answer := by
  rw [removeEmptied_eq] at hmakes
  cases hmakes with
  | givenUp => exact ⟨none, rfl, rfl⟩
  | answered hnext =>
      cases hnext
      exact ⟨_, rfl, rfl⟩

/-- The removal of a path that is not there goes on like that of a file. -/
theorem removeMissing_eq (path : String) :
    (do let _ ← removeOne path false; return [] : Program (List String)) =
      removeEmptied path false [] := by
  rw [removeEmptied_eq]
  refine congrArg (Program.call (.remove path)) (funext fun answer => ?_)
  rcases answer with error | code
  · rfl
  · unfold settled
    show ((if code.isSuccess then _ else _ : Program Bool).andThen _) = done (if _ then _ else _)
    by_cases hsuccess : code.isSuccess = true
    · rw [if_pos hsuccess, if_pos hsuccess]
      rfl
    · rw [if_neg hsuccess, if_neg hsuccess]
      rfl

/-! ## The entries of a directory -/

def removeEntry (removeTree : String → Program (List String)) (path : String) :
    Program (List String) :=
  (isDirectory path).andThen fun result =>
    match result with
    | .error error => if error.isNotFound then done (.ok []) else fail error
    | .ok true =>
        (removeTree path).andThen fun result =>
          match result with
          | .ok left => done (.ok left)
          | .error (.removeFailed left) => done (.ok left)
          | .error error => fail error
    | .ok false => removeEmptied path true []

theorem removeChildren_cons (removeTree : String → Program (List String)) (directory : String)
    {name : String} (hname : RemotePath.isTraversal name = false) (names : List String) :
    removeChildren removeTree directory (name :: names) =
      (removeEntry removeTree (RemotePath.join directory name)).bind fun left =>
        (removeChildren removeTree directory names).bind fun rest => done (.ok (left ++ rest)) := by
  rw [removeChildren, if_neg (by rw [hname]; exact Bool.false_ne_true), removeEntry, Program.bind,
    andThen_assoc]
  refine congrArg (isDirectory _).andThen (funext fun result => ?_)
  rcases result with error | directory
  · dsimp only
    split <;> rfl
  · cases directory with
    | true =>
        dsimp only
        rw [andThen_assoc]
        refine congrArg (removeTree _).andThen (funext fun result => ?_)
        rcases result with error | left
        · cases error <;> rfl
        · rfl
    | false =>
        dsimp only
        rw [← removeLeaf_eq]
        show (removeOne _ true).andThen _ = ((removeOne _ true).andThen _).andThen _
        rw [andThen_assoc]
        refine congrArg (removeOne _ true).andThen (funext fun result => ?_)
        rcases result with error | removed
        · rfl
        · cases removed <;> rfl

/-! ## Courses -/

/-- What is to be removed.  The number is the depth down to which directories are entered. -/
inductive Task where
  | tree (depth : Nat) (path : String) (force : Bool)
  /-- What an entry of a directory names, which may be a directory or not. -/
  | entry (depth : Nat) (path : String)
  | entries (depth : Nat) (directory : String) (names : List String)

inductive Task.Opens : Task → String → Bool → Prop where
  | tree (depth : Nat) (path : String) (force : Bool) :
      Opens (.tree (depth + 1) path force) path force
  | entry (depth : Nat) (path : String) : Opens (.entry depth path) path true

/-- Left-over paths that a directory reports as a failure are collected by the one above it. -/
def collected : Outcome (List String) → Outcome (List String)
  | .finished (.error (.removeFailed left)) => .finished (.ok left)
  | outcome => outcome

/-- What is left of the entries before is put in front of what is left of the others. -/
def preceded (left : List String) : Outcome (List String) → Outcome (List String)
  | .finished (.ok rest) => .finished (.ok (left ++ rest))
  | outcome => outcome

/-- The round trips that a task can make, and how it ends after them. -/
inductive Course : Task → List Round → Outcome (List String) → Prop where
  | tooDeep (path : String) (force : Bool) : Course (.tree 0 path force) [] (.halted .steps)
  | unseen {task : Task} {path : String} {force : Bool} (hopens : task.Opens path force) :
      Course task [⟨.fileInfo path, none⟩] .abandoned
  | failed {task : Task} {path : String} {force : Bool}
      {answer : Except ClientError InfoDictionary} {error : ClientError}
      (hopens : task.Opens path force) (hsight : Sight.ofAnswer answer = .failed error) :
      Course task [⟨.fileInfo path, some answer⟩] (.finished (.error error))
  | absent {task : Task} {path : String} {answer : Except ClientError InfoDictionary}
      (hopens : task.Opens path true) (hsight : Sight.ofAnswer answer = .absent) :
      Course task [⟨.fileInfo path, some answer⟩] (.finished (.ok []))
  /-- One request removes a file, or tells what the device says of a path that is not there. -/
  | single {task : Task} {path : String} {force : Bool}
      {answer : Except ClientError InfoDictionary}
      (hopens : task.Opens path force)
      (hsight : Sight.ofAnswer answer = .other ∨ Sight.ofAnswer answer = .absent ∧ force = false)
      (own : Option (Except ClientError StatusCode)) :
      Course task [⟨.fileInfo path, some answer⟩, ⟨.remove path, own⟩]
        (concluded path force [] own)
  | unlisted {depth : Nat} {path : String} {force : Bool}
      {answer : Except ClientError InfoDictionary}
      (hsight : Sight.ofAnswer answer = .directory) :
      Course (.tree (depth + 1) path force)
        [⟨.fileInfo path, some answer⟩, ⟨.readDirectory path, none⟩] .abandoned
  | unreadable {depth : Nat} {path : String} {force : Bool}
      {answer : Except ClientError InfoDictionary} (error : ClientError)
      (hsight : Sight.ofAnswer answer = .directory) :
      Course (.tree (depth + 1) path force)
        [⟨.fileInfo path, some answer⟩, ⟨.readDirectory path, some (.error error)⟩]
        (.finished (.error error))
  | interrupted {depth : Nat} {path : String} {force : Bool}
      {answer : Except ClientError InfoDictionary} {names : List String} {rounds : List Round}
      {outcome : Outcome (List String)} (hsight : Sight.ofAnswer answer = .directory)
      (hentries : Course (.entries depth path names) rounds outcome)
      (hends : ∀ left, outcome ≠ .finished (.ok left)) :
      Course (.tree (depth + 1) path force)
        (⟨.fileInfo path, some answer⟩ :: ⟨.readDirectory path, some (.ok names)⟩ :: rounds)
        outcome
  | emptied {depth : Nat} {path : String} {force : Bool}
      {answer : Except ClientError InfoDictionary} {names : List String} {rounds : List Round}
      {left : List String} (hsight : Sight.ofAnswer answer = .directory)
      (hentries : Course (.entries depth path names) rounds (.finished (.ok left)))
      (own : Option (Except ClientError StatusCode)) :
      Course (.tree (depth + 1) path force)
        (⟨.fileInfo path, some answer⟩ :: ⟨.readDirectory path, some (.ok names)⟩ ::
          (rounds ++ [⟨.remove path, own⟩]))
        (concluded path force left own)
  | nested {depth : Nat} {path : String} {answer : Except ClientError InfoDictionary}
      {rounds : List Round} {outcome : Outcome (List String)}
      (hsight : Sight.ofAnswer answer = .directory)
      (htree : Course (.tree depth path true) rounds outcome) :
      Course (.entry depth path) (⟨.fileInfo path, some answer⟩ :: rounds) (collected outcome)
  | none (depth : Nat) (directory : String) :
      Course (.entries depth directory []) [] (.finished (.ok []))
  | skipped {depth : Nat} {directory name : String} {names : List String} {rounds : List Round}
      {outcome : Outcome (List String)} (hname : RemotePath.isTraversal name = true)
      (hentries : Course (.entries depth directory names) rounds outcome) :
      Course (.entries depth directory (name :: names)) rounds outcome
  | stopped {depth : Nat} {directory name : String} {names : List String} {rounds : List Round}
      {outcome : Outcome (List String)} (hname : RemotePath.isTraversal name = false)
      (hentry : Course (.entry depth (RemotePath.join directory name)) rounds outcome)
      (hends : ∀ left, outcome ≠ .finished (.ok left)) :
      Course (.entries depth directory (name :: names)) rounds outcome
  | next {depth : Nat} {directory name : String} {names : List String}
      {first rest : List Round} {left : List String} {outcome : Outcome (List String)}
      (hname : RemotePath.isTraversal name = false)
      (hentry : Course (.entry depth (RemotePath.join directory name)) first
        (.finished (.ok left)))
      (hentries : Course (.entries depth directory names) rest outcome) :
      Course (.entries depth directory (name :: names)) (first ++ rest) (preceded left outcome)

/-! ## Programs and their courses -/

theorem isDirectory_andThen (path : String) (next : Except ClientError Bool → Program α) :
    (isDirectory path).andThen next =
      (stat path).andThen fun result => next (result.map describesDirectory) := by
  show ((stat path).andThen _).andThen next = _
  rw [andThen_assoc]
  refine congrArg (stat path).andThen (funext fun result => ?_)
  cases result <;> rfl

section

variable {depth : Nat} {path : String} {rounds : List Round} {outcome : Outcome (List String)}

theorem entry_course
    (htree : ∀ {path : String} {rounds : List Round} {outcome : Outcome (List String)},
      Makes (removeTree depth path true) rounds outcome →
        Course (.tree depth path true) rounds outcome)
    (hmakes : Makes (removeEntry (removeTree depth · true) path) rounds outcome) :
    Course (.entry depth path) rounds outcome := by
  rw [removeEntry, isDirectory_andThen] at hmakes
  cases stat_looks hmakes with
  | givenUp => exact .unseen (.entry depth path)
  | answered hgives hnext =>
      generalize hsight : Sight.ofAnswer _ = sight at hgives
      cases hgives with
      | directory hinfo =>
          simp only [Except.map, hinfo] at hnext
          cases hnext.chained with
          | both hfirst hrest =>
              have hnested := Course.nested hsight (htree hfirst)
              rename_i first rest result
              rcases result with error | left
              · cases error <;> (cases hrest; rw [List.append_nil]; exact hnested)
              · cases hrest
                rw [List.append_nil]
                exact hnested
          | abandoned hfirst => exact .nested hsight (htree hfirst)
          | halted hfirst => exact .nested hsight (htree hfirst)
      | other hinfo =>
          simp only [Except.map, hinfo] at hnext
          obtain ⟨own, rfl, rfl⟩ := removeEmptied_concluded hnext
          exact .single (.entry depth path) (.inl hsight) own
      | absent herror =>
          simp only [Except.map, herror, if_true] at hnext
          cases hnext
          exact .absent (.entry depth path) hsight
      | failed herror =>
          simp only [Except.map, herror] at hnext
          cases hnext
          exact .failed (.entry depth path) hsight

theorem entries_course
    (htree : ∀ {path : String} {rounds : List Round} {outcome : Outcome (List String)},
      Makes (removeTree depth path true) rounds outcome →
        Course (.tree depth path true) rounds outcome)
    (directory : String) (names : List String)
    (hmakes : Makes (removeChildren (removeTree depth · true) directory names) rounds outcome) :
    Course (.entries depth directory names) rounds outcome := by
  induction names generalizing rounds outcome with
  | nil =>
      cases hmakes
      exact .none depth directory
  | cons name names ih =>
      cases hname : RemotePath.isTraversal name with
      | true =>
          rw [removeChildren, if_pos hname] at hmakes
          exact .skipped hname (ih hmakes)
      | false =>
          rw [removeChildren_cons _ _ hname] at hmakes
          cases hmakes.chained with
          | abandoned hfirst => exact .stopped hname (entry_course htree hfirst) (by simp)
          | halted hfirst => exact .stopped hname (entry_course htree hfirst) (by simp)
          | both hfirst hrest =>
              have hentry := entry_course htree hfirst
              rename_i first rest result
              rcases result with error | left
              · cases hrest
                rw [List.append_nil]
                exact .stopped hname hentry (by simp)
              · cases hrest.chained with
                | abandoned hothers => exact .next hname hentry (ih hothers)
                | halted hothers => exact .next hname hentry (ih hothers)
                | both hothers hlast =>
                    have hnext := Course.next hname hentry (ih hothers)
                    rename_i result
                    rcases result with error | others
                    · cases hlast
                      rw [List.append_nil]
                      exact hnext
                    · cases hlast
                      rw [List.append_nil]
                      exact hnext

theorem tree_course (path : String) (force : Bool)
    (hmakes : Makes (removeTree depth path force) rounds outcome) :
    Course (.tree depth path force) rounds outcome := by
  induction depth generalizing path force rounds outcome with
  | zero =>
      cases hmakes
      exact .tooDeep path force
  | succ depth ih =>
      rw [removeTree] at hmakes
      cases stat_looks hmakes with
      | givenUp => exact .unseen (.tree depth path force)
      | answered hgives hnext =>
          generalize hsight : Sight.ofAnswer _ = sight at hgives
          cases hgives with
          | directory hinfo =>
              simp only [hinfo, if_true] at hnext
              cases hnext with
              | givenUp => exact .unlisted hsight
              | @answered _ _ listing rest _ hnext =>
                  rcases listing with error | names
                  · cases hnext
                    exact .unreadable error hsight
                  · have hentries := fun {rounds outcome} =>
                      @entries_course depth rounds outcome (ih _ true) path names
                    have hchained : Makes
                        ((removeChildren (removeTree depth · true) path names).andThen _) _ _ :=
                      hnext
                    cases hchained.chained with
                    | abandoned hfirst => exact .interrupted hsight (hentries hfirst) (by simp)
                    | halted hfirst => exact .interrupted hsight (hentries hfirst) (by simp)
                    | both hfirst hrest =>
                        rename_i result
                        rcases result with error | left
                        · cases hrest
                          rw [List.append_nil]
                          exact .interrupted hsight (hentries hfirst) (by simp)
                        · obtain ⟨own, rfl, rfl⟩ := removeEmptied_concluded hrest
                          exact .emptied hsight (hentries hfirst) own
          | other hinfo =>
              simp only [hinfo, Bool.false_eq_true, if_false] at hnext
              rw [removeLeaf_eq] at hnext
              obtain ⟨own, rfl, rfl⟩ := removeEmptied_concluded hnext
              exact .single (.tree depth path force) (.inl hsight) own
          | absent herror =>
              cases force with
              | true =>
                  simp only [herror, Bool.not_true, Bool.false_eq_true, if_false, if_true] at hnext
                  cases hnext
                  exact .absent (.tree depth path true) hsight
              | false =>
                  simp only [herror, Bool.not_true, Bool.false_eq_true, if_false] at hnext
                  rw [removeMissing_eq] at hnext
                  obtain ⟨own, rfl, rfl⟩ := removeEmptied_concluded hnext
                  exact .single (.tree depth path false) (.inr ⟨hsight, rfl⟩) own
          | failed herror =>
              simp only [herror, Bool.not_false, if_true] at hnext
              cases hnext
              exact .failed (.tree depth path force) hsight

end

end Client

/-- Every run of a removal takes a course. -/
theorem Session.run_course {σ : Type} (device : Device σ) (session : Session σ) (depth : Nat)
    (path : String) (force : Bool) :
    Client.Course (.tree depth path force)
      (session.rounds device (Client.removeTree depth path force))
      (session.run device (Client.removeTree depth path force)).1 :=
  Client.tree_course path force (session.run_makes device _)

end FileConduit

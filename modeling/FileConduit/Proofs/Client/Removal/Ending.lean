import FileConduit.Proofs.Client.Removal.Extent
import FileConduit.Session.Script

/-!
# How a removal ends

A removal that comes to a result reports the paths that it asked to be removed and that were not,
in the order in which it asked.  Otherwise it is halted: the caller gives up, the allowed depth is
spent, or one round trip stops it and is the last one.
-/

namespace FileConduit

def Round.unremoved? : Round → Option String
  | ⟨.remove path, some (.ok code)⟩ => if code.isSuccess then none else some path
  | ⟨.remove path, _⟩ => some path
  | _ => none

namespace Client

open Program

/-- The paths that are asked to be removed and that are not, one for each time. -/
def unremoved (rounds : List Round) : List String :=
  rounds.filterMap Round.unremoved?

/-- The end of a removal that comes to no result. -/
inductive Halted (rounds : List Round) : Outcome (List String) → Prop where
  | abandoned {earlier : List Round} {last : Round} (hrounds : rounds = earlier ++ [last])
      (hanswer : last.answer = none) : Halted rounds .abandoned
  | tooDeep : Halted rounds (.halted .steps)
  | stopped {earlier : List Round} {last : Round} {error : ClientError}
      (hrounds : rounds = earlier ++ [last]) (hstops : Stops last error) :
      Halted rounds (.finished (.error error))

inductive Ending : Task → List Round → Outcome (List String) → Prop where
  | returned {task : Task} {rounds : List Round} :
      Ending task rounds (.finished (.ok (unremoved rounds)))
  /-- Something below the path is left, and the request for the path itself was not refused, or
  its refusal is raised. -/
  | raised {depth : Nat} {path : String} {force : Bool} {earlier : List Round}
      {answer : Except ClientError StatusCode} (hleft : unremoved earlier ≠ [])
      (hforce : ∀ code, answer = .ok code → code.isSuccess = true ∨ force = false) :
      Ending (.tree depth path force) (earlier ++ [⟨.remove path, some answer⟩])
        (.finished (.error (.removeFailed (unremoved (earlier ++ [⟨.remove path, some answer⟩])))))
  /-- Only the path itself is left, and its refusal is raised. -/
  | refused {depth : Nat} {path : String} {earlier : List Round} {code : StatusCode}
      (hleft : unremoved earlier = []) (hcode : code.isSuccess = false) :
      Ending (.tree depth path false) (earlier ++ [⟨.remove path, some (.ok code)⟩])
        (.finished (.error (.reply (.status code))))
  | halted {task : Task} {rounds : List Round} {outcome : Outcome (List String)}
      (hhalted : Halted rounds outcome) : Ending task rounds outcome

section

variable {task : Task} {path : String} {force : Bool} {rounds earlier rest : List Round}
  {outcome : Outcome (List String)} {error : ClientError} {left : List String} {depth : Nat}
  {directory : String} {names : List String}

@[simp] theorem unremoved_nil : unremoved [] = [] := rfl

@[simp] theorem unremoved_append (first rest : List Round) :
    unremoved (first ++ rest) = unremoved first ++ unremoved rest :=
  List.filterMap_append

@[simp] theorem unremoved_look (path : String) (answer : Option (Except ClientError InfoDictionary))
    (rest : List Round) : unremoved (⟨.fileInfo path, answer⟩ :: rest) = unremoved rest := rfl

@[simp] theorem unremoved_listing (path : String)
    (answer : Option (Except ClientError (List String))) (rest : List Round) :
    unremoved (⟨.readDirectory path, answer⟩ :: rest) = unremoved rest := rfl

theorem unremoved_removed {code : StatusCode} (hcode : code.isSuccess = true) :
    unremoved [⟨.remove path, some (.ok code)⟩] = [] := by
  simp [unremoved, Round.unremoved?, hcode]

theorem unremoved_refused {code : StatusCode} (hcode : code.isSuccess = false) :
    unremoved [⟨.remove path, some (.ok code)⟩] = [path] := by
  simp [unremoved, Round.unremoved?, hcode]

theorem Halted.prepend (hhalted : Halted rest outcome) (first : List Round) :
    Halted (first ++ rest) outcome := by
  cases hhalted with
  | abandoned hrounds hanswer =>
      rw [hrounds, ← List.append_assoc]
      exact .abandoned rfl hanswer
  | tooDeep => exact .tooDeep
  | stopped hrounds hstops =>
      rw [hrounds, ← List.append_assoc]
      exact .stopped rfl hstops

theorem Halted.ne_ok (hhalted : Halted rounds outcome) (left : List String) :
    outcome ≠ .finished (.ok left) := by
  cases hhalted <;> simp

theorem Halted.preceded (hhalted : Halted rounds outcome) (left : List String) :
    preceded left outcome = outcome := by
  cases hhalted <;> rfl

/-- Nothing that stops a removal reads like a removal that has failed. -/
theorem Stops.ne_removeFailed {round : Round} (hstops : Stops round error) (hsound : round.Sound)
    (left : List String) : error ≠ .removeFailed left := by
  rintro rfl
  cases hstops with
  | look hsight =>
      rcases Sight.failed_iff.mp hsight with ⟨rfl, -⟩ | ⟨fields, -, hfields⟩
      · cases hsound.ends _ rfl
      · obtain ⟨key, value, heq⟩ := FileInfo.ofDictionary_error hfields
        cases heq
  | listing => cases hsound.ends _ rfl
  | removal => cases hsound.ends _ rfl

theorem Halted.ne_removeFailed (hhalted : Halted rounds outcome)
    (hsound : ∀ round ∈ rounds, round.Sound) (left : List String) :
    outcome ≠ .finished (.error (.removeFailed left)) := by
  cases hhalted with
  | abandoned => simp
  | tooDeep => simp
  | @stopped earlier last error hrounds hstops =>
      have hlast : last.Sound := hsound last (by simp [hrounds])
      simpa using hstops.ne_removeFailed hlast left

theorem Halted.collected (hhalted : Halted rounds outcome)
    (hsound : ∀ round ∈ rounds, round.Sound) : collected outcome = outcome := by
  unfold Client.collected
  split
  · rename_i left
    exact absurd rfl (hhalted.ne_removeFailed hsound left)
  · rfl

/-- How the last request for a path makes its removal end. -/
theorem concluded_ending (earlier : List Round) {own : Option (Except ClientError StatusCode)}
    (hsound : (⟨.remove path, own⟩ : Round).Sound)
    (htask : (∃ depth, task = .tree depth path force) ∨ unremoved earlier = [] ∧ force = true) :
    Ending task (earlier ++ [⟨.remove path, own⟩])
      (concluded path force (unremoved earlier) own) := by
  rcases own with - | error | code
  · exact .halted (.abandoned rfl rfl)
  · have hstatus : error.isStatus = false := hsound.removal path error rfl rfl
    by_cases hleft : unremoved earlier = []
    · have hconcluded : concluded path force (unremoved earlier) (some (.error error)) =
          .finished (.error error) := by simp [concluded, settled, hleft]
      rw [hconcluded]
      exact .halted (.stopped rfl (.removal hstatus))
    · obtain ⟨depth, rfl⟩ := htask.resolve_right fun hnone => hleft hnone.1
      have hconcluded : concluded path force (unremoved earlier) (some (.error error)) =
          .finished (.error (.removeFailed (unremoved earlier ++ [path]))) := by
        simp [concluded, settled, hleft]
      have hreported : unremoved (earlier ++ [⟨.remove path, some (.error error)⟩]) =
          unremoved earlier ++ [path] := unremoved_append _ _
      rw [hconcluded, ← hreported]
      exact .raised hleft (by simp)
  · cases hcode : code.isSuccess with
    | true =>
        have hreported : unremoved (earlier ++ [⟨.remove path, some (.ok code)⟩]) =
            unremoved earlier := by
          rw [unremoved_append, unremoved_removed hcode, List.append_nil]
        by_cases hleft : unremoved earlier = []
        · have hconcluded : concluded path force (unremoved earlier) (some (.ok code)) =
              .finished (.ok (unremoved earlier)) := by simp [concluded, settled, hleft, hcode]
          rw [hconcluded, ← hreported]
          exact .returned
        · obtain ⟨depth, rfl⟩ := htask.resolve_right fun hnone => hleft hnone.1
          have hconcluded : concluded path force (unremoved earlier) (some (.ok code)) =
              .finished (.error (.removeFailed (unremoved earlier))) := by
            simp [concluded, settled, hleft, hcode]
          rw [hconcluded, ← hreported]
          exact .raised hleft (by simp [hcode])
    | false =>
        have hreported : unremoved (earlier ++ [⟨.remove path, some (.ok code)⟩]) =
            unremoved earlier ++ [path] := by
          rw [unremoved_append, unremoved_refused hcode]
        cases force with
        | true =>
            have hconcluded : concluded path true (unremoved earlier) (some (.ok code)) =
                .finished (.ok (unremoved earlier ++ [path])) := by
              simp [concluded, settled, hcode]
            rw [hconcluded, ← hreported]
            exact .returned
        | false =>
            obtain ⟨depth, rfl⟩ := htask.resolve_right (by simp)
            by_cases hleft : unremoved earlier = []
            · have hconcluded : concluded path false (unremoved earlier) (some (.ok code)) =
                  .finished (.error (.reply (.status code))) := by
                simp [concluded, settled, hleft, hcode]
              rw [hconcluded]
              exact .refused hleft hcode
            · have hconcluded : concluded path false (unremoved earlier) (some (.ok code)) =
                  .finished (.error (.removeFailed (unremoved earlier ++ [path]))) := by
                simp [concluded, settled, hleft, hcode]
              rw [hconcluded, ← hreported]
              exact .raised hleft (by simp)

theorem Ending.halted_of_ne (hending : Ending (.entries depth directory names) rounds outcome)
    (hends : ∀ left, outcome ≠ .finished (.ok left)) : Halted rounds outcome := by
  cases hending with
  | returned => exact absurd rfl (hends _)
  | halted hhalted => exact hhalted

theorem Ending.left_eq (hending : Ending task rounds (.finished (.ok left))) :
    left = unremoved rounds := by
  cases hending with
  | returned => rfl
  | halted hhalted => exact absurd rfl (hhalted.ne_ok left)

theorem Ending.of_removeFailed
    (hending : Ending (.tree depth path force) rounds (.finished (.error (.removeFailed left))))
    (hsound : ∀ round ∈ rounds, round.Sound) :
    left = unremoved rounds ∧ ∃ earlier answer,
      rounds = earlier ++ [⟨.remove path, some answer⟩] ∧ unremoved earlier ≠ [] ∧
        ∀ code, answer = .ok code → code.isSuccess = true ∨ force = false := by
  cases hending with
  | raised hleft hforce => exact ⟨rfl, _, _, rfl, hleft, hforce⟩
  | halted hhalted => exact absurd rfl (hhalted.ne_removeFailed hsound left)

/-- The rounds and the ending of a nested tree are those of the entry that it is. -/
theorem Ending.nested {answer : Except ClientError InfoDictionary}
    (hending : Ending (.tree depth path true) rounds outcome)
    (hsound : ∀ round ∈ rounds, round.Sound) :
    Ending (.entry depth path) (⟨.fileInfo path, some answer⟩ :: rounds) (collected outcome) := by
  cases hending with
  | returned => exact .returned
  | raised hleft hforce => exact .returned
  | halted hhalted =>
      rw [hhalted.collected hsound]
      exact .halted (hhalted.prepend [_])

theorem Course.ending (hcourse : Course task rounds outcome)
    (hsound : ∀ round ∈ rounds, round.Sound) : Ending task rounds outcome := by
  induction hcourse with
  | tooDeep path force => exact .halted .tooDeep
  | unseen hopens => exact .halted (.abandoned (List.nil_append _).symm rfl)
  | failed hopens hsight => exact .halted (.stopped (List.nil_append _).symm (.look hsight))
  | absent hopens hsight => exact .returned
  | @single task path force answer hopens hsight own =>
      have hlast : (⟨.remove path, own⟩ : Round).Sound := hsound _ (by simp)
      have hleft : unremoved [⟨.fileInfo path, some answer⟩] = [] := rfl
      refine concluded_ending [⟨.fileInfo path, some answer⟩] hlast ?_
      cases hopens with
      | tree depth => exact .inl ⟨_, rfl⟩
      | entry => exact .inr ⟨hleft, rfl⟩
  | unlisted hsight =>
      exact .halted (Halted.prepend (.abandoned (List.nil_append _).symm rfl) [_])
  | unreadable error hsight =>
      exact .halted (Halted.prepend (.stopped (List.nil_append _).symm .listing) [_])
  | interrupted hsight hentries hends ih =>
      have hhalted := (ih fun round hround => hsound round (by simp [hround])).halted_of_ne hends
      exact .halted (hhalted.prepend [_, _])
  | @emptied depth path force answer names rounds left hsight hentries own ih =>
      have hleft : left = unremoved rounds :=
        (ih fun round hround => hsound round (by simp [hround])).left_eq
      have hlast : (⟨.remove path, own⟩ : Round).Sound := hsound _ (by simp)
      rw [hleft]
      exact concluded_ending (_ :: _ :: rounds) hlast (.inl ⟨_, rfl⟩)
  | nested hsight htree ih =>
      have htail := fun round hround => hsound round (List.mem_cons_of_mem _ hround)
      exact (ih htail).nested htail
  | none depth directory => exact .returned
  | skipped hname hentries ih =>
      cases ih hsound with
      | returned => exact .returned
      | halted hhalted => exact .halted hhalted
  | stopped hname hentry hends ih =>
      cases ih hsound with
      | returned => exact .returned
      | halted hhalted => exact .halted hhalted
  | @next depth directory name names first rest left outcome hname hentry hentries ihfirst ihrest =>
      have hleft : left = unremoved first :=
        (ihfirst fun round hround => hsound round (by simp [hround])).left_eq
      have hothers := ihrest fun round hround => hsound round (by simp [hround])
      cases hothers with
      | returned =>
          have hreported : unremoved (first ++ rest) = left ++ unremoved rest := by
            rw [unremoved_append, hleft]
          show Ending _ _ (.finished (.ok (left ++ unremoved rest)))
          rw [← hreported]
          exact .returned
      | halted hhalted =>
          rw [hhalted.preceded]
          exact .halted (hhalted.prepend first)

/-! ## The last request for the path itself -/

theorem append_eq_append_cons {α : Type} {first rest earlier later : List α} {x : α}
    (happend : first ++ rest = earlier ++ x :: later) :
    (∃ middle, first = earlier ++ x :: middle ∧ later = middle ++ rest) ∨
      ∃ middle, earlier = first ++ middle ∧ rest = middle ++ x :: later := by
  rcases List.append_eq_append_iff.mp happend with
    ⟨middle, hearlier, hrest⟩ | ⟨middle, hfirst, hlater⟩
  · exact .inr ⟨middle, hearlier, hrest⟩
  · cases middle with
    | nil => exact .inr ⟨[], by simpa using hfirst.symm, hlater.symm⟩
    | cons y middle =>
        obtain ⟨rfl, htail⟩ := List.cons.inj hlater
        exact .inl ⟨middle, hfirst, htail⟩

theorem cons_eq_append_cons {α : Type} {rest earlier later : List α} {x y : α}
    (hcons : x :: rest = earlier ++ y :: later) (hother : x ≠ y) :
    ∃ middle, earlier = x :: middle ∧ rest = middle ++ y :: later := by
  cases earlier with
  | nil => exact absurd (List.cons.inj hcons).1 hother
  | cons z middle =>
      obtain ⟨rfl, hrest⟩ := List.cons.inj hcons
      exact ⟨middle, rfl, hrest⟩

theorem append_singleton_eq_append_cons {α : Type} {first earlier later : List α} {x y : α}
    (hrounds : first ++ [x] = earlier ++ y :: later) (hfirst : y ∉ first) :
    earlier = first ∧ x = y ∧ later = [] := by
  rcases append_eq_append_cons hrounds with ⟨middle, rfl, -⟩ | ⟨middle, rfl, hlast⟩
  · simp at hfirst
  · cases middle with
    | nil =>
        obtain ⟨heq, hlater⟩ := List.cons.inj hlast
        exact ⟨List.append_nil _, heq, hlater.symm⟩
    | cons z middle => simp at hlast

theorem singleton_eq_append_cons {α : Type} {earlier later : List α} {x y : α}
    (hrounds : [x] = earlier ++ y :: later) : earlier = [] ∧ x = y ∧ later = [] :=
  append_singleton_eq_append_cons (show [] ++ [x] = _ from hrounds) (by simp)

/-- A removal asks at most once for its path to be removed, and ends with that. -/
theorem Course.concluded (hcourse : Course (.tree depth path force) rounds outcome)
    (hsound : ∀ round ∈ rounds, round.Sound) {own : Option (Except ClientError StatusCode)}
    {later : List Round} (hrounds : rounds = earlier ++ ⟨.remove path, own⟩ :: later) :
    later = [] ∧ outcome = concluded path force (unremoved earlier) own := by
  have hmem : ⟨.remove path, own⟩ ∈ rounds := by simp [hrounds]
  cases hcourse with
  | tooDeep => simp at hmem
  | unseen hopens => simp at hmem
  | failed hopens hsight => simp at hmem
  | absent hopens hsight => simp at hmem
  | unlisted hsight => simp at hmem
  | unreadable error hsight => simp at hmem
  | single hopens hsight last =>
      cases hopens
      obtain ⟨rfl, hlast, rfl⟩ :=
        append_singleton_eq_append_cons (show [_] ++ [_] = _ from hrounds) (by simp)
      cases hlast
      exact ⟨rfl, rfl⟩
  | interrupted hsight hentries hends =>
      have hinner := by simpa using hmem
      exact absurd (.removal path own) (hentries.not_touches hinner)
  | emptied hsight hentries last =>
      rename_i answer names rounds left
      have hleft : left = unremoved rounds :=
        (hentries.ending fun round hround => hsound round (by simp [hround])).left_eq
      have hfirst : ⟨.remove path, own⟩ ∉
          ⟨.fileInfo path, some answer⟩ :: ⟨.readDirectory path, some (.ok names)⟩ :: rounds := by
        simpa using fun hinner => hentries.not_touches hinner (.removal path own)
      obtain ⟨rfl, hlast, rfl⟩ := append_singleton_eq_append_cons hrounds hfirst
      cases hlast
      exact ⟨rfl, by rw [hleft]; rfl⟩

/-! ## Forced removals -/

structure ForcedReport (path : String) (rounds : List Round)
    (outcome : Outcome (List String)) : Prop where
  report : ∀ left,
    outcome = .finished (.ok left) ∨ outcome = .finished (.error (.removeFailed left)) →
      left = unremoved rounds
  /-- What is left is raised, and not returned, when something is left below the path and the
  request for the path itself is not refused. -/
  raised : (∃ left, outcome = .finished (.error (.removeFailed left))) ↔
    ∃ earlier answer, rounds = earlier ++ [⟨.remove path, some answer⟩] ∧
      unremoved earlier ≠ [] ∧ ∀ code, answer = .ok code → code.isSuccess = true
  otherwise : (∀ left, outcome ≠ .finished (.ok left)) →
    (∀ left, outcome ≠ .finished (.error (.removeFailed left))) → Halted rounds outcome

end

end Client

/-- However the device answers, a forced removal tells exactly what it did not remove; it returns
that, or raises it when the path itself was not refused. -/
theorem forced_removal_reports {σ : Type} (device : Device σ) (session : Session σ) (depth : Nat)
    (path : String) :
    Client.ForcedReport path
      (session.rounds device (Client.removeTree depth path true))
      (session.run device (Client.removeTree depth path true)).1 := by
  have hcourse := session.run_course device depth path true
  have hsound := session.rounds_sound device (Client.removeTree depth path true)
  generalize session.rounds device (Client.removeTree depth path true) = rounds at hcourse hsound ⊢
  generalize (session.run device (Client.removeTree depth path true)).1 = outcome at hcourse ⊢
  have hending := hcourse.ending hsound
  constructor
  · rintro left (rfl | rfl)
    · exact hending.left_eq
    · exact (hending.of_removeFailed hsound).1
  · constructor
    · rintro ⟨left, rfl⟩
      obtain ⟨-, earlier, answer, hrounds, hleft, hanswer⟩ := hending.of_removeFailed hsound
      refine ⟨earlier, answer, hrounds, hleft, fun code hcode => ?_⟩
      exact (hanswer code hcode).resolve_right (by simp)
    · rintro ⟨earlier, answer, hrounds, hleft, hanswer⟩
      obtain ⟨-, houtcome⟩ := hcourse.concluded hsound hrounds
      rw [houtcome]
      rcases answer with error | code
      · refine ⟨Client.unremoved earlier ++ [path], ?_⟩
        simp [Client.concluded, Client.settled, hleft]
      · have hcode : code.isSuccess = true := hanswer code rfl
        refine ⟨Client.unremoved earlier, ?_⟩
        simp [Client.concluded, Client.settled, hleft, hcode]
  · intro hok hfailed
    cases hending with
    | returned => exact absurd rfl (hok _)
    | raised hleft hforce => exact absurd rfl (hfailed _)
    | halted hhalted => exact hhalted

def Script.emptiedAnyway : Session Script :=
  .fresh {} ⟨[kind "S_IFDIR", strings ["f"], kind "S_IFREG", code 10, code 0], 0, none, none, false⟩
    (.empty "host") []

/-- Every round trip is answered, the path itself is removed, and what is left below it is raised
and not returned. -/
theorem forced_removal_raises :
    Script.emptiedAnyway.rounds Script.device (Client.removeTree 2 "/d" true) =
      [⟨.fileInfo "/d", some (.ok ⟨[("st_ifmt", "S_IFDIR")]⟩)⟩,
        ⟨.readDirectory "/d", some (.ok ["f"])⟩,
        ⟨.fileInfo "/d/f", some (.ok ⟨[("st_ifmt", "S_IFREG")]⟩)⟩,
        ⟨.remove "/d/f", some (.ok .permissionDenied)⟩,
        ⟨.remove "/d", some (.ok .success)⟩] ∧
    (Script.emptiedAnyway.run Script.device (Client.removeTree 2 "/d" true)).1 =
      .finished (.error (.removeFailed ["/d/f"])) := by
  constructor <;> cbv

end FileConduit

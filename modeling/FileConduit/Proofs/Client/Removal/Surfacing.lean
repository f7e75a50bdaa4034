import FileConduit.Proofs.Client.Removal.Ending
import Mathlib.Data.List.DropRight

/-!
# Which failures a removal raises

A failure that is no refusal ends a removal and is its result, with one exception.  When the last
request for a directory fails and something has been left below it, the failure is taken for one
more path that is left: the removal goes on above the directory, or ends with that report.
-/

namespace FileConduit

/-- What a round trip fails with: what it is told, or that a description cannot be read. -/
inductive Round.Fails : Round → ClientError → Prop where
  | told {round : Round} {error : ClientError} (hanswer : round.answer = some (.error error)) :
      Fails round error
  | unreadable {path : String} {fields : InfoDictionary} {error : ClientError}
      (hfields : FileInfo.ofDictionary fields = .error error) :
      Fails ⟨.fileInfo path, some (.ok fields)⟩ error

theorem ClientError.not_isNotFound {error : ClientError} (hends : error.endsRound = true)
    (hstatus : error.isStatus = false) : error.isNotFound = false := by
  cases error with
  | reply cause => cases cause <;> simp_all [isNotFound, code?, isStatus]
  | refused code explanation => cases hends
  | fileNotFound path => cases hends
  | _ => rfl

namespace Client

/-- The round trips since a path was last looked at. -/
def sinceLook (path : String) (rounds : List Round) : List Round :=
  rounds.rtakeWhile fun round => round.request != .fileInfo path

/-- Whether a round trip asks for a directory to be removed below which something has been left
since the directory was looked at. -/
def leavesBehind (earlier : List Round) (round : Round) : Bool :=
  match round.request with
  | .remove path => !(unremoved (sinceLook path earlier)).isEmpty
  | _ => false

section

variable {task : Task} {path directory : String} {force : Bool} {depth : Nat}
  {names : List String} {rounds earlier later : List Round} {round : Round}
  {outcome : Outcome (List String)} {error : ClientError}

theorem sinceLook_append (first : List Round) {rest : List Round}
    (hlook : ∃ round ∈ rest, round.request = .fileInfo path) :
    sinceLook path (first ++ rest) = sinceLook path rest := by
  unfold sinceLook
  induction rest using List.reverseRecOn with
  | nil => simp at hlook
  | append_singleton rest last ih =>
      rw [← List.append_assoc]
      by_cases hlast : last.request = .fileInfo path
      · rw [List.rtakeWhile_concat_neg _ _ _ (by simp [hlast]),
          List.rtakeWhile_concat_neg _ _ _ (by simp [hlast])]
      · have hearlier : ∃ round ∈ rest, round.request = .fileInfo path := by
          obtain ⟨round, hround, hrequest⟩ := hlook
          rcases List.mem_append.mp hround with hround | hround
          · exact ⟨round, hround, hrequest⟩
          · rw [List.mem_singleton.mp hround] at hrequest
            exact absurd hrequest hlast
        rw [List.rtakeWhile_concat_pos _ _ _ (by simp [hlast]),
          List.rtakeWhile_concat_pos _ _ _ (by simp [hlast]), ih hearlier]

theorem sinceLook_look (answer : Option (Except ClientError InfoDictionary)) {rest : List Round}
    (hrest : ∀ round ∈ rest, round.request ≠ .fileInfo path) :
    sinceLook path (⟨.fileInfo path, answer⟩ :: rest) = rest := by
  unfold sinceLook
  induction rest using List.reverseRecOn with
  | nil => simp [List.rtakeWhile]
  | append_singleton rest last ih =>
      have hlast : last.request ≠ .fileInfo path := hrest last (by simp)
      have hearlier := ih fun round hround => hrest round (by simp [hround])
      rw [← List.cons_append, List.rtakeWhile_concat_pos _ _ _ (by simp [hlast]), hearlier]

/-- A request for removal follows a look at the path, by the same task. -/
theorem Course.looked (hcourse : Course task rounds outcome)
    (hrounds : rounds = earlier ++ round :: later) (hrequest : round.request = .remove path) :
    ∃ look ∈ earlier, look.request = .fileInfo path := by
  have hmem : round ∈ rounds := by simp [hrounds]
  induction hcourse generalizing earlier later with
  | tooDeep => simp at hmem
  | unseen hopens =>
      rw [List.mem_singleton.mp hmem] at hrequest
      cases hrequest
  | failed hopens hsight =>
      rw [List.mem_singleton.mp hmem] at hrequest
      cases hrequest
  | absent hopens hsight =>
      rw [List.mem_singleton.mp hmem] at hrequest
      cases hrequest
  | single hopens hsight own =>
      obtain ⟨middle, rfl, hrest⟩ :=
        cons_eq_append_cons hrounds (by rintro rfl; cases hrequest)
      obtain ⟨-, rfl, -⟩ := singleton_eq_append_cons hrest
      cases hrequest
      exact ⟨_, List.mem_cons_self, rfl⟩
  | unlisted hsight =>
      rcases List.mem_pair.mp hmem with rfl | rfl <;> cases hrequest
  | unreadable error hsight =>
      rcases List.mem_pair.mp hmem with rfl | rfl <;> cases hrequest
  | interrupted hsight hentries hends ih =>
      obtain ⟨middle, rfl, hrest⟩ :=
        cons_eq_append_cons hrounds (by rintro rfl; cases hrequest)
      obtain ⟨inner, rfl, hinner⟩ :=
        cons_eq_append_cons hrest (by rintro rfl; cases hrequest)
      obtain ⟨look, hlook, hpath⟩ := ih hinner (by simp [hinner])
      exact ⟨look, by simp [hlook], hpath⟩
  | emptied hsight hentries own ih =>
      obtain ⟨middle, rfl, hrest⟩ :=
        cons_eq_append_cons hrounds (by rintro rfl; cases hrequest)
      obtain ⟨inner, rfl, hinner⟩ :=
        cons_eq_append_cons hrest (by rintro rfl; cases hrequest)
      rcases append_eq_append_cons hinner with ⟨last, hfirst, -⟩ | ⟨last, -, hlast⟩
      · obtain ⟨look, hlook, hpath⟩ := ih hfirst (by simp [hfirst])
        exact ⟨look, by simp [hlook], hpath⟩
      · obtain ⟨-, rfl, -⟩ := singleton_eq_append_cons hlast
        cases hrequest
        exact ⟨_, List.mem_cons_self, rfl⟩
  | nested hsight htree ih =>
      obtain ⟨middle, rfl, hrest⟩ :=
        cons_eq_append_cons hrounds (by rintro rfl; cases hrequest)
      obtain ⟨look, hlook, hpath⟩ := ih hrest (by simp [hrest])
      exact ⟨look, by simp [hlook], hpath⟩
  | none depth directory => simp at hmem
  | skipped hname hentries ih => exact ih hrounds hmem
  | stopped hname hentry hends ih => exact ih hrounds hmem
  | next hname hentry hentries ihfirst ihrest =>
      rcases append_eq_append_cons hrounds with ⟨middle, hfirst, -⟩ | ⟨middle, rfl, hrest⟩
      · exact ihfirst hfirst (by simp [hfirst])
      · obtain ⟨look, hlook, hpath⟩ := ihrest hrest (by simp [hrest])
        exact ⟨look, List.mem_append_right _ hlook, hpath⟩

theorem leavesBehind_append (hcourse : Course task rounds outcome)
    (hrounds : rounds = earlier ++ round :: later) (first : List Round) :
    leavesBehind (first ++ earlier) round = leavesBehind earlier round := by
  unfold leavesBehind
  split
  · rename_i path hrequest
    rw [sinceLook_append first (hcourse.looked hrounds hrequest)]
  · rfl

theorem leavesBehind_single (path : String) (answer : Option (Except ClientError InfoDictionary))
    (own : Option (Except ClientError StatusCode)) :
    leavesBehind [⟨.fileInfo path, answer⟩] ⟨.remove path, own⟩ = false := by
  have hsince : sinceLook path [⟨.fileInfo path, answer⟩] = [] := sinceLook_look answer (by simp)
  simp [leavesBehind, hsince]

/-- Once its entries are removed, what has been left below a directory is what they leave. -/
theorem leavesBehind_entries (answer : Option (Except ClientError InfoDictionary))
    (listing : Option (Except ClientError (List String)))
    (own : Option (Except ClientError StatusCode))
    (hentries : Course (.entries depth path names) rounds outcome) :
    leavesBehind (⟨.fileInfo path, answer⟩ :: ⟨.readDirectory path, listing⟩ :: rounds)
      ⟨.remove path, own⟩ = !(unremoved rounds).isEmpty := by
  have hother : ∀ round ∈ (⟨.readDirectory path, listing⟩ :: rounds : List Round),
      round.request ≠ .fileInfo path := by
    intro round hround hlook
    rcases List.mem_cons.mp hround with rfl | hround
    · cases hlook
    · obtain ⟨request, answer⟩ := round
      cases hlook
      exact hentries.not_touches hround (.look path answer)
  simp [leavesBehind, sinceLook_look answer hother]

theorem Course.stops_of_fails (hcourse : Course task rounds outcome) (hround : round ∈ rounds)
    (hsound : round.Sound) (hfails : round.Fails error) (hstatus : error.isStatus = false) :
    Stops round error := by
  obtain ⟨path, htouches, -⟩ := hcourse.extent round hround
  cases hfails with
  | unreadable hfields => exact .look (Sight.failed_iff.mpr (.inr ⟨_, rfl, hfields⟩))
  | told hanswer =>
      have hends := hsound.ends error hanswer
      cases htouches with
      | look path answer =>
          have htold : answer = some (.error error) := hanswer
          rw [htold]
          have hother : error ≠ .reply (.status .readError) := by
            rintro rfl
            cases hstatus
          have hpresent := ClientError.not_isNotFound hends hstatus
          exact .look (Sight.failed_iff.mpr (.inl ⟨rfl, hother, hpresent⟩))
      | listing path answer =>
          have htold : answer = some (.error error) := hanswer
          rw [htold]
          exact .listing
      | removal path answer =>
          have htold : answer = some (.error error) := hanswer
          rw [htold]
          exact .removal hstatus

theorem Course.entry_ne_nil (hcourse : Course (.entry depth path) rounds outcome) :
    rounds ≠ [] := by
  cases hcourse <;> simp

/-- Without a round trip there is nothing to be removed. -/
theorem Course.entries_nil (hcourse : Course (.entries depth directory names) [] outcome) :
    outcome = .finished (.ok []) := by
  generalize hrounds : [] = rounds at hcourse
  generalize htask : Task.entries depth directory names = task at hcourse
  induction hcourse generalizing names with
  | none => rfl
  | skipped hname hentries ih =>
      cases htask
      exact ih hrounds rfl
  | stopped hname hentry hends => exact absurd hrounds.symm hentry.entry_ne_nil
  | next hname hentry hentries =>
      exact absurd (List.append_eq_nil_iff.mp hrounds.symm).1 hentry.entry_ne_nil
  | tooDeep => cases htask
  | _ => cases hrounds

theorem Stops.look_failed {answer : Except ClientError InfoDictionary}
    (hstops : Stops ⟨.fileInfo path, some answer⟩ error) :
    Sight.ofAnswer answer = .failed error := by
  cases hstops with
  | look hsight => exact hsight

theorem Stops.after_look (hstops : Stops round error)
    {answer : Except ClientError InfoDictionary} {rest : List Round}
    (hrounds : ⟨.fileInfo path, some answer⟩ :: rest = earlier ++ round :: later)
    (hsight : ∀ error, Sight.ofAnswer answer ≠ .failed error) :
    ∃ middle, earlier = ⟨.fileInfo path, some answer⟩ :: middle ∧
      rest = middle ++ round :: later := by
  refine cons_eq_append_cons hrounds ?_
  rintro rfl
  exact hsight error hstops.look_failed

/-- Whether a task takes a failure for one more path that is left, instead of failing itself. -/
def Task.Absorbs : Task → Round → Outcome (List String) → Prop
  | .tree _ path _, round, outcome =>
      round.request = .remove path ∧ ∃ left, outcome = .finished (.error (.removeFailed left))
  | _, _, outcome => ∃ left, outcome = .finished (.ok left)

/-- A round trip that stops a removal is its last one and its result; but if it leaves something
behind, it can be the last one only of the task that absorbs it. -/
theorem Course.after_stop (hcourse : Course task rounds outcome)
    (hsound : ∀ round ∈ rounds, round.Sound) (hrounds : rounds = earlier ++ round :: later)
    (hstops : Stops round error) :
    (leavesBehind earlier round = false → later = [] ∧ outcome = .finished (.error error)) ∧
      (leavesBehind earlier round = true → later = [] → task.Absorbs round outcome) := by
  have hmem : round ∈ rounds := by simp [hrounds]
  induction hcourse generalizing earlier later with
  | tooDeep => simp at hmem
  | unseen hopens =>
      rw [List.mem_singleton.mp hmem] at hstops
      cases hstops
  | failed hopens hsight =>
      obtain ⟨rfl, rfl, rfl⟩ := singleton_eq_append_cons hrounds
      cases hstops with
      | look hfailed =>
          rw [hsight] at hfailed
          cases hfailed
          exact ⟨fun _ => ⟨rfl, rfl⟩, fun hleaves => by cases hleaves⟩
  | absent hopens hsight =>
      rw [List.mem_singleton.mp hmem] at hstops
      cases hsight.symm.trans hstops.look_failed
  | single hopens hsight own =>
      obtain ⟨middle, rfl, hrest⟩ := hstops.after_look hrounds
        (by rcases hsight with hsight | ⟨hsight, -⟩ <;> simp [hsight])
      obtain ⟨rfl, rfl, rfl⟩ := singleton_eq_append_cons hrest
      cases hstops
      rw [leavesBehind_single]
      exact ⟨fun _ => ⟨rfl, rfl⟩, fun hleaves => by cases hleaves⟩
  | unlisted hsight =>
      rcases List.mem_pair.mp hmem with rfl | rfl
      · cases hsight.symm.trans hstops.look_failed
      · cases hstops
  | unreadable error hsight =>
      obtain ⟨middle, rfl, hrest⟩ := hstops.after_look hrounds (by simp [hsight])
      obtain ⟨rfl, rfl, rfl⟩ := singleton_eq_append_cons hrest
      cases hstops
      exact ⟨fun _ => ⟨rfl, rfl⟩, fun hleaves => by cases hleaves⟩
  | interrupted hsight hentries hends ih =>
      obtain ⟨middle, rfl, hrest⟩ := hstops.after_look hrounds (by simp [hsight])
      obtain ⟨inner, rfl, hinner⟩ := cons_eq_append_cons hrest (by rintro rfl; cases hstops)
      have hcase := ih (fun round hround => hsound round (by simp [hround])) hinner
        (by simp [hinner])
      have hsame := leavesBehind_append hentries hinner
      refine ⟨fun hleaves => hcase.1 ((hsame [_, _]).symm.trans hleaves), fun hleaves hlater => ?_⟩
      obtain ⟨left, houtcome⟩ := hcase.2 ((hsame [_, _]).symm.trans hleaves) hlater
      exact absurd houtcome (hends left)
  | @emptied _ _ _ _ _ _ left hsight hentries own ih =>
      obtain ⟨middle, rfl, hrest⟩ := hstops.after_look hrounds (by simp [hsight])
      obtain ⟨inner, rfl, hinner⟩ := cons_eq_append_cons hrest (by rintro rfl; cases hstops)
      rcases append_eq_append_cons hinner with ⟨last, hfirst, rfl⟩ | ⟨last, hearlier, hlast⟩
      · have hcase := ih (fun round hround => hsound round (by simp [hround])) hfirst
          (by simp [hfirst])
        have hsame := leavesBehind_append hentries hfirst
        refine ⟨fun hleaves => ?_, fun hleaves hlater => ?_⟩
        · cases (hcase.1 ((hsame [_, _]).symm.trans hleaves)).2
        · simp at hlater
      · -- The request for the directory itself: what its entries leave decides.
        obtain ⟨rfl, rfl, rfl⟩ := singleton_eq_append_cons hlast
        rw [List.append_nil] at hearlier
        rw [hearlier, leavesBehind_entries _ _ _ hentries]
        have hleft := (hentries.ending fun round hround => hsound round (by simp [hround])).left_eq
        rw [← hleft]
        cases hstops
        cases left with
        | nil => exact ⟨fun _ => ⟨rfl, rfl⟩, fun hleaves => by cases hleaves⟩
        | cons path left => exact ⟨fun hleaves => (by cases hleaves), fun _ _ => ⟨rfl, _, rfl⟩⟩
  | nested hsight htree ih =>
      obtain ⟨middle, rfl, hrest⟩ := hstops.after_look hrounds (by simp [hsight])
      have hinner := fun round hround => hsound round (List.mem_cons_of_mem _ hround)
      have hcase := ih hinner hrest (by simp [hrest])
      have hsame := leavesBehind_append htree hrest
      refine ⟨fun hleaves => ?_, fun hleaves hlater => ?_⟩
      · obtain ⟨rfl, rfl⟩ := hcase.1 ((hsame [_]).symm.trans hleaves)
        exact ⟨rfl, Halted.collected (.stopped hrest hstops) hinner⟩
      · obtain ⟨-, left, rfl⟩ := hcase.2 ((hsame [_]).symm.trans hleaves) hlater
        exact ⟨left, rfl⟩
  | none depth directory => simp at hmem
  | skipped hname hentries ih => exact ih hsound hrounds hmem
  | stopped hname hentry hends ih => exact ih hsound hrounds hmem
  | next hname hentry hentries ihfirst ihrest =>
      rcases append_eq_append_cons hrounds with ⟨middle, hfirst, rfl⟩ | ⟨middle, rfl, hrest⟩
      · have hcase := ihfirst (fun round hround => hsound round (by simp [hround])) hfirst
          (by simp [hfirst])
        refine ⟨fun hleaves => ?_, fun hleaves hlater => ?_⟩
        · cases (hcase.1 hleaves).2
        · -- Absorbed by the entry, and no round trip after it: there are no other entries.
          obtain ⟨-, rfl⟩ := List.append_eq_nil_iff.mp hlater
          rw [hentries.entries_nil]
          exact ⟨_, rfl⟩
      · have hcase := ihrest (fun round hround => hsound round (by simp [hround])) hrest
          (by simp [hrest])
        rw [leavesBehind_append hentries hrest]
        refine ⟨fun hleaves => ?_, fun hleaves hlater => ?_⟩
        · obtain ⟨rfl, rfl⟩ := hcase.1 hleaves
          exact ⟨rfl, rfl⟩
        · obtain ⟨left, rfl⟩ := hcase.2 hleaves hlater
          exact ⟨_, rfl⟩

/-- What becomes of the failures of a removal that are no refusals. -/
structure Surfacing (path : String) (rounds : List Round)
    (outcome : Outcome (List String)) : Prop where
  surfaces : ∀ {earlier round later error}, rounds = earlier ++ round :: later →
    round.Fails error → error.isStatus = false → leavesBehind earlier round = false →
      later = [] ∧ outcome = .finished (.error error)
  /-- Below the path, a failure that leaves something behind does not end the removal. -/
  passed : ∀ {earlier round later error}, rounds = earlier ++ round :: later →
    round.Fails error → error.isStatus = false → leavesBehind earlier round = true →
      round.request ≠ .remove path → later ≠ []
  replaced : ∀ {earlier round later error}, rounds = earlier ++ round :: later →
    round.Fails error → error.isStatus = false → leavesBehind earlier round = true →
      round.request = .remove path →
        later = [] ∧ outcome = .finished (.error (.removeFailed (unremoved rounds)))

end

end Client

/-- A failure that is no refusal ends a removal and is its result, unless it leaves something
behind. -/
theorem removal_surfaces {σ : Type} (device : Device σ) (session : Session σ) (depth : Nat)
    (path : String) (force : Bool) :
    Client.Surfacing path (session.rounds device (Client.removeTree depth path force))
      (session.run device (Client.removeTree depth path force)).1 := by
  have hcourse := session.run_course device depth path force
  have hsound := session.rounds_sound device (Client.removeTree depth path force)
  generalize session.rounds device (Client.removeTree depth path force) = rounds at hcourse hsound ⊢
  generalize (session.run device (Client.removeTree depth path force)).1 = outcome at hcourse ⊢
  have hstops : ∀ {earlier round later error}, rounds = earlier ++ round :: later →
      round.Fails error → error.isStatus = false → Client.Stops round error := by
    intro earlier round later error hrounds hfails hstatus
    have hmem : round ∈ rounds := by simp [hrounds]
    exact hcourse.stops_of_fails hmem (hsound round hmem) hfails hstatus
  constructor
  · intro earlier round later error hrounds hfails hstatus hleaves
    exact (hcourse.after_stop hsound hrounds (hstops hrounds hfails hstatus)).1 hleaves
  · intro earlier round later error hrounds hfails hstatus hleaves hother hlater
    have hafter := hcourse.after_stop hsound hrounds (hstops hrounds hfails hstatus)
    exact hother (hafter.2 hleaves hlater).1
  · intro earlier round later error hrounds hfails hstatus hleaves hrequest
    have hround : ∃ own, round = ⟨.remove path, own⟩ := by
      obtain ⟨request, answer⟩ := round
      cases hrequest
      exact ⟨answer, rfl⟩
    obtain ⟨own, rfl⟩ := hround
    obtain ⟨rfl, -⟩ := hcourse.concluded hsound hrounds
    have hafter := hcourse.after_stop hsound hrounds (hstops hrounds hfails hstatus)
    obtain ⟨-, left, rfl⟩ := hafter.2 hleaves rfl
    have hleft := ((hcourse.ending hsound).of_removeFailed hsound).1
    exact ⟨rfl, by rw [hleft]⟩

/-- The device refuses to remove a file, answers the request for the directory that holds it with
data, and refuses to remove the directory above. -/
def Script.answersWithData : Session Script :=
  .fresh {} ⟨[kind "S_IFDIR", strings ["s"], kind "S_IFDIR", kind "S_IFDIR", strings ["f"],
    kind "S_IFREG", code 10, strings [], code 10], 0, none, none, false⟩ (.empty "host") []

theorem Script.answersWithData_rounds :
    Script.answersWithData.rounds Script.device (Client.removeTree 3 "/d" true) =
      [⟨.fileInfo "/d", some (.ok ⟨[("st_ifmt", "S_IFDIR")]⟩)⟩,
        ⟨.readDirectory "/d", some (.ok ["s"])⟩,
        ⟨.fileInfo "/d/s", some (.ok ⟨[("st_ifmt", "S_IFDIR")]⟩)⟩,
        ⟨.fileInfo "/d/s", some (.ok ⟨[("st_ifmt", "S_IFDIR")]⟩)⟩,
        ⟨.readDirectory "/d/s", some (.ok ["f"])⟩,
        ⟨.fileInfo "/d/s/f", some (.ok ⟨[("st_ifmt", "S_IFREG")]⟩)⟩,
        ⟨.remove "/d/s/f", some (.ok .permissionDenied)⟩] ++
      ⟨.remove "/d/s", some (.error (.reply (.unexpectedOperation .status .data)))⟩ ::
        [⟨.remove "/d", some (.ok .permissionDenied)⟩] := by
  cbv

/-- A reply of the wrong operation is passed over: the removal goes on and is a success. -/
theorem removal_passes_over :
    (Script.answersWithData.run Script.device (Client.removeTree 3 "/d" true)).1 =
      .finished (.ok ["/d/s/f", "/d/s", "/d"]) ∧
    ¬ ∀ earlier round later error,
      Script.answersWithData.rounds Script.device (Client.removeTree 3 "/d" true) =
        earlier ++ round :: later →
      round.Fails error → error.isStatus = false →
      later = [] ∧
        (Script.answersWithData.run Script.device (Client.removeTree 3 "/d" true)).1 =
          .finished (.error error) := by
  refine ⟨by cbv, fun hends => ?_⟩
  have hlast := (hends _ _ _ _ Script.answersWithData_rounds (.told rfl) rfl).1
  cases hlast

end FileConduit

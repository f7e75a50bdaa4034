import FileConduit.Proofs.Client.Removal.Surfacing

/-!
# How much of a directory is removed

Entries whose removal is refused do not keep a removal from the others: for every directory that
is listed, each entry is attended to in turn and then the directory itself, unless the removal is
halted.  A refusal halts it when it answers a look or a listing.
-/

namespace FileConduit

namespace Client

/-- The round trips for one entry: in the end it is not there any more, or it is asked to be
removed. -/
inductive Attended (path : String) : List Round → Prop where
  | gone {earlier : List Round} {answer : Except ClientError InfoDictionary}
      (hsight : Sight.ofAnswer answer = .absent) :
      Attended path (earlier ++ [⟨.fileInfo path, some answer⟩])
  | tried {answer : Except ClientError InfoDictionary} {between : List Round}
      {own : Except ClientError StatusCode} :
      Attended path (⟨.fileInfo path, some answer⟩ :: (between ++ [⟨.remove path, some own⟩]))

/-- The round trips after the listing of a directory, if its entries are attended to one after
another and then the directory itself. -/
inductive Attends (directory : String) : List String → List Round → Prop where
  | removed (own : Option (Except ClientError StatusCode)) (later : List Round) :
      Attends directory [] (⟨.remove directory, own⟩ :: later)
  | skipped {name : String} {names : List String} {rounds : List Round}
      (hname : RemotePath.isTraversal name = true) (hothers : Attends directory names rounds) :
      Attends directory (name :: names) rounds
  | attended {name : String} {names : List String} {first rest : List Round}
      (hname : RemotePath.isTraversal name = false)
      (hfirst : Attended (RemotePath.join directory name) first)
      (hown : ∀ round ∈ first, ∃ path, Touches round path ∧
        RemotePath.Within (RemotePath.join directory name) path)
      (hothers : Attends directory names rest) :
      Attends directory (name :: names) (first ++ rest)

section

variable {task : Task} {path directory : String} {force : Bool} {depth : Nat}
  {names : List String} {rounds earlier later : List Round} {outcome : Outcome (List String)}
  {left : List String}

theorem Attended.prepend_look (hattended : Attended path rounds)
    (answer : Except ClientError InfoDictionary) :
    Attended path (⟨.fileInfo path, some answer⟩ :: rounds) := by
  cases hattended with
  | gone hsight =>
      rw [← List.cons_append]
      exact .gone hsight
  | tried =>
      rw [← List.cons_append]
      exact .tried

theorem Attends.append (hattends : Attends directory names rounds) (more : List Round) :
    Attends directory names (rounds ++ more) := by
  induction hattends with
  | removed own later => exact .removed own (later ++ more)
  | skipped hname hothers ih => exact .skipped hname ih
  | attended hname hfirst hown hothers ih =>
      rw [List.append_assoc]
      exact .attended hname hfirst hown ih

theorem Attends.removes (hattends : Attends directory names rounds) :
    ∃ own, ⟨.remove directory, own⟩ ∈ rounds := by
  induction hattends with
  | removed own later => exact ⟨own, List.mem_cons_self⟩
  | skipped hname hothers ih => exact ih
  | attended hname hfirst hown hothers ih =>
      obtain ⟨own, hlast⟩ := ih
      exact ⟨own, List.mem_append_right _ hlast⟩

theorem Task.Opens.unique {other : String} {forced : Bool} (hpath : task.Opens path force)
    (hother : task.Opens other forced) : path = other := by
  cases hpath <;> cases hother <;> rfl

theorem Course.tree_zero (hcourse : Course (.tree 0 path force) rounds outcome) :
    outcome = .halted .steps := by
  cases hcourse with
  | tooDeep => rfl
  | unseen hopens | failed hopens | absent hopens | single hopens => cases hopens

/-- A path is attended to by every task of its own that is not halted. -/
theorem Course.attended (hcourse : Course task rounds outcome) (hopens : task.Opens path force)
    (hsound : ∀ round ∈ rounds, round.Sound) (hends : ¬ Halted rounds outcome) :
    Attended path rounds := by
  induction hcourse generalizing force with
  | tooDeep => cases hopens
  | unseen => exact absurd (.abandoned (List.nil_append _).symm rfl) hends
  | failed hown hsight =>
      exact absurd (.stopped (List.nil_append _).symm (.look hsight)) hends
  | absent hown hsight =>
      rw [hopens.unique hown, ← List.nil_append [_]]
      exact .gone hsight
  | single hown hsight own =>
      rw [hopens.unique hown]
      cases own with
      | none => exact absurd (Halted.prepend (.abandoned (List.nil_append _).symm rfl) [_]) hends
      | some own =>
          show Attended _ (_ :: ([] ++ [_]))
          exact .tried
  | unlisted =>
      exact absurd (Halted.prepend (.abandoned (List.nil_append _).symm rfl) [_]) hends
  | unreadable error hsight =>
      exact absurd (Halted.prepend (.stopped (List.nil_append _).symm .listing) [_]) hends
  | interrupted hsight hentries hstays ih =>
      have hhalted := (hentries.ending fun round hround => hsound round (by simp [hround]))
        |>.halted_of_ne hstays
      exact absurd (hhalted.prepend [_, _]) hends
  | emptied hsight hentries own ih =>
      cases hopens
      cases own with
      | none => exact absurd (Halted.prepend (.abandoned rfl rfl) [_, _]) hends
      | some own =>
          rw [← List.cons_append]
          exact .tried
  | @nested depth own answer rounds outcome hsight htree ih =>
      cases hopens
      have hinner := fun round hround => hsound round (List.mem_cons_of_mem _ hround)
      have hgoes : ¬ Halted rounds outcome := by
        intro hhalted
        rw [hhalted.collected hinner] at hends
        exact hends (hhalted.prepend [_])
      cases depth with
      | zero =>
          rw [htree.tree_zero] at hgoes
          exact absurd .tooDeep hgoes
      | succ depth => exact (ih (.tree depth _ true) hinner hgoes).prepend_look answer
  | none | skipped | stopped | next => cases hopens

theorem of_preceded_ok {all : List String}
    (houtcome : preceded left outcome = .finished (.ok all)) :
    ∃ rest, outcome = .finished (.ok rest) := by
  unfold preceded at houtcome
  split at houtcome
  · exact ⟨_, rfl⟩
  · exact ⟨all, houtcome⟩

theorem Course.entries_attended (hcourse : Course (.entries depth directory names) rounds outcome)
    (hsound : ∀ round ∈ rounds, round.Sound) (houtcome : outcome = .finished (.ok left))
    (own : Option (Except ClientError StatusCode)) (later : List Round) :
    Attends directory names (rounds ++ ⟨.remove directory, own⟩ :: later) := by
  generalize htask : Task.entries depth directory names = task at hcourse
  induction hcourse generalizing names left with
  | none =>
      cases htask
      exact .removed own later
  | skipped hname hentries ih =>
      cases htask
      exact .skipped hname (ih hsound houtcome rfl)
  | stopped hname hentry hends => exact absurd houtcome (hends left)
  | @next _ _ name _ first rest others outcome hname hentry hentries _ ih =>
      cases htask
      have hfirst : Attended (RemotePath.join directory name) first :=
        hentry.attended (.entry depth _) (fun round hround => hsound round (by simp [hround]))
          fun hhalted => absurd rfl (hhalted.ne_ok others)
      obtain ⟨left, hrest⟩ := of_preceded_ok houtcome
      have hothers := ih (fun round hround => hsound round (by simp [hround])) hrest rfl
      rw [List.append_assoc]
      exact .attended hname hfirst hentry.extent hothers
  | tooDeep | unlisted | unreadable | interrupted | emptied | nested => cases htask
  | unseen hopens | failed hopens | absent hopens | single hopens =>
      cases htask
      cases hopens

theorem Course.attends (hcourse : Course task rounds outcome)
    (hsound : ∀ round ∈ rounds, round.Sound)
    (hrounds : rounds = earlier ++ ⟨.readDirectory directory, some (.ok names)⟩ :: later) :
    Attends directory names later ∨ Halted rounds outcome := by
  have hmem : ⟨.readDirectory directory, some (.ok names)⟩ ∈ rounds := by simp [hrounds]
  induction hcourse generalizing earlier later with
  | tooDeep => simp at hmem
  | unseen hopens => simp at hmem
  | failed hopens hsight => simp at hmem
  | absent hopens hsight => simp at hmem
  | single hopens hsight own => simp at hmem
  | unlisted hsight => simp at hmem
  | unreadable error hsight => simp at hmem
  | interrupted hsight hentries hends ih =>
      have hhalted := (hentries.ending fun round hround => hsound round (by simp [hround]))
        |>.halted_of_ne hends
      exact .inr (hhalted.prepend [_, _])
  | emptied hsight hentries own ih =>
      have hinner := fun round (hround : round ∈ _) => hsound round
        (List.mem_cons_of_mem _ (List.mem_cons_of_mem _ (List.mem_append_left _ hround)))
      obtain ⟨middle, rfl, hrest⟩ := cons_eq_append_cons hrounds (by simp)
      cases middle with
      | nil =>
          obtain ⟨hlisting, rfl⟩ := List.cons.inj hrest
          cases hlisting
          exact .inl (hentries.entries_attended hinner rfl own [])
      | cons look middle =>
          obtain ⟨rfl, htail⟩ := List.cons.inj hrest
          rcases append_eq_append_cons htail with ⟨last, hfirst, rfl⟩ | ⟨last, -, hlast⟩
          · have hattends := ih hinner hfirst (by simp [hfirst])
            have hgoes := hattends.resolve_right fun hhalted => absurd rfl (hhalted.ne_ok _)
            exact .inl (hgoes.append _)
          · obtain ⟨-, hown, -⟩ := singleton_eq_append_cons hlast
            cases hown
  | nested hsight htree ih =>
      have hinner := fun round hround => hsound round (List.mem_cons_of_mem _ hround)
      obtain ⟨middle, rfl, hrest⟩ := cons_eq_append_cons hrounds (by simp)
      refine (ih hinner hrest (by simp [hrest])).imp_right fun hhalted => ?_
      rw [hhalted.collected hinner]
      exact hhalted.prepend [_]
  | none depth directory => simp at hmem
  | skipped hname hentries ih => exact ih hsound hrounds hmem
  | stopped hname hentry hends ih => exact ih hsound hrounds hmem
  | next hname hentry hentries ihfirst ihrest =>
      rcases append_eq_append_cons hrounds with ⟨middle, hfirst, rfl⟩ | ⟨middle, rfl, hrest⟩
      · have hattends := ihfirst (fun round hround => hsound round (by simp [hround])) hfirst
          (by simp [hfirst])
        have hgoes := hattends.resolve_right fun hhalted => absurd rfl (hhalted.ne_ok _)
        exact .inl (hgoes.append _)
      · have hattends := ihrest (fun round hround => hsound round (by simp [hround])) hrest
          (by simp [hrest])
        refine hattends.imp_right fun hhalted => ?_
        rw [hhalted.preceded]
        exact hhalted.prepend _

theorem of_collected_halted {cause : Halt} (houtcome : collected outcome = .halted cause) :
    outcome = .halted cause := by
  unfold collected at houtcome
  split at houtcome
  · cases houtcome
  · exact houtcome

theorem of_preceded_halted {cause : Halt} (houtcome : preceded left outcome = .halted cause) :
    outcome = .halted cause := by
  unfold preceded at houtcome
  split at houtcome
  · cases houtcome
  · exact houtcome

def Task.floor : Task → Nat
  | .tree depth _ _ | .entry depth _ | .entries depth _ _ => depth

theorem Course.floor_le (hcourse : Course task rounds outcome)
    (houtcome : outcome = .halted .steps) : task.floor ≤ rounds.length := by
  induction hcourse with
  | tooDeep path force => exact Nat.zero_le _
  | interrupted hsight hentries hends ih =>
      have hinner := ih houtcome
      simp only [Task.floor, List.length_cons] at hinner ⊢
      omega
  | emptied hsight hentries own ih => cases own <;> cases houtcome
  | single hopens hsight own => cases own <;> cases houtcome
  | nested hsight htree ih =>
      have hinner := ih (of_collected_halted houtcome)
      simp only [Task.floor, List.length_cons] at hinner ⊢
      omega
  | skipped hname hentries ih => exact ih houtcome
  | stopped hname hentry hends ih => exact ih houtcome
  | next hname hentry hentries ihfirst ihrest =>
      have hinner := ihrest (of_preceded_halted houtcome)
      simp only [Task.floor, List.length_append] at hinner ⊢
      omega
  | unseen | failed | absent | unlisted | unreadable | none => cases houtcome

/-- What keeps a removal from attending to everything that is listed. -/
structure BestEffort (depth : Nat) (rounds : List Round) (outcome : Outcome (List String)) :
    Prop where
  attends : ∀ {earlier directory names later},
    rounds = earlier ++ ⟨.readDirectory directory, some (.ok names)⟩ :: later →
      Attends directory names later ∨ Halted rounds outcome
  /-- A look or a listing that fails ends the whole removal, also if it is refused. -/
  ends : ∀ {earlier round later error}, rounds = earlier ++ round :: later →
    Stops round error → (∀ path, round.request ≠ .remove path) →
      later = [] ∧ outcome = .finished (.error error)
  deep : outcome = .halted .steps → depth ≤ rounds.length

end

end Client

/-- Each entry of each directory that is listed is attended to, and then the directory, unless the
removal is halted; a failed look or listing halts it. -/
theorem removal_best_effort {σ : Type} (device : Device σ) (session : Session σ) (depth : Nat)
    (path : String) (force : Bool) :
    Client.BestEffort depth (session.rounds device (Client.removeTree depth path force))
      (session.run device (Client.removeTree depth path force)).1 := by
  have hcourse := session.run_course device depth path force
  have hsound := session.rounds_sound device (Client.removeTree depth path force)
  generalize session.rounds device (Client.removeTree depth path force) = rounds at hcourse hsound ⊢
  generalize (session.run device (Client.removeTree depth path force)).1 = outcome at hcourse ⊢
  constructor
  · intro earlier directory names later hrounds
    exact hcourse.attends hsound hrounds
  · intro earlier round later error hrounds hstops hother
    have hleaves : Client.leavesBehind earlier round = false := by
      unfold Client.leavesBehind
      split
      · rename_i path hrequest
        exact absurd hrequest (hother path)
      · rfl
    exact (hcourse.after_stop hsound hrounds hstops).1 hleaves
  · exact hcourse.floor_le

def Script.hidesEntry : Session Script :=
  .fresh {} ⟨[kind "S_IFDIR", strings ["a", "b"], code 10, kind "S_IFREG", code 0, code 10], 0,
    none, none, false⟩ (.empty "host") []

/-- The refusal of a look ends the removal: the entries after it are left where they are. -/
theorem removal_stops_at_hidden :
    Script.hidesEntry.rounds Script.device (Client.removeTree 2 "/d" true) =
      [⟨.fileInfo "/d", some (.ok ⟨[("st_ifmt", "S_IFDIR")]⟩)⟩,
        ⟨.readDirectory "/d", some (.ok ["a", "b"])⟩,
        ⟨.fileInfo "/d/a", some (.error (.reply (.status .permissionDenied)))⟩] ∧
    (Script.hidesEntry.run Script.device (Client.removeTree 2 "/d" true)).1 =
      .finished (.error (.reply (.status .permissionDenied))) ∧
    ¬ Client.Attends "/d" ["a", "b"]
      [⟨.fileInfo "/d/a", some (.error (.reply (.status .permissionDenied)))⟩] := by
  refine ⟨by cbv, by cbv, fun hattends => ?_⟩
  obtain ⟨own, hown⟩ := hattends.removes
  simp at hown

end FileConduit

import FileConduit.Proofs.Client.Walk.Course
import FileConduit.Session.Script

/-!
# The visits of a walk

A walk of a path tells of the directories that an outline has there in pre-order, for as long as it
is asked to go on.  The invariant is about the directories that wait: what is still to be visited is
each of them with what is below it, one after another.
-/

namespace FileConduit

namespace Visit

def within (bound : Option Nat) (visit : Visit) : Bool :=
  bound.all fun bound => visit.place.length < bound

def onward (bound : Option Nat) (visit : Visit) : List Visit :=
  if Client.descends bound visit.place.length then visit.below else []

theorem length_below {visit lower : Visit} (hlower : lower ∈ visit.below) :
    lower.place.length = visit.place.length + 1 := by
  obtain ⟨name, -, hplace⟩ := mem_below.mp hlower
  simp [hplace]

theorem length_preOrder {visit lower : Visit} (hlower : lower ∈ visit.preOrder) :
    visit.place.length ≤ lower.place.length := by
  obtain ⟨place, hplace, -⟩ := (Outline.mem_preOrder _ _ _).mp hlower
  simp [hplace]

theorem within_onward {bound : Option Nat} {visit lower : Visit}
    (hlower : lower ∈ visit.onward bound) : lower.within bound = true := by
  unfold onward at hlower
  split at hlower
  · rename_i hdescends
    have hlength := length_below hlower
    cases bound with
    | none => rfl
    | some bound => simpa [within, Client.descends, hlength] using hdescends
  · simp at hlower

/-- What a walk visits at a directory and below it is the directory, and what it visits of those in
it. -/
theorem filter_preOrder {bound : Option Nat} {visit : Visit} (hwithin : visit.within bound = true) :
    visit.preOrder.filter (within bound) =
      visit :: ((visit.onward bound).flatMap preOrder).filter (within bound) := by
  rw [preOrder_eq, List.filter_cons_of_pos hwithin, onward]
  split
  · rfl
  · rename_i hdescends
    rw [List.flatMap_nil, List.filter_nil, List.filter_eq_nil_iff.mpr]
    intro lowest hlowest hbound
    obtain ⟨lower, hlower, hpreOrder⟩ := List.mem_flatMap.mp hlowest
    have hlength := length_below hlower
    have hlow := length_preOrder hpreOrder
    cases bound with
    | none => exact hdescends rfl
    | some bound =>
        simp only [within, Option.all_some, decide_eq_true_eq] at hbound
        simp only [Client.descends, decide_eq_true_eq] at hdescends
        omega

theorem onward_leads {root : Outline} {bound : Option Nat} {visit lower : Visit}
    (hleads : root.Leads visit.place (.directory visit.entries))
    (hlower : lower ∈ visit.onward bound) : root.Leads lower.place (.directory lower.entries) := by
  unfold onward at hlower
  split at hlower
  · obtain ⟨name, hchild, hplace⟩ := mem_below.mp hlower
    rw [hplace]
    exact hleads.child hchild
  · simp at hlower

/-! ## Directories that wait -/

def remaining (bound : Option Nat) (waiting : List Visit) : List Visit :=
  (waiting.flatMap preOrder).filter (within bound)

theorem remaining_cons {bound : Option Nat} {visit : Visit} {waiting : List Visit}
    (hwithin : visit.within bound = true) :
    remaining bound (visit :: waiting) =
      visit :: remaining bound (visit.onward bound ++ waiting) := by
  rw [remaining, List.flatMap_cons, List.filter_append, filter_preOrder hwithin, List.cons_append,
    ← List.filter_append, ← List.flatMap_append, remaining]

theorem after_due (bound : Option Nat) (path : String) (visit : Visit) (waiting : List Visit) :
    Client.after bound (visit.entry path) (waiting.map (due path)) =
      (visit.onward bound ++ waiting).map (due path) := by
  rw [Client.after, onward, List.map_append, entry_below]
  show (if Client.descends bound visit.place.length then _ else _) = _
  split <;> simp

structure Wait (root : Outline) (bound : Option Nat) (waiting : List Visit) : Prop where
  leads : ∀ visit ∈ waiting, root.Leads visit.place (.directory visit.entries)
  within : ∀ visit ∈ waiting, visit.within bound = true

theorem Wait.next {root : Outline} {bound : Option Nat} {visit : Visit} {waiting : List Visit}
    (hwait : Wait root bound (visit :: waiting)) :
    Wait root bound (visit.onward bound ++ waiting) := by
  constructor
  · intro lower hlower
    rcases List.mem_append.mp hlower with honward | hwaiting
    · exact onward_leads (hwait.leads visit List.mem_cons_self) honward
    · exact hwait.leads lower (List.mem_cons_of_mem _ hwaiting)
  · intro lower hlower
    rcases List.mem_append.mp hlower with honward | hwaiting
    · exact within_onward honward
    · exact hwait.within lower (List.mem_cons_of_mem _ hwaiting)

end Visit

namespace Client

open Program

def told (path : String) (visits : List Visit) : List (Except ClientError WalkEntry) :=
  visits.map fun visit => .ok (visit.entry path)

/-- How a walk goes that is to make these visits: it makes them, or one of them is stopped and is
the last one, or the caller gives up meanwhile. -/
inductive Walked (path : String) (visits : List Visit) :
    List Round → Outcome (List (Except ClientError WalkEntry)) → Prop where
  | completed {rounds : List Round}
      (hrequests : rounds.map Round.request = visits.flatMap (Visit.requests path))
      (hpass : Pass rounds) : Walked path visits rounds (.finished (.ok (told path visits)))
  | stopped {before later : List Visit} {last : Visit} {first rest : List Round}
      {error : ClientError} (hvisits : visits = before ++ last :: later)
      (hrequests : first.map Round.request = before.flatMap (Visit.requests path))
      (hpass : Pass first)
      (hlast : Goes (last.requests path) (last.entry path) rest (.finished (.error error))) :
      Walked path visits (first ++ rest)
        (.finished (.ok (told path before ++ [.error error])))
  | abandoned {before later : List Visit} {last : Visit} {first rest : List Round}
      (hvisits : visits = before ++ last :: later)
      (hrequests : first.map Round.request = before.flatMap (Visit.requests path))
      (hpass : Pass first)
      (hlast : Goes (last.requests path) (last.entry path) rest .abandoned) :
      Walked path visits (first ++ rest) .abandoned

variable {path : String} {visits : List Visit} {visited : Visit} {rounds first rest : List Round}

def tellFirst (entry : WalkEntry) :
    Outcome (List (Except ClientError WalkEntry)) → Outcome (List (Except ClientError WalkEntry))
  | .finished (.ok rest) => .finished (.ok (.ok entry :: rest))
  | outcome => outcome

theorem Walked.cons {outcome : Outcome (List (Except ClientError WalkEntry))}
    (hrequests : first.map Round.request = visited.requests path) (hpass : Pass first)
    (hwalked : Walked path visits rest outcome) :
    Walked path (visited :: visits) (first ++ rest)
      (tellFirst (visited.entry path) outcome) := by
  have hmore : ∀ {earlier : List Round} {before : List Visit},
      earlier.map Round.request = before.flatMap (Visit.requests path) →
        (first ++ earlier).map Round.request =
          (visited :: before).flatMap (Visit.requests path) := by
    intro earlier before hearlier
    rw [List.map_append, hrequests, hearlier, List.flatMap_cons]
  cases hwalked with
  | completed hrest hpassed => exact .completed (hmore hrest) (pass_append.mpr ⟨hpass, hpassed⟩)
  | @stopped before later last earlier rest error hvisits hrest hpassed hlast =>
      have hwhole : visited :: visits = (visited :: before) ++ last :: later := by
        rw [hvisits, List.cons_append]
      have hstopped := Walked.stopped hwhole (hmore hrest) (pass_append.mpr ⟨hpass, hpassed⟩) hlast
      rwa [List.append_assoc] at hstopped
  | @abandoned before later last earlier rest hvisits hrest hpassed hlast =>
      have hwhole : visited :: visits = (visited :: before) ++ last :: later := by
        rw [hvisits, List.cons_append]
      have habandoned :=
        Walked.abandoned hwhole (hmore hrest) (pass_append.mpr ⟨hpass, hpassed⟩) hlast
      rwa [List.append_assoc] at habandoned

/-! ## The stream -/

theorem collect_cons (bound : Option Nat) (count : Nat) (directory : String) (depth : Nat)
    (pending : Pending) :
    collect (walkNext bound) (count + 1) ((directory, depth) :: pending) =
      (visit directory depth).andThen fun result =>
        match result with
        | .error error => done (.ok [.error error])
        | .ok entry => (collect (walkNext bound) count (after bound entry pending)).bind fun rest =>
            done (.ok (.ok entry :: rest)) := by
  show ((visit directory depth).andThen _).andThen _ = _
  rw [andThen_assoc]
  refine congrArg (visit directory depth).andThen (funext fun result => ?_)
  cases result <;> rfl

theorem makes_tellFirst {program : Program (List (Except ClientError WalkEntry))}
    {entry : WalkEntry} {outcome : Outcome (List (Except ClientError WalkEntry))}
    (hmakes : Makes (program.bind fun rest => done (.ok (.ok entry :: rest))) rounds outcome) :
    ∃ inner, Makes program rounds inner ∧ outcome = tellFirst entry inner := by
  cases hmakes.chained with
  | @both first rest result _ hprogram hrest =>
      rcases result with error | entries
      · cases hrest
        exact ⟨_, by rwa [List.append_nil], rfl⟩
      · cases hrest
        exact ⟨_, by rwa [List.append_nil], rfl⟩
  | abandoned hprogram => exact ⟨_, hprogram, rfl⟩
  | halted hprogram => exact ⟨_, hprogram, rfl⟩

/-- A walk visits the directories that wait, each with what is below it, one after another. -/
theorem collect_walked {root : Outline} {bound : Option Nat} {count : Nat} {waiting : List Visit}
    {outcome : Outcome (List (Except ClientError WalkEntry))}
    (hwait : Visit.Wait root bound waiting) (hagrees : ∀ round ∈ rounds, round.Agrees path root)
    (hmakes : Makes (collect (walkNext bound) count (waiting.map (Visit.due path))) rounds
      outcome) :
    Walked path ((Visit.remaining bound waiting).take count) rounds outcome := by
  induction count generalizing waiting rounds outcome with
  | zero =>
      cases hmakes
      exact .completed rfl (List.forall_mem_nil _)
  | succ count ih =>
      cases waiting with
      | nil =>
          cases hmakes
          exact .completed rfl (List.forall_mem_nil _)
      | cons visited waiting =>
          rw [Visit.remaining_cons (hwait.within visited List.mem_cons_self), List.take_succ_cons]
          rw [List.map_cons, Visit.due, collect_cons] at hmakes
          have hvisit : ∀ first outcome, first ⊆ rounds →
              Makes (visit (visited.path path) visited.place.length) first outcome →
                Goes (visited.requests path) (visited.entry path) first outcome :=
            fun _ _ hsubset => visit_goes (hwait.leads visited List.mem_cons_self)
              fun round hround => hagrees round (hsubset hround)
          have hnone : ([] : List Round).map Round.request =
              ([] : List Visit).flatMap (Visit.requests path) := rfl
          cases hmakes.chained with
          | @both first rest result _ hmade hrest =>
              cases hvisit _ _ (List.subset_append_left _ _) hmade with
              | completed hrequests hpass =>
                  obtain ⟨inner, hinner, rfl⟩ := makes_tellFirst hrest
                  rw [Visit.after_due] at hinner
                  exact .cons hrequests hpass (ih hwait.next
                    (fun round hround => hagrees round (List.mem_append_right _ hround)) hinner)
              | stopped hrounds hrequests hpass hstops =>
                  cases hrest
                  rw [List.append_nil]
                  exact .stopped (List.nil_append _).symm hnone (List.forall_mem_nil _)
                    (.stopped hrounds hrequests hpass hstops)
          | abandoned hmade =>
              exact .abandoned (List.nil_append _).symm hnone (List.forall_mem_nil _)
                (hvisit _ _ (List.Subset.refl _) hmade)
          | halted hmade => cases hvisit _ _ (List.Subset.refl _) hmade

end Client

/-- A walk of a directory on a device that has an outline there makes the visits of the outline in
pre-order, each directory that the names lead to once, for as long as it is asked to go on; a round
trip that fails ends it after the visits before. -/
theorem walk_preOrder {σ : Type} (device : Device σ) (session : Session σ) (path : String)
    (entries : Outlines) (count : Nat)
    (hagrees : ∀ round ∈ session.rounds device
        (Program.collect (Client.walkNext none) count (Client.walk path)),
      round.Agrees path (.directory entries)) :
    let root := Outline.directory entries
    let program := Program.collect (Client.walkNext none) count (Client.walk path)
    Client.Walked path ((root.preOrder []).take count) (session.rounds device program)
        (session.run device program).1 ∧
      (∀ visit, visit ∈ root.preOrder [] ↔
        root.Leads visit.place (.directory visit.entries)) ∧
      (root.Distinct → ((root.preOrder []).map Visit.place).Nodup) := by
  intro root program
  let start : Visit := ⟨[], entries⟩
  refine ⟨?_, fun visit => ?_, fun hdistinct => root.places_nodup hdistinct []⟩
  · have hvisits : Visit.remaining none [start] = root.preOrder [] := by
      rw [Visit.remaining, List.flatMap_singleton]
      exact List.filter_eq_self.mpr fun visit _ => rfl
    have hwait : Visit.Wait root none [start] := by
      constructor
      · intro visit hvisit
        rw [List.mem_singleton.mp hvisit]
        exact .here root
      · exact fun visit _ => rfl
    have hmakes : Program.Makes
        (Program.collect (Client.walkNext none) count ([start].map (Visit.due path)))
        (session.rounds device program) (session.run device program).1 :=
      session.run_makes device program
    rw [← hvisits]
    exact Client.collect_walked hwait hagrees hmakes
  · rw [Outline.mem_preOrder]
    simp

/-- A listing with names of no child, a directory, something that is gone by now, something without
a kind, and a link. -/
def Outlines.mixed : Outlines :=
  .cons "." .absent <| .cons ".." .absent <| .cons "" .absent <|
    .cons "d" (.directory (.cons "f" .file .nil)) <| .cons "gone" .absent <|
    .cons "plain" .untyped <| .cons "link" .file .nil

theorem Outlines.mixed_leads {place : Place} {outline : Outline}
    (hleads : (Outline.directory mixed).Leads place outline) :
    (place, outline) ∈ [([], .directory mixed), (["d"], .directory (.cons "f" .file .nil)),
      (["d", "f"], .file), (["gone"], .absent), (["plain"], .untyped), (["link"], .file)] := by
  have hchildren : mixed.children = [("d", .directory (.cons "f" .file .nil)), ("gone", .absent),
    ("plain", .untyped), ("link", .file)] := rfl
  have hbelow : (cons "f" .file .nil).children = [("f", .file)] := rfl
  cases hleads with
  | here => exact List.mem_cons_self
  | down hchild hrest =>
      rw [hchildren] at hchild
      simp only [List.mem_cons, Prod.mk.injEq, List.not_mem_nil, or_false] at hchild
      rcases hchild with ⟨rfl, rfl⟩ | ⟨rfl, rfl⟩ | ⟨rfl, rfl⟩ | ⟨rfl, rfl⟩
      · cases hrest with
        | here => simp
        | down hchild hrest =>
            rw [hbelow, List.mem_singleton] at hchild
            cases hchild
            cases hrest
            simp
      all_goals
        cases hrest
        simp

namespace Script

def holdsMixed : Session Script :=
  .fresh {} ⟨[strings [".", "..", "", "d", "gone", "plain", "link"], kind "S_IFDIR", code 8,
    strings ["st_size", "3"], kind "S_IFLNK", strings ["f"], kind "S_IFREG"], 0, none, none, false⟩
    (.empty "host") []

theorem holdsMixed_rounds :
    holdsMixed.rounds device (Program.collect (Client.walkNext none) 3 (Client.walk "/")) =
      [⟨.readDirectory "/", some (.ok [".", "..", "", "d", "gone", "plain", "link"])⟩,
        ⟨.fileInfo "/d", some (.ok ⟨[("st_ifmt", "S_IFDIR")]⟩)⟩,
        ⟨.fileInfo "/gone", some (.error (.reply (.status .objectNotFound)))⟩,
        ⟨.fileInfo "/plain", some (.ok ⟨[("st_size", "3")]⟩)⟩,
        ⟨.fileInfo "/link", some (.ok ⟨[("st_ifmt", "S_IFLNK")]⟩)⟩,
        ⟨.readDirectory "/d", some (.ok ["f"])⟩,
        ⟨.fileInfo "/d/f", some (.ok ⟨[("st_ifmt", "S_IFREG")]⟩)⟩] := by
  cbv

theorem holdsMixed_tells : ∀ round ∈ holdsMixed.rounds device
      (Program.collect (Client.walkNext none) 3 (Client.walk "/")),
    round.Tells "/" (.directory .mixed) := by
  intro round hround
  rw [holdsMixed_rounds] at hround
  constructor
  · intro place entries answer hleads heq
    have hplace := Outlines.mixed_leads hleads
    subst heq
    simp only [List.mem_cons, Prod.mk.injEq, List.not_mem_nil, or_false, reduceCtorEq,
      and_false] at hplace
    rcases hplace with ⟨rfl, hentries⟩ | ⟨rfl, hentries⟩
    all_goals
      cases hentries
      simp [RemotePath.below, RemotePath.join] at hround
      exact hround
  · intro place outline answer hleads heq
    have hplace := Outlines.mixed_leads hleads
    subst heq
    simp only [List.mem_cons, Prod.mk.injEq, List.not_mem_nil, or_false] at hplace
    rcases hplace with ⟨rfl, rfl⟩ | ⟨rfl, rfl⟩ | ⟨rfl, rfl⟩ | ⟨rfl, rfl⟩ | ⟨rfl, rfl⟩ | ⟨rfl, rfl⟩
    all_goals simp [RemotePath.below, RemotePath.join] at hround
    all_goals
      subst hround
      refine ⟨_, rfl, ?_⟩
    · exact .directory (show Description.directory.info.kind = some .directory from rfl)
    · exact .file (show Description.file.info.kind = some .regular from rfl) (by decide)
    · exact .absent (.inr rfl)
    · let plain : Description := ⟨⟨[("st_size", "3")]⟩, _, rfl⟩
      exact .untyped (show plain.info.kind = none from rfl)
    · let link : Description := ⟨⟨[("st_ifmt", "S_IFLNK")]⟩, _, rfl⟩
      exact .file (show link.info.kind = some .symlink from rfl) (by decide)

theorem holdsMixed_agrees : ∀ round ∈ holdsMixed.rounds device
      (Program.collect (Client.walkNext none) 3 (Client.walk "/")),
    round.Agrees "/" (.directory .mixed) :=
  fun round hround => (holdsMixed_tells round hround).agrees

end Script

/-- The walk tells of both directories; what names no child, is gone or has no kind is left out. -/
theorem walk_preOrder_mixed :
    let program := Program.collect (Client.walkNext none) 3 (Client.walk "/")
    Client.Walked "/" [⟨[], .mixed⟩, ⟨["d"], .cons "f" .file .nil⟩]
        (Script.holdsMixed.rounds Script.device program)
        (Script.holdsMixed.run Script.device program).1 ∧
      (Script.holdsMixed.run Script.device program).1 =
        .finished (.ok [.ok ⟨"/", ["d"], ["link"], 0⟩, .ok ⟨"/d", [], ["f"], 1⟩]) := by
  constructor
  · exact (walk_preOrder Script.device Script.holdsMixed "/" .mixed 3 Script.holdsMixed_agrees).1
  · cbv

end FileConduit

import FileConduit.Proofs.Client.Walk.Visits
import FileConduit.Proofs.Device.Reading

/-!
# Listings

A listing gives the root and then what is found in each directory that a walk visits.  How deep it
goes is decided at each directory, by not going into those in it, and by not walking at all for no
levels; what comes out is the whole listing without what lies deeper.
-/

namespace FileConduit

namespace Visit

/-- The places of what a walk finds in a directory: the directories, and then everything else. -/
def finds (visit : Visit) : List Place :=
  (visit.entries.directories ++ visit.entries.files).map fun name => visit.place ++ [name]

theorem entry_paths (root : String) (visit : Visit) :
    (visit.entry root).paths = visit.finds.map (RemotePath.below root) := by
  rw [finds, List.map_map]
  refine List.map_congr_left fun name _ => ?_
  exact (RemotePath.below_concat root visit.place name).symm

theorem length_finds {visit : Visit} {place : Place} (hplace : place ∈ visit.finds) :
    place.length = visit.place.length + 1 := by
  obtain ⟨name, -, rfl⟩ := List.mem_map.mp hplace
  simp

theorem mem_finds {visit : Visit} {place : Place} :
    place ∈ visit.finds ↔ ∃ name child, (name, child) ∈ visit.entries.children ∧
      place = visit.place ++ [name] ∧ (child.isDirectory = true ∨ child.isFile = true) := by
  simp only [finds, Outlines.directories, Outlines.files, List.mem_map, List.mem_append,
    List.mem_filter, Prod.exists]
  constructor
  · rintro ⟨name, ⟨first, child, ⟨hchild, hkind⟩, rfl⟩ | ⟨first, child, ⟨hchild, hkind⟩, rfl⟩, rfl⟩
    · exact ⟨first, child, hchild, rfl, .inl hkind⟩
    · exact ⟨first, child, hchild, rfl, .inr hkind⟩
  · rintro ⟨name, child, hchild, rfl, hkind | hkind⟩
    · exact ⟨name, .inl ⟨name, child, ⟨hchild, hkind⟩, rfl⟩, rfl⟩
    · exact ⟨name, .inr ⟨name, child, ⟨hchild, hkind⟩, rfl⟩, rfl⟩

/-- Where nothing is found, there is nothing to go into. -/
theorem onward_of_finds_nil {visit : Visit} (hfinds : visit.finds = []) (bound : Option Nat) :
    visit.onward bound = [] := by
  refine List.eq_nil_iff_forall_not_mem.mpr fun lower hlower => ?_
  unfold onward at hlower
  split at hlower
  · obtain ⟨name, hchild, hplace⟩ := mem_below.mp hlower
    have hfound : lower.place ∈ visit.finds := mem_finds.mpr ⟨name, _, hchild, hplace, .inl rfl⟩
    rw [hfinds] at hfound
    cases hfound
  · cases hlower

end Visit

/-! ## The listing of an outline -/

namespace Outline

/-- What is not the root of an outline is a child of a directory in it. -/
theorem Leads.parent {root found : Outline} {place : Place} (hleads : root.Leads place found)
    (hplace : place ≠ []) :
    ∃ above name entries, place = above ++ [name] ∧ root.Leads above (.directory entries) ∧
      (name, found) ∈ entries.children := by
  induction hleads with
  | here => exact absurd rfl hplace
  | @down entries name place child found hchild hrest ih =>
      by_cases hlast : place = []
      · subst hlast
        cases hrest
        exact ⟨[], name, entries, rfl, .here _, hchild⟩
      · obtain ⟨above, last, below, rfl, habove, hmember⟩ := ih hlast
        exact ⟨name :: above, last, below, rfl, .down hchild habove, hmember⟩

/-- What is listed: the root, and what is found in each directory, in pre-order. -/
def listing (root : Outline) : List Place :=
  [] :: (root.preOrder []).flatMap Visit.finds

theorem mem_listing {root : Outline} {place : Place} :
    place ∈ root.listing ↔ place = [] ∨
      ∃ found, root.Leads place found ∧ (found.isDirectory = true ∨ found.isFile = true) := by
  simp only [listing, List.mem_cons, List.mem_flatMap, Visit.mem_finds]
  constructor
  · rintro (rfl | ⟨visit, hvisit, name, child, hchild, rfl, hkind⟩)
    · exact .inl rfl
    · obtain ⟨below, hbelow, hleads⟩ := (mem_preOrder _ _ _).mp hvisit
      rw [List.nil_append] at hbelow
      rw [hbelow]
      exact .inr ⟨child, hleads.child hchild, hkind⟩
  · rintro (rfl | ⟨found, hleads, hkind⟩)
    · exact .inl rfl
    · by_cases hplace : place = []
      · exact .inl hplace
      · obtain ⟨above, name, entries, rfl, habove, hchild⟩ := hleads.parent hplace
        have hvisit : ⟨above, entries⟩ ∈ root.preOrder [] :=
          (mem_preOrder _ _ _).mpr ⟨above, rfl, habove⟩
        exact .inr ⟨_, hvisit, name, found, hchild, rfl, hkind⟩

/-- What does not lie too deep is found in the directories above it. -/
theorem filter_finds (bound : Nat) (visits : List Visit) :
    (visits.flatMap Visit.finds).filter (fun place => place.length ≤ bound) =
      (visits.filter (Visit.within (some bound))).flatMap Visit.finds := by
  induction visits with
  | nil => rfl
  | cons visit visits ih =>
      have hall : ∀ place ∈ visit.finds,
          decide (place.length ≤ bound) = visit.within (some bound) := by
        intro place hplace
        rw [visit.length_finds hplace]
        rfl
      rw [List.flatMap_cons, List.filter_append, ih, List.filter_congr hall]
      cases hwithin : visit.within (some bound) with
      | true => simp [hwithin]
      | false => simp [hwithin]

theorem filter_listing (root : Outline) (bound : Nat) :
    root.listing.filter (fun place => place.length ≤ bound) =
      [] :: ((root.preOrder []).filter (Visit.within (some bound))).flatMap Visit.finds := by
  rw [listing, List.filter_cons_of_pos (by simp), filter_finds]

/-- What is found in one directory differs. -/
theorem finds_nodup {visit : Visit} (hnames : (visit.entries.children.map Prod.fst).Nodup) :
    visit.finds.Nodup := by
  refine List.Nodup.map (fun first second hsame => ?_) (List.Nodup.append ?_ ?_ ?_)
  · simpa using hsame
  · exact hnames.sublist (List.filter_sublist.map _)
  · exact hnames.sublist (List.filter_sublist.map _)
  · intro name hdirectory hfile
    obtain ⟨⟨_, first⟩, hfirst, rfl⟩ := List.mem_map.mp hdirectory
    obtain ⟨⟨_, second⟩, hsecond, hname⟩ := List.mem_map.mp hfile
    obtain ⟨hfirst, hdirectory⟩ := List.mem_filter.mp hfirst
    obtain ⟨hsecond, hfile⟩ := List.mem_filter.mp hsecond
    have hsame := List.inj_on_of_nodup_map hnames hfirst hsecond hname.symm
    cases hsame
    cases first <;> simp_all [isDirectory, isFile]

theorem listing_nodup {root : Outline} (hdistinct : root.Distinct) : root.listing.Nodup := by
  refine List.nodup_cons.mpr ⟨fun hroot => ?_, List.nodup_flatMap.mpr ⟨fun visit hvisit => ?_, ?_⟩⟩
  · obtain ⟨visit, -, hfound⟩ := List.mem_flatMap.mp hroot
    have hlength := Visit.length_finds hfound
    cases hlength
  · obtain ⟨place, hplace, hleads⟩ := (mem_preOrder _ _ _).mp hvisit
    exact finds_nodup (hdistinct _ _ hleads)
  · -- What is found in different directories is below different places.
    have hplaces := List.pairwise_map.mp (root.places_nodup hdistinct [])
    refine hplaces.imp fun hdiffers => fun place hfirst hsecond => hdiffers ?_
    obtain ⟨first, -, rfl⟩ := List.mem_map.mp hfirst
    obtain ⟨second, -, hsame⟩ := List.mem_map.mp hsecond
    exact (List.append_inj' hsame rfl).1.symm

/-! ## Paths -/

/-- Whether the children of every directory have names that can stand there. -/
def Named (root : Outline) : Prop :=
  ∀ place entries, root.Leads place (.directory entries) →
    ∀ child ∈ entries.children, ChildName child.1

theorem Named.places {root found : Outline} {place : Place} (hnamed : root.Named)
    (hleads : root.Leads place found) : ∀ name ∈ place, ChildName name := by
  induction hleads with
  | here => exact List.forall_mem_nil _
  | @down entries name place child found hchild hrest ih =>
      refine List.forall_mem_cons.mpr ⟨hnamed [] entries (.here _) _ hchild, ih ?_⟩
      exact fun above below hbelow => hnamed (name :: above) below (.down hchild hbelow)

/-- Different places that such names lead to have different paths. -/
theorem paths_nodup {root : Outline} (hdistinct : root.Distinct) (hnamed : root.Named)
    (path : String) : (root.listing.map (RemotePath.below path)).Nodup := by
  have hread : ∀ place : Place, (∀ name ∈ place, ChildName name) → ∀ path base,
      PathReading.plain.locate path = some base →
        PathReading.plain.locate (RemotePath.below path place) = some (base ++ place) := by
    intro place
    induction place with
    | nil =>
        intro _ path base hpath
        rw [List.append_nil]
        exact hpath
    | cons name place ih =>
        intro hnames path base hpath
        rw [List.forall_mem_cons] at hnames
        have hbelow := ih hnames.2 _ _ (PathReading.plain.locate_join hpath hnames.1)
        rwa [List.append_assoc] at hbelow
  have hnames : ∀ place ∈ root.listing, ∀ name ∈ place, ChildName name := by
    intro place hplace
    rcases mem_listing.mp hplace with rfl | ⟨found, hleads, -⟩
    · exact List.forall_mem_nil _
    · exact hnamed.places hleads
  refine (listing_nodup hdistinct).map_on fun first hfirst second hsecond hsame => ?_
  have hone := hread first (hnames first hfirst) path _ rfl
  rw [hsame, hread second (hnames second hsecond) path _ rfl, Option.some.injEq] at hone
  exact (List.append_cancel_left hone).symm

end Outline

/-! ## Devices that tell what an outline has -/

/-- No request of a visit fails. -/
theorem Round.Tells.succeeds {path : String} {root : Outline} {round : Round} {visit : Visit}
    (htells : round.Tells path root) (hleads : root.Leads visit.place (.directory visit.entries))
    (hrequest : round.request ∈ visit.requests path) :
    round.answer ≠ none ∧ ∀ error, ¬Client.Stops round error := by
  obtain ⟨request, answer⟩ := round
  rcases List.mem_cons.mp hrequest with rfl | hlook
  · cases htells.listing visit.place visit.entries answer hleads rfl
    exact ⟨by simp, fun error hstops => by cases hstops⟩
  · obtain ⟨⟨name, child⟩, hchild, rfl⟩ := List.mem_map.mp hlook
    obtain ⟨told, rfl, hanswered⟩ := htells.look (visit.place ++ [name]) child answer
      (hleads.child hchild) (by rw [RemotePath.below_concat]; rfl)
    refine ⟨by simp, fun error hstops => ?_⟩
    cases hstops with
    | look hsight => exact hanswered.not_failed error hsight

namespace Program

/-- A program that comes to a result is followed by the next one. -/
theorem Makes.of_andThen {α β : Type} {program : Program α}
    {next : Except ClientError α → Program β} {rounds : List Round} {outcome : Outcome β}
    (hmakes : Makes (program.andThen next) rounds outcome)
    (hends : ∀ first ending, first ⊆ rounds → Makes program first ending →
      ∃ result, ending = .finished result) :
    ∃ first rest result, rounds = first ++ rest ∧ Makes program first (.finished result) ∧
      Makes (next result) rest outcome := by
  cases hmakes.chained with
  | both hfirst hrest => exact ⟨_, _, _, rfl, hfirst, hrest⟩
  | abandoned hfirst =>
      obtain ⟨result, hresult⟩ := hends _ _ (List.Subset.refl _) hfirst
      cases hresult
  | halted hfirst =>
      obtain ⟨result, hresult⟩ := hends _ _ (List.Subset.refl _) hfirst
      cases hresult

end Program

namespace Client

open Program

variable {path : String} {root : Outline} {rounds : List Round}

/-- What makes the requests of a visit, and is told everything, makes them all and comes to its
value. -/
theorem Goes.told {α : Type} {value : α} {visit : Visit} {outcome : Outcome α}
    (hgoes : Goes (visit.requests path) value rounds outcome)
    (hleads : root.Leads visit.place (.directory visit.entries))
    (htells : ∀ round ∈ rounds, round.Tells path root) :
    rounds.map Round.request = visit.requests path ∧ outcome = .finished (.ok value) := by
  have hsucceeds : ∀ {earlier : List Round} {last : Round}, earlier ++ [last] = rounds →
      rounds.map Round.request <+: visit.requests path →
        last.answer ≠ none ∧ ∀ error, ¬Stops last error := by
    intro earlier last hrounds hrequests
    have hlast : last ∈ rounds := by simp [← hrounds]
    exact (htells last hlast).succeeds hleads (hrequests.subset (List.mem_map_of_mem hlast))
  cases hgoes with
  | completed hrequests hpass => exact ⟨hrequests, rfl⟩
  | stopped hrounds hrequests hpass hstops =>
      exact absurd hstops ((hsucceeds hrounds hrequests).2 _)
  | abandoned hrounds hrequests hpass hanswer =>
      exact absurd hanswer (hsucceeds hrounds hrequests).1

theorem visit_told {visit : Visit} {outcome : Outcome WalkEntry}
    (hleads : root.Leads visit.place (.directory visit.entries))
    (htells : ∀ round ∈ rounds, round.Tells path root)
    (hmakes : Makes (Client.visit (visit.path path) visit.place.length) rounds outcome) :
    rounds.map Round.request = visit.requests path ∧
      outcome = .finished (.ok (visit.entry path)) :=
  (visit_goes hleads (fun round hround => (htells round hround).agrees) hmakes).told hleads htells

theorem Walked.told {visits : List Visit}
    {outcome : Outcome (List (Except ClientError WalkEntry))}
    (hwalked : Walked path visits rounds outcome)
    (hleads : ∀ visit ∈ visits, root.Leads visit.place (.directory visit.entries))
    (htells : ∀ round ∈ rounds, round.Tells path root) :
    outcome = .finished (.ok (Client.told path visits)) := by
  cases hwalked with
  | completed hrequests hpass => rfl
  | stopped hvisits hrequests hpass hlast =>
      have hended := (hlast.told (hleads _ (by simp [hvisits]))
        fun round hround => htells round (List.mem_append_right _ hround)).2
      cases hended
  | abandoned hvisits hrequests hpass hlast =>
      have hended := (hlast.told (hleads _ (by simp [hvisits]))
        fun round hround => htells round (List.mem_append_right _ hround)).2
      cases hended

def given (path : String) (places : List Place) : List (Except ClientError String) :=
  places.map fun place => .ok (RemotePath.below path place)

def listingAt (path : String) (ready : List Place) (waiting : List Visit) : Listing where
  ready := ready.map (RemotePath.below path)
  pending := waiting.map (Visit.due path)

inductive Gives (path : String) :
    List Place → List Visit → Outcome (Option (String × Listing)) → Prop where
  | ended : Gives path [] [] (.finished (.ok none))
  | found (place : Place) (ready : List Place) (later : List Visit) :
      Gives path (place :: ready) later
        (.finished (.ok (some (RemotePath.below path place, listingAt path ready later))))

theorem Gives.finished {places : List Place} {later : List Visit}
    {outcome : Outcome (Option (String × Listing))} (hgives : Gives path places later outcome) :
    ∃ result, outcome = .finished result := by
  cases hgives <;> exact ⟨_, rfl⟩

variable {bound : Option Nat} {waiting : List Visit} {ready : List Place}

/-- When nothing is ready, a listing visits directories up to the first in which something is
found, or all of them. -/
theorem listPending_told {outcome : Outcome (Option (String × Listing))}
    (hwait : Visit.Wait root bound waiting) (htells : ∀ round ∈ rounds, round.Tells path root)
    (hmakes : Makes (listPending bound (waiting.map (Visit.due path))) rounds outcome) :
    ∃ visits later, Visit.remaining bound waiting = visits ++ Visit.remaining bound later ∧
      Visit.Wait root bound later ∧
      rounds.map Round.request = visits.flatMap (Visit.requests path) ∧
      Gives path (visits.flatMap Visit.finds) later outcome := by
  induction waiting generalizing rounds with
  | nil =>
      cases hmakes
      exact ⟨[], [], rfl, hwait, rfl, .ended⟩
  | cons visit waiting ih =>
      have hleads := hwait.leads visit List.mem_cons_self
      have hvisit : ∀ first ending, first ⊆ rounds →
          Makes (Client.visit (visit.path path) visit.place.length) first ending →
            first.map Round.request = visit.requests path ∧
              ending = .finished (.ok (visit.entry path)) :=
        fun first ending hfirst =>
          visit_told hleads fun round hround => htells round (hfirst hround)
      obtain ⟨first, rest, result, rfl, hfirst, hrest⟩ := Makes.of_andThen hmakes
        fun first ending hsubset hmade => ⟨_, (hvisit first ending hsubset hmade).2⟩
      obtain ⟨hrequests, hresult⟩ := hvisit _ _ (List.subset_append_left _ _) hfirst
      cases hresult
      have hremaining : Visit.remaining bound (visit :: waiting) = _ :=
        Visit.remaining_cons (hwait.within visit List.mem_cons_self)
      dsimp only at hrest
      rw [Visit.entry_paths] at hrest
      cases hfinds : visit.finds with
      | nil =>
          have honward := visit.onward_of_finds_nil hfinds bound
          rw [honward, List.nil_append] at hremaining
          have hlater : Visit.Wait root bound waiting := by
            have hnext := hwait.next
            rwa [honward, List.nil_append] at hnext
          rw [hfinds] at hrest
          obtain ⟨visits, later, hall, hwaiting, hmade, hgives⟩ := ih hlater
            (fun round hround => htells round (List.mem_append_right _ hround)) hrest
          refine ⟨visit :: visits, later, ?_, hwaiting, ?_, ?_⟩
          · rw [hremaining, hall, List.cons_append]
          · rw [List.map_append, hrequests, hmade, List.flatMap_cons]
          · rwa [List.flatMap_cons, hfinds, List.nil_append]
      | cons place ready =>
          rw [hfinds, List.map_cons, Visit.after_due] at hrest
          cases hrest
          refine ⟨[visit], visit.onward bound ++ waiting, hremaining, hwait.next, ?_, ?_⟩
          · rw [List.append_nil, hrequests, List.flatMap_singleton]
          · rw [List.flatMap_singleton, hfinds]
            exact .found place ready _

/-- A listing gives what is ready, before it goes on with the walk. -/
theorem listNext_told {outcome : Outcome (Option (String × Listing))}
    (hwait : Visit.Wait root bound waiting) (htells : ∀ round ∈ rounds, round.Tells path root)
    (hmakes : Makes (listNext bound (listingAt path ready waiting)) rounds outcome) :
    ∃ visits later, Visit.remaining bound waiting = visits ++ Visit.remaining bound later ∧
      Visit.Wait root bound later ∧
      rounds.map Round.request = visits.flatMap (Visit.requests path) ∧
      Gives path (ready ++ visits.flatMap Visit.finds) later outcome := by
  cases ready with
  | nil => exact listPending_told hwait htells hmakes
  | cons place ready =>
      cases hmakes
      refine ⟨[], waiting, rfl, hwait, rfl, ?_⟩
      rw [List.flatMap_nil, List.append_nil]
      exact .found place ready waiting

/-- A listing gives what is ready and what is found in the directories that are still to be
visited, and visits no more of them than it needs to. -/
theorem collect_told {count : Nat} {outcome : Outcome (List (Except ClientError String))}
    (hwait : Visit.Wait root bound waiting) (htells : ∀ round ∈ rounds, round.Tells path root)
    (hmakes : Makes (collect (listNext bound) count (listingAt path ready waiting)) rounds
      outcome) :
    let remaining := Visit.remaining bound waiting
    let found := ready ++ remaining.flatMap Visit.finds
    outcome = .finished (.ok (given path (found.take count))) ∧
      ∃ visits, visits <+: remaining ∧
        rounds.map Round.request = visits.flatMap (Visit.requests path) := by
  induction count generalizing ready waiting rounds outcome with
  | zero =>
      cases hmakes
      exact ⟨rfl, [], List.nil_prefix, rfl⟩
  | succ count ih =>
      intro remaining found
      rw [collect] at hmakes
      have hstep : ∀ first ending, first ⊆ rounds →
          Makes (listNext bound (listingAt path ready waiting)) first ending → _ :=
        fun first ending hsubset =>
          listNext_told hwait fun round hround => htells round (hsubset hround)
      obtain ⟨first, rest, result, rfl, hfirst, hrest⟩ := Makes.of_andThen hmakes
        fun first ending hsubset hmade => by
          obtain ⟨_, _, _, _, _, hgives⟩ := hstep first ending hsubset hmade
          exact hgives.finished
      obtain ⟨visits, later, hall, hlater, hrequests, hgives⟩ :=
        hstep _ _ (List.subset_append_left _ _) hfirst
      have hfound : found =
          ready ++ visits.flatMap Visit.finds ++
            (Visit.remaining bound later).flatMap Visit.finds := by
        show ready ++ remaining.flatMap Visit.finds = _
        rw [show remaining = _ from hall, List.flatMap_append, List.append_assoc]
      rw [hfound, show remaining = _ from hall]
      generalize ready ++ visits.flatMap Visit.finds = places at hgives
      cases hgives with
      | ended =>
          cases hrest
          rw [List.append_nil]
          exact ⟨rfl, visits, List.prefix_append _ _, hrequests⟩
      | found place next =>
          have hlast : ∀ inner ending, inner ⊆ rest →
              Makes (collect (listNext bound) count (listingAt path next later)) inner ending →
                _ :=
            fun inner ending hsubset => ih hlater
              fun round hround => htells round (List.mem_append_right _ (hsubset hround))
          obtain ⟨inner, last, result, rfl, hinner, hended⟩ := Makes.of_andThen hrest
            fun inner ending hsubset hmade => ⟨_, (hlast inner ending hsubset hmade).1⟩
          obtain ⟨hresult, further, hfront, hmade⟩ :=
            hlast _ _ (List.subset_append_left _ _) hinner
          cases hresult
          cases hended
          rw [List.append_nil]
          refine ⟨rfl, visits ++ further, ?_, ?_⟩
          · exact (List.prefix_append_right_inj visits).mpr hfront
          · rw [List.map_append, hrequests, hmade, List.flatMap_append]

def listingRoots (entries : Outlines) (bound : Option Nat) : List Visit :=
  if bound = some 0 then [] else [⟨[], entries⟩]

theorem list_eq (path : String) (entries : Outlines) (bound : Option Nat) :
    list path bound = listingAt path [[]] (listingRoots entries bound) := by
  unfold list listingAt listingRoots
  split <;> rfl

theorem listingRoots_wait (entries : Outlines) (bound : Option Nat) :
    Visit.Wait (.directory entries) bound (listingRoots entries bound) := by
  unfold listingRoots
  split
  · exact ⟨List.forall_mem_nil _, List.forall_mem_nil _⟩
  · rename_i hsome
    refine ⟨List.forall_mem_singleton.mpr (.here _), List.forall_mem_singleton.mpr ?_⟩
    cases bound with
    | none => rfl
    | some bound =>
        have hpos : 0 < bound := Nat.pos_of_ne_zero fun hzero => hsome (by rw [hzero])
        simpa [Visit.within] using hpos

theorem remaining_listingRoots (entries : Outlines) (bound : Option Nat) :
    Visit.remaining bound (listingRoots entries bound) =
      ((Outline.directory entries).preOrder []).filter (Visit.within bound) := by
  unfold listingRoots
  split
  · rename_i hzero
    -- Nothing lies above the root.
    rw [hzero, List.filter_eq_nil_iff.mpr fun visit _ => by simp [Visit.within]]
    rfl
  · rw [Visit.remaining, List.flatMap_singleton]
    rfl

def listFirst (count : Nat) (path : String) (bound : Option Nat) :
    Program (List (Except ClientError String)) :=
  collect (listNext bound) count (list path bound)

def walkFirst (count : Nat) (path : String) : Program (List (Except ClientError WalkEntry)) :=
  collect (walkNext none) count (walk path)

end Client

namespace Session

variable {σ : Type} (device : Device σ) (path : String) (root : Outline)

def Told (program : Program α) (session : Session σ) : Prop :=
  ∀ round ∈ session.rounds device program, round.Tells path root

end Session

section

variable {σ : Type} {device : Device σ} {session : Session σ} {path : String} {entries : Outlines}
  {bound : Option Nat} {count : Nat}

/-- What a listing gives, and the visits that it makes for it. -/
theorem Session.Told.listed
    (htold : session.Told device path (.directory entries) (Client.listFirst count path bound)) :
    let visits := ((Outline.directory entries).preOrder []).filter (Visit.within bound)
    (session.run device (Client.listFirst count path bound)).1 =
        .finished (.ok (Client.given path (([] :: visits.flatMap Visit.finds).take count))) ∧
      ∃ made, made <+: visits ∧
        (session.rounds device (Client.listFirst count path bound)).map Round.request =
          made.flatMap (Visit.requests path) := by
  intro visits
  have hprogram : Client.listFirst count path bound =
      Program.collect (Client.listNext bound) count
        (Client.listingAt path [[]] (Client.listingRoots entries bound)) := by
    rw [Client.listFirst, Client.list_eq path entries bound]
  have hvisits : Visit.remaining bound (Client.listingRoots entries bound) = visits :=
    Client.remaining_listingRoots entries bound
  rw [hprogram] at htold ⊢
  rw [← hvisits]
  exact Client.collect_told (Client.listingRoots_wait entries bound) htold
    (session.run_makes device _)

/-- What a walk of everything tells. -/
theorem Session.Told.walked
    (htold : session.Told device path (.directory entries) (Client.walkFirst count path)) :
    (session.run device (Client.walkFirst count path)).1 =
      .finished
        (.ok (Client.told path (((Outline.directory entries).preOrder []).take count))) := by
  have hmakes : Program.Makes (Program.collect (Client.walkNext none) count
      ((Client.listingRoots entries none).map (Visit.due path)))
      (session.rounds device (Client.walkFirst count path))
      (session.run device (Client.walkFirst count path)).1 :=
    session.run_makes device (Client.walkFirst count path)
  have hwalked := Client.collect_walked (Client.listingRoots_wait entries none)
    (fun round hround => (htold round hround).agrees) hmakes
  have hvisits : Visit.remaining none (Client.listingRoots entries none) =
      (Outline.directory entries).preOrder [] := by
    rw [Client.remaining_listingRoots]
    exact List.filter_eq_self.mpr fun visit _ => rfl
  rw [hvisits] at hwalked
  refine hwalked.told (fun visit hvisit => ?_) htold
  obtain ⟨place, hplace, hleads⟩ :=
    (Outline.mem_preOrder _ _ _).mp (List.mem_of_mem_take hvisit)
  rw [hplace]
  exact hleads

end

/-- On devices that tell what an outline has, a listing of so many levels gives exactly what a
listing without a bound gives at most so many levels below the root, in the same order; it lists
only directories above the last level.  A listing without a bound gives the root and then, for each
directory that a walk tells of, the directories and the files in it: all that the names lead to and
that has a kind, once each. -/
theorem listing_bounded {σ : Type} (device : Device σ) (unbounded bounded walking : Session σ)
    (path : String) (entries : Outlines) (levels count : Nat)
    (hunbounded : unbounded.Told device path (.directory entries)
      (Client.listFirst count path none))
    (hbounded : bounded.Told device path (.directory entries)
      (Client.listFirst count path (some levels)))
    (hwalking : walking.Told device path (.directory entries) (Client.walkFirst count path)) :
    let root := Outline.directory entries
    let requests :=
      (bounded.rounds device (Client.listFirst count path (some levels))).map Round.request
    (unbounded.run device (Client.listFirst count path none)).1 =
      .finished (.ok (Client.given path (root.listing.take count))) ∧
    (bounded.run device (Client.listFirst count path (some levels))).1 =
      .finished (.ok (Client.given path
        ((root.listing.filter fun place => place.length ≤ levels).take count))) ∧
    (∃ visits, visits <+: (root.preOrder []).filter (fun visit => visit.place.length < levels) ∧
      requests = visits.flatMap (Visit.requests path)) ∧
    (∀ directory, .readDirectory directory ∈ requests → ∃ visit ∈ root.preOrder [],
      visit.place.length < levels ∧ visit.path path = directory) ∧
    (levels = 0 → requests = [] ∧
      (bounded.run device (Client.listFirst count path (some levels))).1 =
        .finished (.ok ([.ok path].take count))) ∧
    (∃ told : List Client.WalkEntry,
      (walking.run device (Client.walkFirst count path)).1 =
        .finished (.ok ((told.take count).map .ok)) ∧
      root.listing.map (RemotePath.below path) = path :: told.flatMap Client.WalkEntry.paths) ∧
    (∀ place, place ∈ root.listing ↔ place = [] ∨
      ∃ found, root.Leads place found ∧ (found.isDirectory = true ∨ found.isFile = true)) ∧
    (root.Distinct → root.listing.Nodup ∧
      (root.Named → (root.listing.map (RemotePath.below path)).Nodup)) := by
  intro root requests
  obtain ⟨hall, -⟩ := hunbounded.listed
  obtain ⟨hsome, made, hfront, hrequests⟩ := hbounded.listed
  have hvisits : (root.preOrder []).filter (Visit.within none) = root.preOrder [] :=
    List.filter_eq_self.mpr fun visit _ => rfl
  have hmade : requests = made.flatMap (Visit.requests path) := hrequests
  rw [← root.filter_listing levels] at hsome
  refine ⟨?_, hsome, ⟨made, hfront, hmade⟩, fun directory hdirectory => ?_, fun hzero => ?_,
    ⟨(root.preOrder []).map (Visit.entry path), ?_, ?_⟩, fun place => root.mem_listing,
    fun hdistinct => ⟨root.listing_nodup hdistinct, fun hnamed =>
      root.paths_nodup hdistinct hnamed path⟩⟩
  · rw [hall, hvisits]
    rfl
  · rw [hmade] at hdirectory
    obtain ⟨visit, hvisit, hrequest⟩ := List.mem_flatMap.mp hdirectory
    obtain ⟨hfound, hlevel⟩ := List.mem_filter.mp (hfront.subset hvisit)
    refine ⟨visit, hfound, by simpa [Visit.within] using hlevel, ?_⟩
    rcases List.mem_cons.mp hrequest with hlisting | hlook
    · exact (Request.readDirectory.inj hlisting).symm
    · obtain ⟨child, -, hchild⟩ := List.mem_map.mp hlook
      cases hchild
  · subst hzero
    have hnone : (root.preOrder []).filter (Visit.within (some 0)) = [] :=
      List.filter_eq_nil_iff.mpr fun visit _ => by simp [Visit.within]
    have hempty : made <+: [] := by
      rw [← hnone]
      exact hfront
    refine ⟨?_, ?_⟩
    · rw [hmade, List.prefix_nil.mp hempty]
      rfl
    · rw [hsome, root.filter_listing, hnone, List.flatMap_nil, Client.given, List.map_take]
      rfl
  · rw [hwalking.walked, ← List.map_take, List.map_map]
    rfl
  · rw [Outline.listing, List.map_cons, List.map_flatMap, List.flatMap_map]
    simp only [Visit.entry_paths]
    rfl

namespace Script

/-- The round trips in which the device is asked for everything that it has. -/
theorem holdsMixed_told {program : Program α}
    (hrounds : holdsMixed.rounds device program <+:
      holdsMixed.rounds device (Program.collect (Client.walkNext none) 3 (Client.walk "/"))) :
    holdsMixed.Told device "/" (.directory .mixed) program :=
  fun round hround => holdsMixed_tells round (hrounds.subset hround)

theorem holdsMixed_unbounded :
    holdsMixed.Told device "/" (.directory .mixed) (Client.listFirst 5 "/" none) := by
  refine holdsMixed_told ⟨[], ?_⟩
  rw [holdsMixed_rounds]
  cbv

theorem holdsMixed_bounded :
    holdsMixed.Told device "/" (.directory .mixed) (Client.listFirst 5 "/" (some 1)) := by
  refine holdsMixed_told
    ⟨[⟨.readDirectory "/d", some (.ok ["f"])⟩,
      ⟨.fileInfo "/d/f", some (.ok ⟨[("st_ifmt", "S_IFREG")]⟩)⟩], ?_⟩
  rw [holdsMixed_rounds]
  cbv

theorem holdsMixed_walking :
    holdsMixed.Told device "/" (.directory .mixed) (Client.walkFirst 5 "/") := by
  refine holdsMixed_told ⟨[], ?_⟩
  rw [holdsMixed_rounds]
  cbv

end Script

/-- The file in the directory lies two levels below the root, so a listing of one level does not
give it. -/
theorem listing_bounded_mixed :
    (Script.holdsMixed.run Script.device (Client.listFirst 5 "/" none)).1 =
      .finished (.ok [.ok "/", .ok "/d", .ok "/link", .ok "/d/f"]) ∧
    (Script.holdsMixed.run Script.device (Client.listFirst 5 "/" (some 1))).1 =
      .finished (.ok [.ok "/", .ok "/d", .ok "/link"]) := by
  obtain ⟨hall, hone, -⟩ := listing_bounded Script.device Script.holdsMixed Script.holdsMixed
    Script.holdsMixed "/" .mixed 1 5 Script.holdsMixed_unbounded Script.holdsMixed_bounded
    Script.holdsMixed_walking
  rw [hall, hone]
  exact ⟨rfl, rfl⟩

end FileConduit

import FileConduit.Client.Walk
import FileConduit.Proofs.Client.Looking
import FileConduit.Proofs.Device.Tree
import Mathlib.Data.List.Nodup

/-!
# Outlines

An outline is what a walk can find below a path.  Unlike the tree that a device holds, it has the
names of a listing that lead nowhere, and the entries that are gone or have no kind when the walk
looks at them.  The visits of a walk are the directories of the outline in pre-order.
-/

namespace FileConduit

mutual

/-- What is at a path when a walk comes to it. -/
inductive Outline where
  | absent
  /-- Something of which the device does not say what it is. -/
  | untyped
  /-- Anything else than a directory, such as a symbolic link. -/
  | file
  | directory (entries : Outlines)

/-- The names of a listing, each with what it names; what a name that is no child's stands for does
not matter. -/
inductive Outlines where
  | nil
  | cons (name : String) (outline : Outline) (rest : Outlines)

end

namespace Outline

def isDirectory : Outline → Bool
  | directory _ => true
  | _ => false

def isFile : Outline → Bool
  | file => true
  | _ => false

inductive Answered : Outline → Except ClientError InfoDictionary → Prop where
  | absent {error : ClientError}
      (herror : error = .reply (.status .readError) ∨ error.isNotFound = true) :
      Answered absent (.error error)
  | untyped {about : Description} (hkind : about.info.kind = none) :
      Answered untyped (.ok about.fields)
  | file {about : Description} {kind : FileKind} (hkind : about.info.kind = some kind)
      (hother : kind ≠ .directory) : Answered file (.ok about.fields)
  | directory {entries : Outlines} {about : Description}
      (hkind : about.info.kind = some .directory) : Answered (directory entries) (.ok about.fields)

end Outline

namespace Outlines

def names : Outlines → List String
  | nil => []
  | cons name _ rest => name :: rest.names

/-- The names that can be a child's, with what they name. -/
def children : Outlines → List (String × Outline)
  | nil => []
  | cons name outline rest =>
      if RemotePath.isTraversal name then rest.children else (name, outline) :: rest.children

section

variable {name : String} {outline : Outline} {rest : Outlines}

theorem children_traversal (hname : RemotePath.isTraversal name = true) :
    (cons name outline rest).children = rest.children := by
  rw [children, if_pos hname]

theorem children_child (hname : RemotePath.isTraversal name = false) :
    (cons name outline rest).children = (name, outline) :: rest.children := by
  rw [children, hname, if_neg Bool.false_ne_true]

end

def directories (entries : Outlines) : List String :=
  (entries.children.filter fun child => child.2.isDirectory).map Prod.fst

def files (entries : Outlines) : List String :=
  (entries.children.filter fun child => child.2.isFile).map Prod.fst

def looks (directory : String) (entries : Outlines) : List Request :=
  entries.children.map fun child => .fileInfo (RemotePath.join directory child.1)

end Outlines

/-- The names lead from one outline down to the other, through directories. -/
inductive Outline.Leads : Outline → Place → Outline → Prop where
  | here (outline : Outline) : Leads outline [] outline
  | down {entries : Outlines} {name : String} {place : Place} {child found : Outline}
      (hchild : (name, child) ∈ entries.children) (hrest : Leads child place found) :
      Leads (.directory entries) (name :: place) found

theorem Outline.Leads.child {root child : Outline} {entries : Outlines} {place : Place}
    {name : String} (hleads : root.Leads place (.directory entries))
    (hchild : (name, child) ∈ entries.children) : root.Leads (place ++ [name]) child := by
  generalize hdirectory : Outline.directory entries = found at hleads
  induction hleads with
  | here outline =>
      rw [← hdirectory]
      exact .down hchild (.here child)
  | down hfirst _ ih => exact .down hfirst (ih hdirectory)

def Outline.Distinct (root : Outline) : Prop :=
  ∀ place entries, root.Leads place (.directory entries) → (entries.children.map Prod.fst).Nodup

theorem Outline.Distinct.child {entries : Outlines} {name : String} {child : Outline}
    (hdistinct : (Outline.directory entries).Distinct) (hchild : (name, child) ∈ entries.children) :
    child.Distinct :=
  fun place below hleads => hdistinct (name :: place) below (.down hchild hleads)

/-! ## Visits -/

structure Visit where
  place : Place
  entries : Outlines

mutual

/-- The directories of an outline, each before those below it, and what is below one before the
next. -/
def Outline.preOrder (place : Place) : Outline → List Visit
  | .directory entries => ⟨place, entries⟩ :: entries.preOrder place
  | _ => []

def Outlines.preOrder (place : Place) : Outlines → List Visit
  | .nil => []
  | .cons name outline rest =>
      (if RemotePath.isTraversal name then [] else outline.preOrder (place ++ [name])) ++
        rest.preOrder place

end

theorem Outlines.preOrder_eq (entries : Outlines) (place : Place) :
    entries.preOrder place =
      entries.children.flatMap fun child => child.2.preOrder (place ++ [child.1]) := by
  match entries with
  | .nil => rw [preOrder, children, List.flatMap_nil]
  | .cons name outline rest =>
      rw [preOrder, children, rest.preOrder_eq place]
      split
      · rfl
      · rw [List.flatMap_cons]

namespace Visit

def path (root : String) (visit : Visit) : String :=
  RemotePath.below root visit.place

def entry (root : String) (visit : Visit) : Client.WalkEntry where
  directory := visit.path root
  directories := visit.entries.directories
  files := visit.entries.files
  depth := visit.place.length

def requests (root : String) (visit : Visit) : List Request :=
  .readDirectory (visit.path root) :: visit.entries.looks (visit.path root)

def below (visit : Visit) : List Visit :=
  visit.entries.children.flatMap fun
    | (name, .directory entries) => [⟨visit.place ++ [name], entries⟩]
    | _ => []

def preOrder (visit : Visit) : List Visit :=
  (Outline.directory visit.entries).preOrder visit.place

theorem preOrder_eq (visit : Visit) :
    visit.preOrder = visit :: visit.below.flatMap preOrder := by
  rw [preOrder, Outline.preOrder, Outlines.preOrder_eq, below, List.flatMap_assoc]
  congr 2
  funext ⟨name, child⟩
  cases child <;> simp [Outline.preOrder, preOrder]

theorem mem_below {visit lower : Visit} :
    lower ∈ visit.below ↔ ∃ name, (name, .directory lower.entries) ∈ visit.entries.children ∧
      lower.place = visit.place ++ [name] := by
  simp only [below, List.mem_flatMap, Prod.exists]
  constructor
  · rintro ⟨name, child, hchild, hlower⟩
    cases child with
    | directory entries =>
        rw [List.mem_singleton.mp hlower]
        exact ⟨name, hchild, rfl⟩
    | _ => simp at hlower
  · rintro ⟨name, hchild, hplace⟩
    refine ⟨name, _, hchild, ?_⟩
    rw [List.mem_singleton, ← hplace]

/-- What a walk keeps of a directory that waits to be visited. -/
def due (root : String) (visit : Visit) : String × Nat :=
  (visit.path root, visit.place.length)

theorem entry_below (root : String) (visit : Visit) :
    (visit.entry root).below = visit.below.map (due root) := by
  unfold Client.WalkEntry.below below
  simp only [entry, Outlines.directories, List.map_map]
  induction visit.entries.children with
  | nil => rfl
  | cons child rest ih =>
      obtain ⟨name, outline⟩ := child
      cases outline with
      | directory entries =>
          simpa [due, path, Outline.isDirectory] using ih
      | _ => simpa [Outline.isDirectory] using ih

end Visit

/-! ## The visits of an outline -/

mutual

theorem Outline.mem_preOrder (outline : Outline) (above : Place) (visit : Visit) :
    visit ∈ outline.preOrder above ↔
      ∃ place, visit.place = above ++ place ∧ outline.Leads place (.directory visit.entries) := by
  match outline with
  | .directory entries =>
      rw [Outline.preOrder, List.mem_cons, Outlines.mem_preOrder entries above visit]
      constructor
      · rintro (rfl | ⟨name, child, place, hchild, hplace, hleads⟩)
        · exact ⟨[], (List.append_nil above).symm, .here _⟩
        · exact ⟨name :: place, hplace, .down hchild hleads⟩
      · rintro ⟨place, hplace, hleads⟩
        obtain ⟨reached, found⟩ := visit
        cases hleads with
        | here =>
            rw [List.append_nil] at hplace
            exact .inl (by rw [← hplace])
        | down hchild hrest => exact .inr ⟨_, _, _, hchild, hplace, hrest⟩
  | .absent | .untyped | .file =>
      simp only [Outline.preOrder, List.not_mem_nil, false_iff]
      rintro ⟨place, -, hleads⟩
      cases hleads

theorem Outlines.mem_preOrder (entries : Outlines) (above : Place) (visit : Visit) :
    visit ∈ entries.preOrder above ↔
      ∃ name child place, (name, child) ∈ entries.children ∧
        visit.place = above ++ name :: place ∧
        child.Leads place (.directory visit.entries) := by
  match entries with
  | .nil => simp [Outlines.preOrder, Outlines.children]
  | .cons first outline rest =>
      have hfirst := Outline.mem_preOrder outline (above ++ [first]) visit
      have hrest := Outlines.mem_preOrder rest above visit
      rw [Outlines.preOrder, Outlines.children, List.mem_append, hrest]
      split
      · simp
      · rw [hfirst]
        constructor
        · rintro (⟨place, hplace, hleads⟩ | ⟨name, child, place, hchild, hplace, hleads⟩)
          · exact ⟨first, outline, place, by simp, by simpa using hplace, hleads⟩
          · exact ⟨name, child, place, List.mem_cons_of_mem _ hchild, hplace, hleads⟩
        · rintro ⟨name, child, place, hchild, hplace, hleads⟩
          rcases List.mem_cons.mp hchild with heq | hchild
          · cases heq
            exact .inl ⟨place, by simpa using hplace, hleads⟩
          · exact .inr ⟨name, child, place, hchild, hplace, hleads⟩

end

mutual

theorem Outline.places_nodup (outline : Outline) (hdistinct : outline.Distinct) (above : Place) :
    ((outline.preOrder above).map Visit.place).Nodup := by
  match outline with
  | .directory entries =>
      rw [Outline.preOrder, List.map_cons, List.nodup_cons]
      refine ⟨fun habove => ?_, Outlines.places_nodup entries (hdistinct [] entries (.here _))
        (fun name child hchild => hdistinct.child hchild) above⟩
      obtain ⟨visit, hvisit, hplace⟩ := List.mem_map.mp habove
      obtain ⟨name, child, place, -, hbelow, -⟩ := (Outlines.mem_preOrder _ _ _).mp hvisit
      rw [hplace] at hbelow
      simp at hbelow
  | .absent | .untyped | .file =>
      simp [Outline.preOrder]

theorem Outlines.places_nodup (entries : Outlines)
    (hnames : (entries.children.map Prod.fst).Nodup)
    (hchildren : ∀ name child, (name, child) ∈ entries.children → child.Distinct) (above : Place) :
    ((entries.preOrder above).map Visit.place).Nodup := by
  match entries with
  | .nil => exact List.nodup_nil
  | .cons first outline rest =>
      rw [Outlines.preOrder]
      cases hfirst : RemotePath.isTraversal first with
      | true =>
          rw [Outlines.children_traversal hfirst] at hnames hchildren
          exact Outlines.places_nodup rest hnames hchildren above
      | false =>
          rw [Outlines.children_child hfirst] at hnames hchildren
          rw [List.map_cons, List.nodup_cons] at hnames
          rw [if_neg (by simp), List.map_append]
          refine List.Nodup.append
            (Outline.places_nodup outline (hchildren first outline List.mem_cons_self) _)
            (Outlines.places_nodup rest hnames.2
              (fun name child hchild => hchildren name child (List.mem_cons_of_mem _ hchild)) above)
            fun place hhere hlater => ?_
          -- What is below different names is at different places.
          obtain ⟨visit, hvisit, rfl⟩ := List.mem_map.mp hhere
          obtain ⟨other, hother, hsame⟩ := List.mem_map.mp hlater
          obtain ⟨below, hbelow, -⟩ := (Outline.mem_preOrder _ _ _).mp hvisit
          obtain ⟨name, child, lower, hchild, hplace, -⟩ :=
            (Outlines.mem_preOrder _ _ _).mp hother
          rw [hsame, hbelow, List.append_assoc, List.append_cancel_left_eq] at hplace
          obtain ⟨rfl, -⟩ := List.cons.inj hplace
          exact hnames.1 (List.mem_map.mpr ⟨_, hchild, rfl⟩)

end

end FileConduit

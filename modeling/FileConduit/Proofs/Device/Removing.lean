import FileConduit.Proofs.Device.Reading
import FileConduit.Proofs.Program.Play

/-!
# A device that removes

The device holds a tree and forgets the nodes that it is told to remove.  It refuses to remove a
directory that still has entries, and some nodes of its own choice.  What stays of the tree is
what it refuses to remove and the directories above it.
-/

namespace FileConduit

abbrev Refusal := { code : StatusCode // code.isSuccess = false }

/-- A status by which a device says that a path names nothing. -/
abbrev Absence := { code : StatusCode // code = .readError ∨ code = .objectNotFound }

structure RemovingDevice where
  root : Node
  valid : root.Valid
  /-- The place that a path names; links on the way to it may be followed. -/
  locate : String → Option Place
  locate_join : ∀ {path name : String} {place : Place} {node : Node}, locate path = some place →
    root.find? place = some node → name ∈ node.entries.names →
    locate (RemotePath.join path name) = some (place ++ [name])
  /-- The nodes that it refuses to remove. -/
  refusal : Place → Option Refusal
  /-- Its refusal to remove a directory that has entries. -/
  nonEmpty : Place → Refusal
  /-- Its refusal to remove what does not exist. -/
  missing : String → Refusal
  absent : String → Absence
  /-- What it lists of a directory with the given entries. -/
  listing : List String → List String
  listing_filter : ∀ names, (∀ name ∈ names, ChildName name) →
    (listing names).filter (fun name => !RemotePath.isTraversal name) = names

namespace RemovingDevice

def node? (device : RemovingDevice) (gone : List Place) (path : String) : Option (Place × Node) :=
  (device.locate path).bind fun place =>
    if gone.contains place then none
    else (device.root.find? place).map fun node => (place, node)

def present (gone : List Place) (place : Place) (node : Node) : List String :=
  node.entries.names.filter fun name => !gone.contains (place ++ [name])

def removal (device : RemovingDevice) (gone : List Place) (place : Place) (node : Node) :
    StatusCode × List Place :=
  if present gone place node ≠ [] then (device.nonEmpty place, gone)
  else
    match device.refusal place with
    | some code => (code, gone)
    | none => (.success, place :: gone)

def responder (device : RemovingDevice) : Responder (List Place) where
  respond gone
    | .fileInfo path =>
        match device.node? gone path with
        | some (_, node) => (.ok node.about.fields, gone)
        | none => (.error (.status (device.absent path)), gone)
    | .readDirectory path =>
        match device.node? gone path with
        | some (place, node) =>
            if node.about.info.isDirectory then
              (.ok (device.listing (present gone place node)), gone)
            else (.error (.status .invalidArgument), gone)
        | none => (.error (.status (device.absent path)), gone)
    | .remove path =>
        match device.node? gone path with
        | some (place, node) =>
            (.ok (device.removal gone place node).1, (device.removal gone place node).2)
        | none => (.ok (device.missing path), gone)
    | _ => (.error (.status .operationNotSupported), gone)

/-! ## What stays -/

/-- Whether the device refuses to remove a node or one below it. -/
def stays (device : RemovingDevice) (place : Place) : Bool :=
  (device.root.postOrder "/" []).any fun entry =>
    place.isPrefixOf entry.1 && (device.refusal entry.1).isSome

/-- The paths of the nodes that stay. -/
def left (device : RemovingDevice) (nodes : List (Place × String)) : List String :=
  (nodes.filter fun node => device.stays node.1).map Prod.snd

/-- The places of the nodes that do not stay. -/
def removed (device : RemovingDevice) (nodes : List (Place × String)) : List Place :=
  (nodes.filter fun node => !device.stays node.1).map Prod.fst

variable {device : RemovingDevice}

@[simp] theorem left_append (first rest : List (Place × String)) :
    device.left (first ++ rest) = device.left first ++ device.left rest := by
  simp [left]

@[simp] theorem removed_append (first rest : List (Place × String)) :
    device.removed (first ++ rest) = device.removed first ++ device.removed rest := by
  simp [removed]

theorem mem_removed {nodes : List (Place × String)} {place : Place} :
    place ∈ device.removed nodes ↔
      (∃ path, (place, path) ∈ nodes) ∧ device.stays place = false := by
  simp [removed]

theorem stays_iff {place : Place} :
    device.stays place = true ↔ ∃ other, place <+: other ∧
      (device.root.find? other).isSome = true ∧ (device.refusal other).isSome = true := by
  have hmem := Node.mem_postOrder device.root device.valid "/" []
  simp only [List.nil_append, exists_eq_left'] at hmem
  simp only [stays, List.any_eq_true, Bool.and_eq_true, List.isPrefixOf_iff_prefix]
  constructor
  · rintro ⟨⟨other, path⟩, hentry, hunder, hrefusal⟩
    exact ⟨other, hunder, (hmem other).mp ⟨path, hentry⟩, hrefusal⟩
  · rintro ⟨other, hunder, hfound, hrefusal⟩
    obtain ⟨path, hentry⟩ := (hmem other).mpr hfound
    exact ⟨(other, path), hentry, hunder, hrefusal⟩

theorem stays_of_prefix {place other : Place} (hunder : place <+: other)
    (hstays : device.stays other = true) : device.stays place = true := by
  obtain ⟨last, hlast, hfound, hrefusal⟩ := stays_iff.mp hstays
  exact stays_iff.mpr ⟨last, hunder.trans hlast, hfound, hrefusal⟩

/-- A node stays if its removal is refused or one of its entries stays. -/
theorem stays_node {place : Place} {node : Node} (hnode : device.root.find? place = some node) :
    device.stays place = true ↔ (device.refusal place).isSome = true ∨
      ∃ name ∈ node.entries.names, device.stays (place ++ [name]) = true := by
  constructor
  · intro hstays
    obtain ⟨other, ⟨rest, rfl⟩, hfound, hrefusal⟩ := stays_iff.mp hstays
    cases rest with
    | nil => exact .inl (by simpa using hrefusal)
    | cons name rest =>
        right
        refine ⟨name, ?_, stays_iff.mpr ⟨place ++ name :: rest, ⟨rest, by simp⟩, hfound, hrefusal⟩⟩
        rw [Node.find?_append, hnode] at hfound
        rw [← Entries.child?_isSome]
        cases hchild : node.entries.child? name with
        | none => simp [Node.find?, hchild] at hfound
        | some child => rfl
  · rintro (hrefusal | ⟨name, -, hstays⟩)
    · exact stays_iff.mpr ⟨place, List.prefix_rfl, by rw [hnode]; rfl, hrefusal⟩
    · exact stays_of_prefix (List.prefix_append place [name]) hstays

/-! ## After everything below a node -/

def Intact (place : Place) (gone : List Place) : Prop :=
  ∀ other ∈ gone, ¬ place <+: other

/-- What has been removed once everything of some nodes that does not stay has been. -/
def cleared (device : RemovingDevice) (nodes : List (Place × String)) (gone : List Place) :
    List Place :=
  (device.removed nodes).reverse ++ gone

@[simp] theorem cleared_append (first rest : List (Place × String)) (gone : List Place) :
    device.cleared (first ++ rest) gone = device.cleared rest (device.cleared first gone) := by
  simp [cleared]

variable {path : String} {place : Place} {gone : List Place} {node : Node}

theorem Intact.not_mem (hintact : Intact place gone) : place ∉ gone :=
  fun hmem => hintact place hmem List.prefix_rfl

theorem Intact.child (hintact : Intact place gone) (name : String) :
    Intact (place ++ [name]) gone :=
  fun other hmem hunder => hintact other hmem ((List.prefix_append place [name]).trans hunder)

theorem locate_child {name : String} (hlocate : device.locate path = some place)
    (hchild : device.root.find? (place ++ [name]) = some node) :
    device.locate (RemotePath.join path name) = some (place ++ [name]) := by
  rw [Node.find?_append] at hchild
  obtain ⟨parent, hparent, hentry⟩ := Option.bind_eq_some_iff.mp hchild
  apply device.locate_join hlocate hparent
  rw [← Entries.child?_isSome]
  cases hfound : parent.entries.child? name with
  | none => simp [Node.find?, hfound] at hentry
  | some found => rfl

theorem node?_eq (hlocate : device.locate path = some place) (hgone : place ∉ gone)
    (hnode : device.root.find? place = some node) :
    device.node? gone path = some (place, node) := by
  simp [node?, hlocate, hgone, hnode]

theorem eq_of_node? (hfound : device.node? gone path = some (place, node)) :
    device.locate path = some place ∧ device.root.find? place = some node := by
  obtain ⟨located, hlocate, hrest⟩ := Option.bind_eq_some_iff.mp hfound
  split at hrest
  · cases hrest
  · obtain ⟨found, hnode, heq⟩ := Option.map_eq_some_iff.mp hrest
    cases heq
    exact ⟨hlocate, hnode⟩

theorem mem_cleared_entries (path : String) (hnode : device.root.find? place = some node)
    (hintact : Intact place gone) {name : String} (hname : name ∈ node.entries.names) :
    place ++ [name] ∈ device.cleared (node.entries.postOrder path place) gone ↔
      device.stays (place ++ [name]) = false := by
  have hvalid := (device.valid.find? hnode).entries
  have hplace : ∃ spelled, (place ++ [name], spelled) ∈ node.entries.postOrder path place := by
    obtain ⟨child, hchild⟩ :=
      Option.isSome_iff_exists.mp ((Entries.child?_isSome node.entries name).mpr hname)
    exact (Entries.mem_postOrder node.entries hvalid path place _).mpr
      ⟨name, [], child, hchild, rfl, rfl⟩
  have hgone := (hintact.child name).not_mem
  simp only [cleared, List.mem_append, List.mem_reverse, mem_removed, hplace, hgone, true_and,
    or_false]

theorem not_mem_cleared_entries (path : String) (hnode : device.root.find? place = some node)
    (hintact : Intact place gone) :
    place ∉ device.cleared (node.entries.postOrder path place) gone := by
  have hvalid := (device.valid.find? hnode).entries
  simp only [cleared, List.mem_append, List.mem_reverse, mem_removed, not_or]
  refine ⟨?_, hintact.not_mem⟩
  rintro ⟨hplace, -⟩
  obtain ⟨name, rest, child, -, heq, -⟩ :=
    (Entries.mem_postOrder node.entries hvalid path place place).mp hplace
  have hlength := congrArg List.length heq
  simp at hlength

theorem present_cleared (path : String) (hnode : device.root.find? place = some node)
    (hintact : Intact place gone) :
    present (device.cleared (node.entries.postOrder path place) gone) place node =
      node.entries.names.filter fun name => device.stays (place ++ [name]) := by
  refine List.filter_congr fun name hname => ?_
  have hmem := mem_cleared_entries path hnode hintact hname
  cases hstays : device.stays (place ++ [name]) <;> simp [hmem, hstays]

theorem present_of_intact (node : Node) (hintact : Intact place gone) :
    present gone place node = node.entries.names := by
  refine List.filter_eq_self.mpr fun name _ => ?_
  have hgone := (hintact.child name).not_mem
  simpa using hgone

/-- A node that does not stay can be removed after everything below it. -/
theorem removal_of_not_stays (path : String) (hnode : device.root.find? place = some node)
    (hintact : Intact place gone) (hstays : device.stays place = false) :
    device.removal (device.cleared (node.entries.postOrder path place) gone) place node =
      (.success, place :: device.cleared (node.entries.postOrder path place) gone) := by
  have hnone : ¬ ((device.refusal place).isSome = true ∨
      ∃ name ∈ node.entries.names, device.stays (place ++ [name]) = true) := by
    rw [← stays_node hnode, hstays]
    simp
  obtain ⟨hrefusal, hnames⟩ := not_or.mp hnone
  have hpresent : present (device.cleared (node.entries.postOrder path place) gone) place node =
      [] := by
    rw [present_cleared path hnode hintact]
    exact List.filter_eq_nil_iff.mpr fun name hname hname' => hnames ⟨name, hname, hname'⟩
  rw [Option.not_isSome_iff_eq_none] at hrefusal
  simp [removal, hpresent, hrefusal]

/-- The removal of a node that stays is refused, on its own account if nothing below it stays. -/
theorem removal_of_stays (path : String) (hnode : device.root.find? place = some node)
    (hintact : Intact place gone) (hstays : device.stays place = true) :
    ∃ code : Refusal,
      device.removal (device.cleared (node.entries.postOrder path place) gone) place node =
        (code.1, device.cleared (node.entries.postOrder path place) gone) ∧
      ((∀ name ∈ node.entries.names, device.stays (place ++ [name]) = false) →
        device.refusal place = some code) := by
  have hpresent := present_cleared path hnode hintact
  by_cases hnames : ∃ name ∈ node.entries.names, device.stays (place ++ [name]) = true
  · obtain ⟨name, hname, hbelow⟩ := hnames
    have hne : present (device.cleared (node.entries.postOrder path place) gone) place node ≠
        [] := by
      rw [hpresent]
      exact List.ne_nil_of_mem (List.mem_filter.mpr ⟨hname, hbelow⟩)
    refine ⟨device.nonEmpty place, by rw [removal, if_pos hne], fun hnone => ?_⟩
    rw [hnone name hname] at hbelow
    cases hbelow
  · have hnil : present (device.cleared (node.entries.postOrder path place) gone) place node =
        [] := by
      rw [hpresent]
      exact List.filter_eq_nil_iff.mpr fun name hname hname' => hnames ⟨name, hname, hname'⟩
    obtain hrefusal | hbelow := (stays_node hnode).mp hstays
    · obtain ⟨code, hcode⟩ := Option.isSome_iff_exists.mp hrefusal
      exact ⟨code, by simp [removal, hnil, hcode], fun _ => hcode⟩
    · exact absurd hbelow hnames

end RemovingDevice

end FileConduit

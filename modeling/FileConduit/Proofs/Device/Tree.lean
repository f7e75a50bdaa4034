import FileConduit.FileInfo
import FileConduit.Path.Remote
import FileConduit.Text.Pieces

/-!
# Trees on a device

What a device holds, seen as a tree: a directory has named entries, and everything else is a
leaf.  A place is the list of names that leads from the root to a node.
-/

namespace FileConduit

/-- The fields by which a device describes a file, and what the client reads in them. -/
structure Description where
  fields : InfoDictionary
  info : FileInfo
  reads : FileInfo.ofDictionary fields = .ok info

namespace Description

def directory : Description :=
  ⟨⟨[("st_ifmt", "S_IFDIR")]⟩, _, rfl⟩

def file : Description :=
  ⟨⟨[("st_ifmt", "S_IFREG")]⟩, _, rfl⟩

def link (target : String) : Description :=
  ⟨⟨[("st_ifmt", "S_IFLNK"), ("LinkTarget", target)]⟩, _, rfl⟩

end Description

structure ChildName (name : String) : Prop where
  ne_empty : name ≠ ""
  ne_dot : name ≠ "."
  ne_dots : name ≠ ".."
  no_slash : '/' ∉ name.toList
  no_nul : '\x00' ∉ name.toList

instance (name : String) : Decidable (ChildName name) :=
  decidable_of_iff (name ≠ "" ∧ name ≠ "." ∧ name ≠ ".." ∧ '/' ∉ name.toList ∧
      '\x00' ∉ name.toList)
    ⟨fun ⟨hempty, hdot, hdots, hslash, hnul⟩ => ⟨hempty, hdot, hdots, hslash, hnul⟩,
      fun hname => ⟨hname.ne_empty, hname.ne_dot, hname.ne_dots, hname.no_slash, hname.no_nul⟩⟩

theorem ChildName.not_traversal {name : String} (hname : ChildName name) :
    RemotePath.isTraversal name = false := by
  simp [RemotePath.isTraversal, hname.ne_empty, hname.ne_dot, hname.ne_dots]

/-- The names from the root to a node. -/
abbrev Place := List String

def RemotePath.below (path : String) (place : Place) : String :=
  place.foldl join path

@[simp] theorem RemotePath.below_concat (path : String) (place : Place) (name : String) :
    below path (place ++ [name]) = join (below path place) name := by
  rw [below, List.foldl_append]
  rfl

mutual

inductive Node where
  | leaf (about : Description) (kind : about.info.isDirectory = false)
  | directory (about : Description) (kind : about.info.isDirectory = true) (entries : Entries)

/-- The entries of a directory, in the order in which the device lists them. -/
inductive Entries where
  | nil
  | cons (name : String) (node : Node) (rest : Entries)

end

namespace Entries

def names : Entries → List String
  | nil => []
  | cons name _ rest => name :: rest.names

def child? : Entries → String → Option Node
  | nil, _ => none
  | cons name node rest, wanted => if name = wanted then some node else rest.child? wanted

theorem child?_isSome (entries : Entries) (name : String) :
    (entries.child? name).isSome = true ↔ name ∈ entries.names := by
  match entries with
  | nil => simp [child?, names]
  | cons first node rest =>
      have ih := child?_isSome rest name
      by_cases hname : first = name
      · simp [child?, names, hname]
      · simp [child?, names, hname, ih, Ne.symm hname]

end Entries

namespace Node

/-! Nodes of which the device says no more than it must. -/

def file : Node :=
  leaf .file rfl

def link (target : String) : Node :=
  leaf (.link target) rfl

def folder (entries : Entries) : Node :=
  directory .directory rfl entries

def about : Node → Description
  | leaf about _ => about
  | directory about _ _ => about

def entries : Node → Entries
  | leaf .. => .nil
  | directory _ _ entries => entries

@[simp] theorem entries_folder (entries : Entries) : (folder entries).entries = entries := rfl

def find? : Node → Place → Option Node
  | node, [] => some node
  | node, name :: rest => (node.entries.child? name).bind fun child => child.find? rest

theorem find?_append (node : Node) (first rest : Place) :
    node.find? (first ++ rest) = (node.find? first).bind fun found => found.find? rest := by
  induction first generalizing node with
  | nil => rfl
  | cons name first ih =>
      cases hchild : node.entries.child? name with
      | none => simp [find?, hchild]
      | some child => simpa [find?, hchild] using ih child

theorem find?_child {root node : Node} {place : Place} (hnode : root.find? place = some node)
    (name : String) : root.find? (place ++ [name]) = node.entries.child? name := by
  rw [find?_append, hnode]
  show (node.entries.child? name).bind some = _
  cases node.entries.child? name <;> rfl

end Node

/-! ## Well-formed trees -/

mutual

/-- Whether the names in every directory can stand there and differ. -/
def Node.Valid : Node → Prop
  | .leaf .. => True
  | .directory _ _ entries => entries.Valid

def Entries.Valid : Entries → Prop
  | .nil => True
  | .cons name node rest => ChildName name ∧ name ∉ rest.names ∧ node.Valid ∧ rest.Valid

end

namespace Entries

theorem Valid.child {entries : Entries} {name : String} {node : Node} (hvalid : entries.Valid)
    (hchild : entries.child? name = some node) : ChildName name ∧ node.Valid := by
  match entries with
  | nil => cases hchild
  | cons first child rest =>
      rw [child?] at hchild
      split at hchild
      · rename_i hname
        cases hchild
        rw [← hname]
        exact ⟨hvalid.1, hvalid.2.2.1⟩
      · exact hvalid.2.2.2.child hchild

end Entries

theorem Node.Valid.entries {node : Node} (hvalid : node.Valid) : node.entries.Valid := by
  cases node with
  | leaf about kind => trivial
  | directory about kind entries => exact hvalid

theorem Node.Valid.find? {root node : Node} {place : Place} (hvalid : root.Valid)
    (hnode : root.find? place = some node) : node.Valid := by
  induction place generalizing root with
  | nil =>
      cases hnode
      exact hvalid
  | cons name place ih =>
      obtain ⟨child, hchild, hrest⟩ := Option.bind_eq_some_iff.mp hnode
      exact ih (hvalid.entries.child hchild).2 hrest

/-! ## The nodes of a tree -/

mutual

def Node.nodes : Node → List Node
  | .leaf about kind => [.leaf about kind]
  | .directory about kind entries => .directory about kind entries :: entries.nodes

def Entries.nodes : Entries → List Node
  | .nil => []
  | .cons _ node rest => node.nodes ++ rest.nodes

end

theorem Entries.nodes_child {entries : Entries} {name : String} {child : Node}
    (hchild : entries.child? name = some child) : child.nodes ⊆ entries.nodes := by
  match entries with
  | .nil => cases hchild
  | .cons first node rest =>
      rw [Entries.child?] at hchild
      rw [Entries.nodes]
      split at hchild
      · cases hchild
        exact List.subset_append_left _ _
      · exact List.Subset.trans (nodes_child hchild) (List.subset_append_right _ _)

theorem Node.mem_nodes {root node : Node} {place : Place}
    (hnode : root.find? place = some node) : node ∈ root.nodes := by
  induction place generalizing root with
  | nil =>
      cases hnode
      cases node with
      | leaf about kind => exact List.mem_singleton_self _
      | directory about kind entries => exact List.mem_cons_self
  | cons name place ih =>
      obtain ⟨child, hchild, hrest⟩ := Option.bind_eq_some_iff.mp hnode
      have hbelow := Entries.nodes_child hchild (ih hrest)
      cases root with
      | leaf about kind => cases hbelow
      | directory about kind entries => exact List.mem_cons_of_mem _ hbelow

/-! ## Height and post-order -/

mutual

def Node.height : Node → Nat
  | .leaf .. => 0
  | .directory _ _ entries => entries.height

def Entries.height : Entries → Nat
  | .nil => 0
  | .cons _ node rest => max (node.height + 1) rest.height

end

theorem Node.height_entries (node : Node) : node.entries.height = node.height := by
  cases node with
  | leaf about kind => simp only [Node.entries, Node.height, Entries.height]
  | directory about kind entries => simp only [Node.entries, Node.height]

theorem Entries.height_child {entries : Entries} {name : String} {node : Node}
    (hchild : entries.child? name = some node) : node.height < entries.height := by
  match entries with
  | .nil => cases hchild
  | .cons first child rest =>
      rw [Entries.child?] at hchild
      simp only [Entries.height]
      split at hchild
      · cases hchild
        omega
      · have hrest := height_child hchild
        omega

theorem Node.height_find? {root node : Node} {place : Place}
    (hnode : root.find? place = some node) : node.height ≤ root.height := by
  induction place generalizing root with
  | nil =>
      cases hnode
      exact Nat.le_refl _
  | cons name place ih =>
      obtain ⟨child, hchild, hrest⟩ := Option.bind_eq_some_iff.mp hnode
      have hlow := Entries.height_child hchild
      have hlower := ih hrest
      rw [root.height_entries] at hlow
      omega

mutual

/-- The nodes of a tree in the order in which each comes after everything below it, with the
path that a client gives to each. -/
def Node.postOrder (path : String) (place : Place) : Node → List (Place × String)
  | .leaf .. => [(place, path)]
  | .directory _ _ entries => entries.postOrder path place ++ [(place, path)]

def Entries.postOrder (path : String) (place : Place) : Entries → List (Place × String)
  | .nil => []
  | .cons name node rest =>
      node.postOrder (RemotePath.join path name) (place ++ [name]) ++ rest.postOrder path place

end

theorem Node.postOrder_eq (path : String) (place : Place) (node : Node) :
    node.postOrder path place = node.entries.postOrder path place ++ [(place, path)] := by
  cases node with
  | leaf about kind => simp only [Node.entries, Node.postOrder, Entries.postOrder, List.nil_append]
  | directory about kind entries => simp only [Node.entries, Node.postOrder]

mutual

theorem Node.mem_postOrder (node : Node) (hvalid : node.Valid) (path : String)
    (place other : Place) :
    (∃ spelled, (other, spelled) ∈ node.postOrder path place) ↔
      ∃ rest, other = place ++ rest ∧ (node.find? rest).isSome = true := by
  have hentries : (∃ spelled, (other, spelled) ∈ node.entries.postOrder path place) ↔
      ∃ name rest child, node.entries.child? name = some child ∧ other = place ++ name :: rest ∧
        (child.find? rest).isSome = true := by
    match node with
    | .leaf about kind => simp [Node.entries, Entries.postOrder, Entries.child?]
    | .directory about kind entries => exact Entries.mem_postOrder entries hvalid path place other
  rw [Node.postOrder_eq]
  simp only [List.mem_append, List.mem_singleton, Prod.mk.injEq, exists_or,
    hentries]
  constructor
  · rintro (⟨name, rest, child, hchild, hother, hfound⟩ | ⟨spelled, hother, -⟩)
    · exact ⟨name :: rest, hother, by simpa [Node.find?, hchild] using hfound⟩
    · exact ⟨[], by simpa using hother, rfl⟩
  · rintro ⟨rest, hother, hfound⟩
    cases rest with
    | nil => exact .inr ⟨path, by simpa using hother, rfl⟩
    | cons name rest =>
        obtain ⟨found, hfound⟩ := Option.isSome_iff_exists.mp hfound
        obtain ⟨child, hchild, hrest⟩ := Option.bind_eq_some_iff.mp hfound
        exact .inl ⟨name, rest, child, hchild, hother, by rw [hrest]; rfl⟩

theorem Entries.mem_postOrder (entries : Entries) (hvalid : entries.Valid) (path : String)
    (place other : Place) :
    (∃ spelled, (other, spelled) ∈ entries.postOrder path place) ↔
      ∃ name rest child, entries.child? name = some child ∧ other = place ++ name :: rest ∧
        (child.find? rest).isSome = true := by
  match entries with
  | .nil => simp [Entries.postOrder, Entries.child?]
  | .cons first node later =>
      have hnode := Node.mem_postOrder node hvalid.2.2.1 (RemotePath.join path first)
        (place ++ [first]) other
      have hlater := Entries.mem_postOrder later hvalid.2.2.2 path place other
      simp only [Entries.postOrder, List.mem_append, exists_or, hnode, hlater]
      constructor
      · rintro (⟨rest, hother, hfound⟩ | ⟨name, rest, child, hchild, hother, hfound⟩)
        · exact ⟨first, rest, node, by simp [Entries.child?], by simpa using hother, hfound⟩
        · have hname : first ≠ name := by
            rintro rfl
            exact hvalid.2.1 ((later.child?_isSome first).mp (by rw [hchild]; rfl))
          exact ⟨name, rest, child, by simp [Entries.child?, hname, hchild], hother, hfound⟩
      · rintro ⟨name, rest, child, hchild, hother, hfound⟩
        rw [Entries.child?] at hchild
        split at hchild
        · rename_i hname
          cases hchild
          subst hname
          exact .inl ⟨rest, by simpa using hother, hfound⟩
        · exact .inr ⟨name, rest, child, hchild, hother, hfound⟩

end

end FileConduit

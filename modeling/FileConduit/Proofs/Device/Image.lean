import FileConduit.Proofs.Device.Readable
import FileConduit.Proofs.Host.Tree
import FileConduit.Proofs.Overlay

/-!
# Images of a device's tree

What a node of a device looks like on the host when it has been copied there: directories are
directories, files have their contents, and a link looks like the file to which it leads.
-/

namespace FileConduit

namespace ReadableDevice

variable {σ : Type} {device : ReadableDevice σ}

def mirror (device : ReadableDevice σ) (path : String) (node : Node) (rest : Place) :
    Option HostEntry :=
  match node.find? rest with
  | none => none
  | some (.directory ..) => some .directory
  | some (.leaf about _) => (device.fetched? (RemotePath.below path rest) about).map .file

def mirrorEntries (device : ReadableDevice σ) (path : String) (entries : Entries) :
    Place → Option HostEntry
  | [] => none
  | name :: rest => (entries.child? name).bind fun child =>
      device.mirror (RemotePath.join path name) child rest

theorem mirror_directory (path : String) (about : Description)
    (kind : about.info.isDirectory = true) (entries : Entries) (rest : Place) :
    device.mirror path (.directory about kind entries) rest =
      (device.mirrorEntries path entries rest).or (imageOf .directory rest) := by
  cases rest with
  | nil => rfl
  | cons name rest =>
      rw [mirrorEntries, imageOf, Option.or_none]
      simp only [mirror, Node.find?, Node.entries]
      cases entries.child? name <;> rfl

theorem mirror_leaf {path : String} {about : Description}
    (kind : about.info.isDirectory = false) {contents : Bytes}
    (hfetched : device.fetched? path about = some contents) (rest : Place) :
    device.mirror path (.leaf about kind) rest = imageOf (.file contents) rest := by
  cases rest with
  | nil =>
      show (device.fetched? path about).map HostEntry.file = _
      rw [hfetched]
      rfl
  | cons name rest => rfl

theorem mirrorEntries_cons (path : String) {name : String} (node : Node) {later : Entries}
    (hname : name ∉ later.names) (rest : Place) :
    device.mirrorEntries path (.cons name node later) rest =
      (device.mirrorEntries path later rest).or
        (imageBelow name (device.mirror (RemotePath.join path name) node) rest) := by
  cases rest with
  | nil => rfl
  | cons first rest =>
      rw [mirrorEntries, mirrorEntries, imageBelow, Entries.child?]
      by_cases hfirst : name = first
      · have hlater : later.child? first = none := by
          rw [← Option.not_isSome_iff_eq_none, later.child?_isSome, ← hfirst]
          exact hname
        rw [if_pos hfirst, if_pos hfirst.symm, hlater, hfirst]
        rfl
      · rw [if_neg hfirst, if_neg (Ne.symm hfirst), Option.or_none]

/-- What it takes for a node to have an image: the host can give all names, and every leaf is a file
or leads to one. -/
structure Mirrorable (device : ReadableDevice σ) (path : String) (node : Node) : Prop where
  valid : node.Valid
  short : ∀ place found name, node.find? place = some found → name ∈ found.entries.names →
    name.utf8ByteSize ≤ HostTree.nameLimit
  leaves : ∀ place about kind, node.find? place = some (.leaf about kind) →
    ∃ contents, device.fetched? (RemotePath.below path place) about = some contents

theorem Mirrorable.child {path name : String} {node child : Node}
    (hmirrorable : device.Mirrorable path node) (hchild : node.entries.child? name = some child) :
    HostTree.Fits name ∧ device.Mirrorable (RemotePath.join path name) child := by
  have hbelow : ∀ rest, node.find? (name :: rest) = child.find? rest := by
    intro rest
    rw [Node.find?, hchild]
    rfl
  obtain ⟨hname, hvalid⟩ := hmirrorable.valid.entries.child hchild
  have hmem : name ∈ node.entries.names := (Entries.child?_isSome _ _).mp (by rw [hchild]; rfl)
  constructor
  · exact ⟨hname, hmirrorable.short [] node name rfl hmem⟩
  · constructor
    · exact hvalid
    · intro place found other hfound hother
      exact hmirrorable.short (name :: place) found other (by rw [hbelow, hfound]) hother
    · intro place about kind hleaf
      exact hmirrorable.leaves (name :: place) about kind (by rw [hbelow, hleaf])

theorem Mirrorable.names {path : String} {node : Node} (hmirrorable : device.Mirrorable path node) :
    ∀ name ∈ node.entries.names, ChildName name := by
  intro name hname
  obtain ⟨child, hchild⟩ :=
    Option.isSome_iff_exists.mp ((Entries.child?_isSome node.entries name).mpr hname)
  exact (hmirrorable.child hchild).1.child

theorem Mirrorable.shown {path : String} {node : Node} (hmirrorable : device.Mirrorable path node) :
    device.mirror path node [] ≠ none := by
  cases node with
  | leaf about kind =>
      obtain ⟨contents, hfetched⟩ := hmirrorable.leaves [] about kind rfl
      have hfile : device.mirror path (.leaf about kind) [] = some (.file contents) :=
        device.mirror_leaf kind hfetched []
      rw [hfile]
      exact Option.some_ne_none _
  | directory about kind entries => exact Option.some_ne_none _

end ReadableDevice

end FileConduit

import FileConduit.Proofs.Device.Reading
import FileConduit.Proofs.Program.Play
import Mathlib.Logic.Function.Basic

/-!
# A device whose files can be read

The device holds a tree that does not change, describes and lists what is in it, and hands out the
contents of its regular files piece by piece, in pieces of any size.  It may read paths as it likes
as long as a name behind a slash leads from a directory to its entry, keep whatever else it wants to
in its state, and do what it likes with every other request.
-/

namespace FileConduit

/-- A device with a tree and with contents for its regular files. -/
structure ReadableDevice (σ : Type) where
  responder : Responder σ
  root : Node
  /-- The place that a path names; the target of a link may be named in any way. -/
  locate : String → Option Place
  /-- What the regular files hold. -/
  contents : Place → Bytes
  /-- What remains to be read by the handles in use. -/
  opened : σ → Handle → Option Bytes
  /-- Whether one more file can be opened while these handles are in use. -/
  admits : (Handle → Option Bytes) → Prop
  locate_join : ∀ {path name : String} {place : Place} {node : Node}, locate path = some place →
    root.find? place = some node → name ∈ node.entries.names →
    locate (RemotePath.join path name) = some (place ++ [name])
  /-- The device states the sizes of its regular files. -/
  sized : ∀ {place : Place} {node : Node}, root.find? place = some node →
    node.about.info.isRegular = true →
    ∃ size, node.about.info.size = some size ∧ (contents place).length = size.toNat
  /-- No file is longer than the longest buffer, which is as long as any file that a file system can
  hold, since positions in a file are words with a sign. -/
  bounded : ∀ {place : Place} {node : Node}, root.find? place = some node →
    node.about.info.isRegular = true → (contents place).length ≤ Bytes.maxLength
  describes : ∀ (state : σ) {path : String} {place : Place} {node : Node},
    locate path = some place → root.find? place = some node →
    ∃ after, responder.respond state (.fileInfo path) = (.ok node.about.fields, after) ∧
      opened after = opened state
  /-- Beside the entries of a directory a listing may hold names that stand for no entry. -/
  lists : ∀ (state : σ) {path : String} {place : Place} {node : Node},
    locate path = some place → root.find? place = some node →
    node.about.info.isDirectory = true →
    ∃ names after, responder.respond state (.readDirectory path) = (.ok names, after) ∧
      opened after = opened state ∧
      names.filter (!RemotePath.isTraversal ·) =
        node.entries.names.filter (!RemotePath.isTraversal ·)
  opens : ∀ (state : σ) {path : String} {place : Place} {node : Node},
    locate path = some place → root.find? place = some node → node.about.info.isRegular = true →
    admits (opened state) →
    ∃ handle after, responder.respond state (.openFile path .readOnly) = (.ok handle, after) ∧
      handle.isNull = false ∧ opened state handle = none ∧
      opened after = Function.update (opened state) handle (some (contents place))
  reads : ∀ (state : σ) {handle : Handle} {size : UInt64} {rest : Bytes},
    opened state handle = some rest → rest ≠ [] → 0 < size.toNat →
    ∃ data left after, rest = data ++ left ∧ data ≠ [] ∧ data.length ≤ size.toNat ∧
      responder.respond state (.read handle size) = (.ok data, after) ∧
      opened after = Function.update (opened state) handle (some left)
  closes : ∀ (state : σ) {handle : Handle} {rest : Bytes}, opened state handle = some rest →
    ∃ after, responder.respond state (.close handle) = (.ok (), after) ∧
      opened after = Function.update (opened state) handle none

/-- Where a client goes on from a path with such a description, one link followed. -/
def Description.source? (about : Description) (path : String) : Option String :=
  if about.info.isSymlink then about.info.linkTarget.map (RemotePath.resolveLink path)
  else some path

namespace ReadableDevice

variable {σ : Type}

def contents? (device : ReadableDevice σ) (path : String) : Option Bytes :=
  (device.locate path).bind fun place =>
    (device.root.find? place).bind fun node =>
      if node.about.info.isRegular then some (device.contents place) else none

/-- What a client gets of a path with such a description: the contents of the file, or of the file
to which a link leads. -/
def fetched? (device : ReadableDevice σ) (path : String) (about : Description) : Option Bytes :=
  (about.source? path).bind device.contents?

theorem contents?_eq {device : ReadableDevice σ} {path : String} {contents : Bytes}
    (hcontents : device.contents? path = some contents) :
    ∃ place node, device.locate path = some place ∧ device.root.find? place = some node ∧
      node.about.info.isRegular = true ∧ device.contents place = contents := by
  obtain ⟨place, hlocate, hrest⟩ := Option.bind_eq_some_iff.mp hcontents
  obtain ⟨node, hnode, hlast⟩ := Option.bind_eq_some_iff.mp hrest
  by_cases hregular : node.about.info.isRegular = true
  · rw [if_pos hregular] at hlast
    exact ⟨place, node, hlocate, hnode, hregular, Option.some.inj hlast⟩
  · rw [if_neg hregular] at hlast
    cases hlast

/-! ## One file at a time -/

/-- Serves the files of a tree byte by byte and one at a time, by what remains to be read. -/
def serveSingly (root : Node) (reading : PathReading) (contents : Place → Bytes) :
    Responder (Option Bytes) where
  respond state
    | .fileInfo path =>
        match (reading.locate path).bind root.find? with
        | some node => (.ok node.about.fields, state)
        | none => (.error (.status .objectNotFound), state)
    | .readDirectory path =>
        match (reading.locate path).bind root.find? with
        | some (.directory _ _ entries) => (.ok entries.names, state)
        | _ => (.error (.status .objectNotFound), state)
    | .openFile path _ =>
        match reading.locate path with
        | some place => (.ok ⟨1⟩, some (contents place))
        | none => (.error (.status .objectNotFound), state)
    | .read _ size =>
        match size.toNat, state with
        | _ + 1, some (byte :: rest) => (.ok [byte], some rest)
        | _, _ => (.ok [], state)
    | .close _ => (.ok (), none)
    | _ => (.error (.status .operationNotSupported), state)

def single (state : Option Bytes) : Handle → Option Bytes :=
  Function.update (fun _ => none) ⟨1⟩ state

theorem single_eq {state : Option Bytes} {handle : Handle} {rest : Bytes}
    (hrest : single state handle = some rest) : handle = ⟨1⟩ ∧ state = some rest := by
  rw [single, Function.update_apply] at hrest
  by_cases hhandle : handle = ⟨1⟩
  · rw [if_pos hhandle] at hrest
    exact ⟨hhandle, hrest⟩
  · rw [if_neg hhandle] at hrest
    cases hrest

theorem update_single (state next : Option Bytes) :
    Function.update (single state) ⟨1⟩ next = single next :=
  Function.update_idem _ _ _

/-- Every tree can be read from some device. -/
def singly (root : Node) (valid : root.Valid) (reading : PathReading) (contents : Place → Bytes)
    (sized : ∀ {place : Place} {node : Node}, root.find? place = some node →
      node.about.info.isRegular = true →
      ∃ size, node.about.info.size = some size ∧ (contents place).length = size.toNat)
    (bounded : ∀ {place : Place} {node : Node}, root.find? place = some node →
      node.about.info.isRegular = true → (contents place).length ≤ Bytes.maxLength) :
    ReadableDevice (Option Bytes) where
  responder := serveSingly root reading contents
  root := root
  locate := reading.locate
  contents := contents
  opened := single
  admits used := used ⟨1⟩ = none
  locate_join := reading.locate_entry valid
  sized := sized
  bounded := bounded
  describes state {path place node} hlocate hnode := by
    refine ⟨state, ?_, rfl⟩
    simp only [serveSingly, hlocate, Option.bind_some, hnode]
  lists state {path place node} hlocate hnode hkind := by
    cases node with
    | leaf about kind =>
        rw [show (Node.leaf about kind).about.info.isDirectory = false from kind] at hkind
        cases hkind
    | directory about kind entries =>
        refine ⟨entries.names, state, ?_, rfl, rfl⟩
        simp only [serveSingly, hlocate, Option.bind_some, hnode]
  opens state {path place node} hlocate hnode hregular hadmits := by
    refine ⟨⟨1⟩, some (contents place), ?_, rfl, hadmits, (update_single _ _).symm⟩
    simp only [serveSingly, hlocate]
  reads state {handle size rest} hrest hne hsize := by
    obtain ⟨rfl, rfl⟩ := single_eq hrest
    obtain ⟨byte, left, rfl⟩ := List.exists_cons_of_ne_nil hne
    obtain ⟨less, hless⟩ := Nat.exists_eq_succ_of_ne_zero (Nat.pos_iff_ne_zero.mp hsize)
    refine ⟨[byte], left, some left, rfl, List.cons_ne_nil _ _, hsize, ?_,
      (update_single _ _).symm⟩
    simp only [serveSingly, hless]
  closes state {handle rest} hrest := by
    obtain ⟨rfl, rfl⟩ := single_eq hrest
    exact ⟨none, rfl, (update_single _ _).symm⟩

end ReadableDevice

end FileConduit

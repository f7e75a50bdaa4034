import FileConduit.Host.Tree
import FileConduit.Proofs.Device.Reading
import FileConduit.Proofs.Program.Play
import Mathlib.Logic.Function.Basic

/-!
# A device to which files can be written

The device grants what it can be asked to grant: it makes directories in directories, opens files
for writing and empties them by that, and puts what is written at the position of the handle.  It
may keep whatever else it wants to in its state, and do what it likes with every other request.
-/

namespace FileConduit

structure Cursor where
  place : Place
  mode : OpenMode
  position : Nat
  deriving DecidableEq, Repr

/-- Contents with data put over them from a position on. -/
def spliced (contents : Bytes) (position : Nat) (data : Bytes) : Bytes :=
  contents.take position ++ data ++ contents.drop (position + data.length)

theorem spliced_end (contents data : Bytes) :
    spliced contents contents.length data = contents ++ data := by
  rw [spliced, List.take_length, List.drop_of_length_le (Nat.le_add_right _ _), List.append_nil]

/-- What there must be at a place for a file to be opened there for writing. -/
def Replaceable (held : Option HostEntry) : Prop :=
  held = none ∨ ∃ contents, held = some (.file contents)

/-- Whether an entry of the host can be put where the device holds something, or nothing. -/
def HostEntry.Replaces : HostEntry → Option HostEntry → Prop
  | .directory, held => held = none ∨ held = some .directory
  | .file _, held => Replaceable held
  | .link _, _ => False

structure WritableDevice (σ : Type) where
  responder : Responder σ
  /-- The place that a path names; links on the way to it may be followed. -/
  locate : String → Option Place
  held : σ → Place → Option HostEntry
  opened : σ → Handle → Option Cursor
  /-- Whether one more file can be opened while these handles are in use. -/
  admits : (Handle → Option Cursor) → Prop
  locate_join : ∀ (state : σ) {path name : String} {place : Place}, locate path = some place →
    held state place = some .directory → ChildName name →
    locate (RemotePath.join path name) = some (place ++ [name])
  makes : ∀ (state : σ) {path name : String} {holder : Place},
    locate path = some (holder ++ [name]) → held state holder = some .directory →
    held state (holder ++ [name]) = none →
    ∃ after, responder.respond state (.makeDirectory path) = (.ok (), after) ∧
      held after = Function.update (held state) (holder ++ [name]) (some .directory) ∧
      opened after = opened state
  /-- A directory that is there is kept. -/
  keeps : ∀ (state : σ) {path : String} {place : Place},
    locate path = some place → held state place = some .directory →
    ∃ after, responder.respond state (.makeDirectory path) =
        (.error (.status .objectExists), after) ∧
      held after = held state ∧ opened after = opened state
  opens : ∀ (state : σ) {path name : String} {holder : Place},
    locate path = some (holder ++ [name]) → held state holder = some .directory →
    Replaceable (held state (holder ++ [name])) → admits (opened state) →
    ∃ handle after, responder.respond state (.openFile path .writeOnly) = (.ok handle, after) ∧
      handle.isNull = false ∧ opened state handle = none ∧
      held after = Function.update (held state) (holder ++ [name]) (some (.file [])) ∧
      opened after =
        Function.update (opened state) handle (some ⟨holder ++ [name], .writeOnly, 0⟩)
  writes : ∀ (state : σ) {chunk : WriteChunk} {place : Place} {position : Nat} {contents : Bytes},
    opened state chunk.handle = some ⟨place, .writeOnly, position⟩ →
    held state place = some (.file contents) → chunk.data ≠ [] →
    ∃ after, responder.respond state (.write chunk) = (.ok (), after) ∧
      held after = Function.update (held state) place
        (some (.file (spliced contents position chunk.data))) ∧
      opened after = Function.update (opened state) chunk.handle
        (some ⟨place, .writeOnly, position + chunk.data.length⟩)
  closes : ∀ (state : σ) {handle : Handle} {cursor : Cursor}, opened state handle = some cursor →
    ∃ after, responder.respond state (.close handle) = (.ok (), after) ∧
      held after = held state ∧ opened after = Function.update (opened state) handle none

/-! ## One file at a time -/

structure Memory where
  held : Place → Option HostEntry
  cursor : Option Cursor

namespace Memory

def put (memory : Memory) (place : Place) (entry : HostEntry) : Memory :=
  { memory with held := Function.update memory.held place (some entry) }

def opened (memory : Memory) : Handle → Option Cursor :=
  Function.update (fun _ => none) ⟨1⟩ memory.cursor

theorem opened_eq {memory : Memory} {handle : Handle} {cursor : Cursor}
    (hopened : memory.opened handle = some cursor) :
    handle = ⟨1⟩ ∧ memory.cursor = some cursor := by
  rw [opened, Function.update_apply] at hopened
  by_cases hhandle : handle = ⟨1⟩
  · rw [if_pos hhandle] at hopened
    exact ⟨hhandle, hopened⟩
  · rw [if_neg hhandle] at hopened
    cases hopened

theorem update_opened (memory : Memory) (next : Option Cursor)
    (held : Place → Option HostEntry) :
    Memory.opened ⟨held, next⟩ = Function.update memory.opened ⟨1⟩ next :=
  (Function.update_idem _ _ _).symm

def makeDirectory (memory : Memory) (place : Place) : Except ReplyError Unit × Memory :=
  match memory.held place, memory.held place.dropLast with
  | none, some .directory => (.ok (), memory.put place .directory)
  | none, _ => (.error (.status .objectNotFound), memory)
  | some _, _ => (.error (.status .objectExists), memory)

def openFile (memory : Memory) (place : Place) : Except ReplyError Handle × Memory :=
  match memory.held place, memory.held place.dropLast with
  | none, some .directory | some (.file _), some .directory =>
      (.ok ⟨1⟩, { memory.put place (.file []) with cursor := some ⟨place, .writeOnly, 0⟩ })
  | _, _ => (.error (.status .objectNotFound), memory)

def write (memory : Memory) (data : Bytes) : Except ReplyError Unit × Memory :=
  match memory.cursor with
  | none => (.error (.status .invalidArgument), memory)
  | some cursor =>
      match memory.held cursor.place with
      | some (.file contents) =>
          (.ok (), { memory.put cursor.place (.file (spliced contents cursor.position data)) with
            cursor := some { cursor with position := cursor.position + data.length } })
      | _ => (.error (.status .invalidArgument), memory)

def responder (reading : PathReading) : Responder Memory where
  respond memory
    | .makeDirectory path =>
        match reading.locate path with
        | some place => memory.makeDirectory place
        | none => (.error (.status .objectNotFound), memory)
    | .openFile path _ =>
        match reading.locate path with
        | some place => memory.openFile place
        | none => (.error (.status .objectNotFound), memory)
    | .write chunk => memory.write chunk.data
    | .close _ => (.ok (), { memory with cursor := none })
    | _ => (.error (.status .operationNotSupported), memory)

end Memory

def WritableDevice.memory (reading : PathReading) : WritableDevice Memory where
  responder := Memory.responder reading
  locate := reading.locate
  held := Memory.held
  opened := Memory.opened
  admits used := used ⟨1⟩ = none
  locate_join _ _ _ _ hlocate _ hname := reading.locate_join hlocate hname
  makes memory {path name holder} hlocate hholder hnone := by
    refine ⟨memory.put (holder ++ [name]) .directory, ?_, rfl, rfl⟩
    simp only [Memory.responder, hlocate, Memory.makeDirectory, List.dropLast_concat, hnone,
      hholder]
  keeps memory {path place} hlocate hheld := by
    refine ⟨memory, ?_, rfl, rfl⟩
    simp only [Memory.responder, hlocate, Memory.makeDirectory, hheld]
  opens memory {path name holder} hlocate hholder hreplaced hadmits := by
    refine ⟨⟨1⟩, { memory.put (holder ++ [name]) (.file []) with
      cursor := some ⟨holder ++ [name], .writeOnly, 0⟩ }, ?_, rfl, hadmits, rfl,
      memory.update_opened _ _⟩
    simp only [Memory.responder, hlocate, Memory.openFile, List.dropLast_concat, hholder]
    rcases hreplaced with hnone | ⟨contents, hfile⟩
    · rw [hnone]
    · rw [hfile]
  writes memory {chunk place position contents} hopened hheld hdata := by
    obtain ⟨hhandle, hcursor⟩ := Memory.opened_eq hopened
    refine ⟨{ memory.put place (.file (spliced contents position chunk.data)) with
      cursor := some ⟨place, .writeOnly, position + chunk.data.length⟩ }, ?_, rfl, ?_⟩
    · simp only [Memory.responder, Memory.write, hcursor, hheld]
    · rw [hhandle]
      exact memory.update_opened _ _
  closes memory {handle cursor} hopened := by
    obtain ⟨hhandle, -⟩ := Memory.opened_eq hopened
    refine ⟨{ memory with cursor := none }, rfl, rfl, ?_⟩
    rw [hhandle]
    exact memory.update_opened _ _

end FileConduit

import FileConduit.Proofs.Device.Tree
import FileConduit.Proofs.Device.Writable
import FileConduit.Proofs.Text.Numeral

/-!
# A device that keeps files

The device empties a file that is opened for writing, puts what is written at the position of the
handle, and hands out what a file holds, in pieces of any size.  It may name files as it likes, keep
whatever else it wants to in its state, and do what it likes with every other request.
-/

namespace FileConduit

structure StoringDevice (σ : Type) where
  responder : Responder σ
  /-- The place that a path names. -/
  locate : String → Option Place
  held : σ → Place → Option HostEntry
  opened : σ → Handle → Option Cursor
  /-- Whether one more file can be opened while these handles are in use. -/
  admits : (Handle → Option Cursor) → Prop
  opens : ∀ (state : σ) {path name : String} {holder : Place},
    locate path = some (holder ++ [name]) → held state holder = some .directory →
    Replaceable (held state (holder ++ [name])) → admits (opened state) →
    ∃ handle after, responder.respond state (.openFile path .writeOnly) = (.ok handle, after) ∧
      handle.isNull = false ∧ opened state handle = none ∧
      held after = Function.update (held state) (holder ++ [name]) (some (.file [])) ∧
      opened after =
        Function.update (opened state) handle (some ⟨holder ++ [name], .writeOnly, 0⟩)
  writes : ∀ (state : σ) {chunk : WriteChunk} {place : Place} {position : Nat} {contents : Bytes},
    opened state chunk.handle = some ⟨place, .writeOnly, position⟩ →
    held state place = some (.file contents) → chunk.data ≠ [] →
    ∃ after, responder.respond state (.write chunk) = (.ok (), after) ∧
      held after = Function.update (held state) place
        (some (.file (spliced contents position chunk.data))) ∧
      opened after = Function.update (opened state) chunk.handle
        (some ⟨place, .writeOnly, position + chunk.data.length⟩)
  closes : ∀ (state : σ) {handle : Handle} {cursor : Cursor}, opened state handle = some cursor →
    ∃ after, responder.respond state (.close handle) = (.ok (), after) ∧
      held after = held state ∧ opened after = Function.update (opened state) handle none

/-- A device to which files can be written, seen without its directories. -/
def WritableDevice.storing {σ : Type} (device : WritableDevice σ) : StoringDevice σ where
  responder := device.responder
  locate := device.locate
  held := device.held
  opened := device.opened
  admits := device.admits
  opens := device.opens
  writes := device.writes
  closes := device.closes

structure KeepingDevice (σ : Type) extends StoringDevice σ where
  /-- The device states the size of a file, as long as it fits in a word. -/
  describes : ∀ (state : σ) {path : String} {place : Place} {contents : Bytes},
    locate path = some place → held state place = some (.file contents) →
    contents.length < UInt64.size →
    ∃ (about : Description) (after : σ),
      responder.respond state (.fileInfo path) = (.ok about.fields, after) ∧
      about.info.kind = some .regular ∧
      about.info.size = some (UInt64.ofNat contents.length) ∧
      held after = held state ∧ opened after = opened state
  opensToRead : ∀ (state : σ) {path : String} {place : Place} {contents : Bytes},
    locate path = some place → held state place = some (.file contents) → admits (opened state) →
    ∃ handle after, responder.respond state (.openFile path .readOnly) = (.ok handle, after) ∧
      handle.isNull = false ∧ opened state handle = none ∧ held after = held state ∧
      opened after = Function.update (opened state) handle (some ⟨place, .readOnly, 0⟩)
  reads : ∀ (state : σ) {handle : Handle} {size : UInt64} {place : Place} {position : Nat}
    {contents : Bytes}, opened state handle = some ⟨place, .readOnly, position⟩ →
    held state place = some (.file contents) → position < contents.length → 0 < size.toNat →
    ∃ data after, data <+: contents.drop position ∧ data ≠ [] ∧ data.length ≤ size.toNat ∧
      responder.respond state (.read handle size) = (.ok data, after) ∧ held after = held state ∧
      opened after =
        Function.update (opened state) handle (some ⟨place, .readOnly, position + data.length⟩)

/-! ## One file at a time -/

def Description.regular (size : UInt64) : Description where
  fields := ⟨[("st_size", size.toNat.repr), ("st_ifmt", "S_IFREG")]⟩
  info :=
    { kind := some .regular, size := some size, blocks := none, links := none, modified := none,
      born := none, linkTarget := none }
  reads := by
    let fields : InfoDictionary := ⟨[("st_size", size.toNat.repr), ("st_ifmt", "S_IFREG")]⟩
    have hstated : fields.get? "st_size" = some size.toNat.repr := rfl
    have hsize : FileInfo.field fields "st_size" Decimal.word? = .ok (some size) := by
      rw [FileInfo.field, hstated]
      simp only [Decimal.trim_repr, Decimal.word?_repr]
    rw [FileInfo.ofDictionary, hsize]
    rfl

namespace Memory

def describe (memory : Memory) (place : Place) : Except ReplyError InfoDictionary :=
  match memory.held place with
  | some .directory => .ok Description.directory.fields
  | some (.file contents) => .ok (Description.regular (UInt64.ofNat contents.length)).fields
  | _ => .error (.status .objectNotFound)

def openToRead (memory : Memory) (place : Place) : Except ReplyError Handle × Memory :=
  match memory.held place with
  | some (.file _) => (.ok ⟨1⟩, { memory with cursor := some ⟨place, .readOnly, 0⟩ })
  | _ => (.error (.status .objectNotFound), memory)

def read (memory : Memory) (most : Nat) : Except ReplyError Bytes × Memory :=
  match memory.cursor with
  | none => (.error (.status .invalidArgument), memory)
  | some cursor =>
      match memory.held cursor.place with
      | some (.file contents) =>
          let data := (contents.drop cursor.position).take most
          (.ok data, { memory with
            cursor := some { cursor with position := cursor.position + data.length } })
      | _ => (.error (.status .invalidArgument), memory)

/-- Reads as well as writes; no more than `piece` bytes are handed out at once. -/
def keeper (reading : PathReading) (piece : Nat) : Responder Memory where
  respond memory
    | .fileInfo path =>
        match reading.locate path with
        | some place => (memory.describe place, memory)
        | none => (.error (.status .objectNotFound), memory)
    | .openFile path .readOnly =>
        match reading.locate path with
        | some place => memory.openToRead place
        | none => (.error (.status .objectNotFound), memory)
    | .read _ size => memory.read (min piece size.toNat)
    | request => (responder reading).respond memory request

variable {reading : PathReading} {piece : Nat} {memory : Memory} {path : String} {place : Place}
  {contents : Bytes}

theorem keeper_describes (hlocate : reading.locate path = some place)
    (hheld : memory.held place = some (.file contents)) :
    (keeper reading piece).respond memory (.fileInfo path) =
      (.ok (Description.regular (UInt64.ofNat contents.length)).fields, memory) := by
  simp only [keeper, hlocate, describe, hheld]

theorem keeper_opensToRead (hlocate : reading.locate path = some place)
    (hheld : memory.held place = some (.file contents)) :
    (keeper reading piece).respond memory (.openFile path .readOnly) =
      (.ok ⟨1⟩, { memory with cursor := some ⟨place, .readOnly, 0⟩ }) := by
  simp only [keeper, hlocate, openToRead, hheld]

theorem keeper_reads (hpiece : 0 < piece) {handle : Handle} {size : UInt64} {position : Nat}
    (hopened : memory.opened handle = some ⟨place, .readOnly, position⟩)
    (hheld : memory.held place = some (.file contents)) (hposition : position < contents.length)
    (hsize : 0 < size.toNat) :
    ∃ data, data <+: contents.drop position ∧ data ≠ [] ∧ data.length ≤ size.toNat ∧
      handle = ⟨1⟩ ∧ (keeper reading piece).respond memory (.read handle size) =
        (.ok data,
          { memory with cursor := some ⟨place, .readOnly, position + data.length⟩ }) := by
  obtain ⟨hhandle, hcursor⟩ := opened_eq hopened
  let data := (contents.drop position).take (min piece size.toNat)
  have hlength : data.length = min (min piece size.toNat) (contents.length - position) := by
    rw [List.length_take, List.length_drop]
  refine ⟨data, List.take_prefix _ _, ?_, ?_, hhandle, ?_⟩
  · apply List.ne_nil_of_length_pos
    omega
  · omega
  · simp only [keeper, read, hcursor, hheld]
    rfl

end Memory

/-- A device that keeps its files in memory, opens one at a time and hands out a few bytes at once,
however many it is asked for. -/
def KeepingDevice.memory (reading : PathReading) {piece : Nat} (hpiece : 0 < piece) :
    KeepingDevice Memory where
  responder := Memory.keeper reading piece
  locate := reading.locate
  held := Memory.held
  opened := Memory.opened
  admits used := used ⟨1⟩ = none
  opens := (WritableDevice.memory reading).opens
  writes := (WritableDevice.memory reading).writes
  closes := (WritableDevice.memory reading).closes
  describes memory {path place contents} hlocate hheld hlength :=
    ⟨.regular (UInt64.ofNat contents.length), memory, Memory.keeper_describes hlocate hheld, rfl,
      rfl, rfl, rfl⟩
  opensToRead memory {path place contents} hlocate hheld hadmits :=
    ⟨⟨1⟩, { memory with cursor := some ⟨place, .readOnly, 0⟩ },
      Memory.keeper_opensToRead hlocate hheld, rfl, hadmits, rfl, memory.update_opened _ _⟩
  reads memory {handle size place position contents} hopened hheld hposition hsize := by
    obtain ⟨data, hdata, hne, hlength, rfl, hrespond⟩ :=
      Memory.keeper_reads hpiece hopened hheld hposition hsize
    exact ⟨data, { memory with cursor := some ⟨place, .readOnly, position + data.length⟩ }, hdata,
      hne, hlength, hrespond, rfl, memory.update_opened _ _⟩

end FileConduit

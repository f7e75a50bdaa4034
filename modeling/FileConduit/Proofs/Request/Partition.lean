import FileConduit.Proofs.Request.Chunk
import FileConduit.Proofs.Request.Frames
import Mathlib.Algebra.Order.BigOperators.Group.List
import Mathlib.Algebra.Order.Floor.Div

/-!
# Partition of a write

The chunks of a logical write partition its data: they are as many as the size of a chunk calls
for, and full but for the last one.  The length that each states for all of their frames together
is the sum of what the headers of the frames state, and nothing that is added up on the way leaves
the range of words.
-/

namespace FileConduit.WriteChunk

variable {size : Nat} {data : Bytes} {pieces : List Bytes}

/-! ## How many pieces there are -/

theorem count_of_pos (hsize : 0 < size) {length : Nat} (hlength : 0 < length) :
    count size length = count size (length - size) + 1 := by
  unfold count
  by_cases hmore : size ≤ length
  · have hsum : length + size - 1 = (length - size + size - 1) + size := by omega
    rw [hsum, Nat.add_div_right _ hsize]
  · have hnone : (length - size + size - 1) / size = 0 := Nat.div_eq_of_lt (by omega)
    have hone : length + size - 1 = (length - 1) + size := by omega
    rw [hnone, hone, Nat.add_div_right _ hsize, Nat.div_eq_of_lt (by omega)]

theorem length_split (hsize : 0 < size) (data : Bytes) :
    (split size data).length = count size data.length := by
  induction data using split_induction hsize with
  | hnil =>
      rw [split_nil, List.length_nil, count, List.length_nil, Nat.div_eq_of_lt (by omega)]
  | hpiece data hdata ih =>
      have hlength : 0 < data.length := List.length_pos_iff.mpr hdata
      rw [split_of_pos hsize hdata, List.length_cons, ih, List.length_drop,
        ← count_of_pos hsize hlength]

/-- Every piece has a byte, so there are no more pieces than bytes. -/
theorem count_le (hsize : 0 < size) (length : Nat) : count size length ≤ length := by
  induction length using Nat.strongRecOn with
  | ind length ih =>
      by_cases hlength : 0 < length
      · have hrest := ih (length - size) (by omega)
        rw [count_of_pos hsize hlength]
        omega
      · have hzero : length = 0 := by omega
        rw [hzero, count, Nat.div_eq_of_lt (by omega)]

/-- Every piece is full but the last one, which has a byte at least. -/
theorem split_full (hsize : 0 < size) (data : Bytes) :
    ∀ full last, split size data = full ++ [last] →
      (∀ piece ∈ full, piece.length = size) ∧ 0 < last.length ∧ last.length ≤ size := by
  induction data using split_induction hsize with
  | hnil =>
      intro full last hsplit
      rw [split_nil] at hsplit
      simp at hsplit
  | hpiece data hdata ih =>
      intro full last hsplit
      have hlength : 0 < data.length := List.length_pos_iff.mpr hdata
      rw [split_of_pos hsize hdata] at hsplit
      cases full with
      | nil =>
          obtain ⟨rfl, -⟩ := List.cons.inj hsplit
          rw [List.length_take]
          exact ⟨fun _ hpiece => (List.not_mem_nil hpiece).elim, by omega, by omega⟩
      | cons first full =>
          obtain ⟨rfl, hrest⟩ := List.cons.inj hsplit
          -- There is more behind the first piece, so it is full.
          have hmore : data.drop size ≠ [] := by
            intro hnil
            rw [hnil, split_nil] at hrest
            simp at hrest
          have hfirst : (data.take size).length = size := by
            have hdrop := List.length_pos_iff.mpr hmore
            rw [List.length_drop] at hdrop
            rw [List.length_take]
            omega
          obtain ⟨hfull, hlast⟩ := ih full last hrest
          exact ⟨List.forall_mem_cons.mpr ⟨hfirst, hfull⟩, hlast⟩

/-! ## Sums of words -/

/-- Where the piece ends that begins at an offset. -/
def finish (size : UInt64) (data : Bytes) (offset : UInt64) : UInt64 :=
  min (offset + size) (UInt64.ofNat data.length)

/-- The pieces that are taken off data from an offset on, by adding the size to the offset each
time.  No such sum leaves the range of words. -/
inductive TakenFrom (size : UInt64) (data : Bytes) : UInt64 → List Bytes → Prop where
  | ended {offset : UInt64} (hend : data.length ≤ offset.toNat) : TakenFrom size data offset []
  | piece {offset : UInt64} {pieces : List Bytes} (hmore : offset.toNat < data.length)
      (hword : offset.toNat + size.toNat ≤ 2 ^ 64 - 1)
      (hrest : TakenFrom size data (finish size data offset) pieces) :
      TakenFrom size data offset
        ((data.drop offset.toNat).take ((finish size data offset).toNat - offset.toNat) :: pieces)

theorem toNat_finish {size offset : UInt64} (hdata : data.length < 2 ^ 64)
    (hword : offset.toNat + size.toNat < 2 ^ 64) :
    (finish size data offset).toNat = min (offset.toNat + size.toNat) data.length := by
  rw [finish, UInt64.toNat_min, UInt64.toNat_add, Nat.mod_eq_of_lt hword,
    UInt64.toNat_ofNat_of_lt' hdata]

/-- The pieces of data are those that are taken from its start.  An offset within the data is its
start or has a whole piece before it; then the size is less than the data is long, and the next sum
is a word. -/
theorem split_taken {size : UInt64} (hsize : 0 < size.toNat) {data : Bytes}
    (hdata : data.length < 2 ^ 63) :
    ∀ (rest : Bytes) (offset : UInt64), rest = data.drop offset.toNat →
      (offset.toNat < data.length → offset.toNat = 0 ∨ size.toNat ≤ offset.toNat) →
      TakenFrom size data offset (split size.toNat rest) := by
  intro rest
  induction rest using split_induction hsize with
  | hnil =>
      intro offset hrest _
      rw [split_nil]
      exact .ended (List.drop_eq_nil_iff.mp hrest.symm)
  | hpiece rest hmore ih =>
      intro offset hrest hoffset
      have hlength : offset.toNat < data.length := by
        have hpos := List.length_pos_iff.mpr hmore
        rw [hrest, List.length_drop] at hpos
        omega
      have hword : offset.toNat + size.toNat < 2 ^ 64 := by
        have hsizeWord := size.toNat_lt
        have hwhole := hoffset hlength
        omega
      have hfinish : (finish size data offset).toNat =
          min (offset.toNat + size.toNat) data.length := toNat_finish (by omega) hword
      have hpiece : rest.take size.toNat = (data.drop offset.toNat).take
          ((finish size data offset).toNat - offset.toNat) := by
        rw [hrest, hfinish, List.take_eq_take_min, List.length_drop]
        congr 1
        omega
      have hnext : rest.drop size.toNat = data.drop (finish size data offset).toNat := by
        rw [hrest, List.drop_drop, hfinish]
        by_cases hwithin : offset.toNat + size.toNat ≤ data.length
        · rw [Nat.min_eq_left hwithin]
        · rw [List.drop_eq_nil_of_le (by omega), List.drop_eq_nil_of_le (by omega)]
      rw [split_of_pos hsize hmore, hpiece]
      exact .piece hlength (by omega) (ih _ hnext (by omega))

/-- With fewer than 2^58 bytes, 49 bytes for each of them still make a word. -/
theorem entireLengthOf_lt (hsize : 0 < size) {length : Nat} (hlength : length < 2 ^ 58) :
    entireLengthOf size length < 2 ^ 64 := by
  have hcount := count_le hsize length
  simp only [entireLengthOf, Header.size, Word.size]
  omega

/-! ## Lengths that headers state -/

theorem toNat_thisLength_frame {chunk : WriteChunk} (hdata : chunk.data.length < 2 ^ 63)
    (number : UInt64) :
    ((Request.write chunk).frame number).header.thisLength.toNat =
      Header.size + Word.size + chunk.data.length := by
  show ((Request.write chunk).header number).thisLength.toNat = _
  rw [Request.thisLength_header, Request.frameLength, Request.payloadLength, ← Nat.add_assoc]
  apply UInt64.toNat_ofNat_of_lt'
  rw [Header.size, Word.size, UInt64.size]
  omega

/-- The frames of chunks have a header and a handle each, and the data of the chunks. -/
theorem sum_thisLength (chunks : List WriteChunk) :
    ∀ number : UInt64, (∀ chunk ∈ chunks, chunk.data.length < 2 ^ 63) →
      ((Request.frames number (chunks.map Request.write)).map
          fun frame => frame.header.thisLength.toNat).sum =
        (Header.size + Word.size) * chunks.length + (chunks.flatMap WriteChunk.data).length := by
  induction chunks with
  | nil => exact fun _ _ => rfl
  | cons chunk chunks ih =>
      intro number hdata
      obtain ⟨hfirst, hrest⟩ := List.forall_mem_cons.mp hdata
      rw [List.map_cons, Request.frames, List.map_cons, List.sum_cons, ih _ hrest,
        toNat_thisLength_frame hfirst, List.flatMap_cons, List.length_append, List.length_cons,
        Nat.mul_succ]
      omega

/-- What the frames of chunks state as the length of all of them is what the chunks do. -/
theorem entireLength_of_mem_frames (chunks : List WriteChunk) (number : UInt64) {frame : Frame}
    (hframe : frame ∈ Request.frames number (chunks.map Request.write)) :
    ∃ chunk ∈ chunks, frame.header.entireLength = chunk.entireLength := by
  obtain ⟨place, hplace⟩ := List.getElem?_of_mem hframe
  rw [Request.getElem?_frames, List.getElem?_map, Option.map_map, Option.map_eq_some_iff] at hplace
  obtain ⟨chunk, hchunk, rfl⟩ := hplace
  exact ⟨chunk, List.mem_of_getElem? hchunk, rfl⟩

theorem flatMap_data_cut (handle : Handle) (hsize : 0 < size) (data : Bytes) :
    (cut handle size data).flatMap WriteChunk.data = data := by
  rw [cut, List.flatMap_map, List.flatMap_id', flatten_split hsize]

/-- The sum of what the headers of all frames state is what each chunk states. -/
theorem sum_thisLength_cut (handle : Handle) (hsize : 0 < size) (hdata : data.length < 2 ^ 63)
    (number : UInt64) :
    ((Request.frames number ((cut handle size data).map Request.write)).map
        fun frame => frame.header.thisLength.toNat).sum = entireLengthOf size data.length := by
  have hwhole := flatMap_data_cut handle hsize data
  have hparts : ∀ chunk ∈ cut handle size data, chunk.data.length < 2 ^ 63 := by
    intro chunk hchunk
    have hlength : chunk.data.length ≤ ((cut handle size data).map fun c => c.data.length).sum :=
      List.le_sum_of_mem (List.mem_map_of_mem hchunk)
    rw [← List.length_flatMap, hwhole] at hlength
    omega
  rw [sum_thisLength _ number hparts, hwhole, entireLengthOf, cut, List.length_map,
    length_split hsize]

/-- Data of fewer than 2^58 bytes is cut into as many chunks as its length takes, all of them full
but the last, and they are taken off it one behind the other by sums that are words.  Each states
the length of all their frames together, which is the sum of what the headers state. -/
theorem data_partitioned (handle : Handle) {size : UInt64} (hsize : 1 ≤ size.toNat) {data : Bytes}
    (hdata : data.length < 2 ^ 58) (number : UInt64) :
    ∃ chunks, ofData handle size.toNat data = .ok chunks ∧
      chunks.length = count size.toNat data.length ∧
      chunks.length = data.length ⌈/⌉ size.toNat ∧
      (∀ chunk ∈ chunks, chunk.handle = handle) ∧
      chunks.flatMap WriteChunk.data = data ∧
      (∀ full last, chunks = full ++ [last] →
        (∀ chunk ∈ full, chunk.data.length = size.toNat) ∧
          1 ≤ last.data.length ∧ last.data.length ≤ size.toNat) ∧
      TakenFrom size data 0 (chunks.map WriteChunk.data) ∧
      let frames := Request.frames number (chunks.map Request.write)
      let sum := (frames.map fun frame => frame.header.thisLength.toNat).sum
      entireLengthOf size.toNat data.length = sum ∧ sum ≤ 2 ^ 64 - 1 ∧
        (∀ chunk ∈ chunks, chunk.entireLength.toNat = sum) ∧
        ∀ frame ∈ frames, frame.header.entireLength.toNat = sum ∧
          frame.header.thisLength ≤ frame.header.entireLength ∧
          (frames.length = 1 → frame.header.thisLength = frame.header.entireLength) := by
  have hsum := sum_thisLength_cut handle hsize (show data.length < 2 ^ 63 by omega) number
  have hword := entireLengthOf_lt hsize hdata
  have hentire : ∀ chunk ∈ cut handle size.toNat data,
      chunk.entireLength.toNat = entireLengthOf size.toNat data.length := by
    intro chunk hchunk
    obtain ⟨piece, -, rfl⟩ := List.mem_map.mp hchunk
    exact UInt64.toNat_ofNat_of_lt' hword
  have hpieces : (cut handle size.toNat data).map WriteChunk.data = split size.toNat data := by
    rw [cut, List.map_map]
    exact List.map_id _
  have hlength : (cut handle size.toNat data).length = count size.toNat data.length := by
    rw [cut, List.length_map, length_split hsize]
  refine ⟨cut handle size.toNat data, ofData_cut handle hsize data, hlength, ?_, ?_,
    flatMap_data_cut handle hsize data, ?_, ?_, hsum.symm, by omega, by rwa [hsum],
    fun frame hframe => ?_⟩
  · rw [hlength, Nat.ceilDiv_eq_add_pred_div, count]
  · intro chunk hchunk
    obtain ⟨piece, -, rfl⟩ := List.mem_map.mp hchunk
    rfl
  · intro full last hchunks
    have hsplit := congrArg (List.map WriteChunk.data) hchunks
    rw [hpieces, List.map_append] at hsplit
    obtain ⟨hfull, hlast⟩ := split_full hsize data _ _ hsplit
    exact ⟨fun chunk hchunk => hfull _ (List.mem_map_of_mem hchunk), hlast⟩
  · rw [hpieces]
    exact split_taken hsize (by omega) data 0 List.drop_zero.symm fun _ => .inl rfl
  · obtain ⟨chunk, hchunk, hstated⟩ := entireLength_of_mem_frames _ number hframe
    have hthis := List.le_sum_of_mem
      (List.mem_map_of_mem (f := fun frame : Frame => frame.header.thisLength.toNat) hframe)
    have hwhole : frame.header.entireLength.toNat = entireLengthOf size.toNat data.length := by
      rw [hstated, hentire chunk hchunk]
    rw [hsum] at hthis ⊢
    refine ⟨hwhole, ?_, fun hsingle => ?_⟩
    · rw [UInt64.le_iff_toNat_le, hwhole]
      exact hthis
    · obtain ⟨only, honly⟩ := List.length_eq_one_iff.mp hsingle
      rw [honly, List.mem_singleton] at hframe
      rw [honly, List.map_singleton, List.sum_singleton, ← hframe] at hsum
      apply UInt64.toNat_inj.mp
      rw [hsum, hwhole]

/-- The widest chunk there is takes data whole, and no sum leaves the range of words. -/
theorem widest_partitioned :
    ∃ chunks, ofData ⟨7⟩ (0xffffffffffffffff : UInt64).toNat [1, 2, 3] = .ok chunks ∧
      chunks.length = 1 ∧
      TakenFrom 0xffffffffffffffff [1, 2, 3] 0 (chunks.map WriteChunk.data) ∧
      ∀ frame ∈ Request.frames 4 (chunks.map Request.write),
        frame.header.thisLength = frame.header.entireLength := by
  obtain ⟨chunks, hchunks, hcount, -, -, -, -, htaken, -, -, -, hframes⟩ :=
    data_partitioned ⟨7⟩ (show 1 ≤ (0xffffffffffffffff : UInt64).toNat by decide)
      (show [1, 2, 3].length < 2 ^ 58 by decide) 4
  have hone : chunks.length = 1 := hcount.trans (by decide)
  refine ⟨chunks, hchunks, hone, htaken, fun frame hframe => (hframes frame hframe).2.2 ?_⟩
  rw [Request.length_frames, List.length_map, hone]

end FileConduit.WriteChunk

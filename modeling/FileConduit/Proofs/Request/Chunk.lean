import FileConduit.Request.Chunk

/-!
# Chunks

The pieces into which data is cut are not empty, and together they are the data.
-/

namespace FileConduit.WriteChunk

variable {size : Nat} {handle : Handle} {data : Bytes} {chunks : List WriteChunk}

theorem split_nil (size : Nat) : split size [] = [] := by
  rw [split, dif_pos (.inr rfl)]

theorem split_of_pos (hsize : 0 < size) (hdata : data ≠ []) :
    split size data = data.take size :: split size (data.drop size) := by
  have hlength : data.length ≠ 0 := by
    simpa using hdata
  rw [split, dif_neg (by omega)]

/-- Induction along the pieces of data. -/
theorem split_induction (hsize : 0 < size) {motive : Bytes → Prop} (hnil : motive [])
    (hpiece : ∀ data, data ≠ [] → motive (data.drop size) → motive data) :
    ∀ data, motive data := by
  intro data
  induction hlength : data.length using Nat.strongRecOn generalizing data with
  | ind length ih =>
      by_cases hdata : data = []
      · rw [hdata]
        exact hnil
      · apply hpiece data hdata
        have hpos : 0 < data.length := List.length_pos_iff.mpr hdata
        apply ih (data.drop size).length _ _ rfl
        rw [List.length_drop]
        omega

theorem flatten_split (hsize : 0 < size) (data : Bytes) : (split size data).flatten = data := by
  induction data using split_induction hsize with
  | hnil => rw [split_nil, List.flatten_nil]
  | hpiece data hdata ih =>
      rw [split_of_pos hsize hdata, List.flatten_cons, ih, List.take_append_drop]

theorem ne_nil_of_mem_split (hsize : 0 < size) (data : Bytes) :
    ∀ piece ∈ split size data, piece ≠ [] := by
  induction data using split_induction hsize with
  | hnil => simp [split_nil]
  | hpiece data hdata ih =>
      rw [split_of_pos hsize hdata]
      intro piece hpiece
      rcases List.mem_cons.mp hpiece with rfl | hpiece
      · have hpos : 0 < data.length := List.length_pos_iff.mpr hdata
        apply List.ne_nil_of_length_pos
        rw [List.length_take]
        omega
      · exact ih piece hpiece

/-- The first pieces are the front of the data. -/
theorem flatten_take_split (hsize : 0 < size) (data : Bytes) :
    ∀ count, ((split size data).take count).flatten = data.take (count * size) := by
  induction data using split_induction hsize with
  | hnil => simp [split_nil]
  | hpiece data hdata ih =>
      intro count
      cases count with
      | zero => simp
      | succ count =>
          rw [split_of_pos hsize hdata, List.take_succ_cons, List.flatten_cons, ih,
            Nat.succ_mul, Nat.add_comm (count * size) size, List.take_add]

/-! ## Chunks of a logical write -/

def cut (handle : Handle) (size : Nat) (data : Bytes) : List WriteChunk :=
  (split size data).map fun piece =>
    ⟨handle, piece, UInt64.ofNat (entireLengthOf size data.length)⟩

theorem ofData_cut (handle : Handle) (hsize : 0 < size) (data : Bytes) :
    ofData handle size data = .ok (cut handle size data) := by
  rw [ofData, if_neg (by omega), cut]

/-- The first chunks hold the front of the data. -/
theorem data_take_cut (handle : Handle) (hsize : 0 < size) (data : Bytes) (count : Nat) :
    ((cut handle size data).take count).flatMap WriteChunk.data =
      data.take (min (count * size) data.length) := by
  rw [cut, ← List.map_take, List.flatMap_map, List.flatMap_id', flatten_take_split hsize,
    ← List.take_eq_take_min]

/-- The chunks of a logical write: none is empty, and together they hold the data. -/
theorem ofData_eq (handle : Handle) (hsize : 0 < size) (data : Bytes) :
    ∃ chunks, ofData handle size data = .ok chunks ∧
      chunks.flatMap WriteChunk.data = data ∧
      ∀ chunk ∈ chunks, chunk.handle = handle ∧ chunk.data ≠ [] := by
  refine ⟨_, by rw [ofData, if_neg (by omega)], ?_, ?_⟩
  · rw [List.flatMap_map, List.flatMap_id']
    exact flatten_split hsize data
  · intro chunk hchunk
    obtain ⟨piece, hpiece, rfl⟩ := List.mem_map.mp hchunk
    exact ⟨rfl, ne_nil_of_mem_split hsize data piece hpiece⟩

end FileConduit.WriteChunk

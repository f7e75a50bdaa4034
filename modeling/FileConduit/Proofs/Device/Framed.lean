import FileConduit.Proofs.Client.Fetching
import FileConduit.Proofs.Client.Storing
import FileConduit.Proofs.Session.Framing

/-!
# A device in memory answers in frames

What a device answers that keeps its files in memory can be read out of frames of a few hundred
bytes, whatever it holds.
-/

namespace FileConduit.Memory

variable {config : ClientConfig} {request : Request}

theorem framed_missing (hlimit : 48 ≤ config.maxFrameLength.toNat)
    (hremove : request.operation ≠ .removePath) :
    request.Framed config (.error (.status .objectNotFound)) :=
  Request.framed_refusal 8 hlimit hremove rfl rfl

theorem framed_invalid (hlimit : 48 ≤ config.maxFrameLength.toNat)
    (hremove : request.operation ≠ .removePath) :
    request.Framed config (.error (.status .invalidArgument)) :=
  Request.framed_refusal 7 hlimit hremove rfl rfl

theorem storing_framed (hlimit : 48 ≤ config.maxFrameLength.toNat) (reading : PathReading)
    (memory : Memory) (hstoring : request.Storing) :
    request.Framed config ((responder reading).respond memory request).1 := by
  cases hstoring with
  | openFile path =>
      simp only [responder]
      cases reading.locate path with
      | none => exact framed_missing hlimit (by simp [Request.operation])
      | some place =>
          simp only [openFile]
          split
          · exact Request.framed_handle path .writeOnly ⟨1⟩ hlimit
          · exact Request.framed_handle path .writeOnly ⟨1⟩ hlimit
          · exact framed_missing hlimit (by simp [Request.operation])
  | write chunk =>
      have hinvalid : (Request.write chunk).Framed config (.error (.status .invalidArgument)) :=
        framed_invalid hlimit (by simp [Request.operation])
      simp only [responder, write]
      split
      · exact hinvalid
      · split
        · exact Request.framed_write chunk hlimit
        · exact hinvalid
  | close handle => exact Request.framed_close handle hlimit

/-- The description of a file is framed, however large the file is. -/
theorem regular_framed (path : String) (size : UInt64)
    (hlimit : 256 ≤ config.maxFrameLength.toNat) :
    (Request.fileInfo path).Framed config (.ok (Description.regular size).fields) := by
  let texts : List String := ["st_ifmt", "S_IFREG", "st_size", size.toNat.repr]
  have hnul : '\x00' ∉ size.toNat.repr.toList := fun hmem => by
    cases Decimal.isDigit_of_mem_repr hmem
  have htexts : ∀ text ∈ texts, '\x00' ∉ text.toList := by
    simp only [texts, List.forall_mem_cons]
    exact ⟨by decide, by decide, by decide, hnul, by simp⟩
  have hlength : (StringList.encode texts).length = 25 + size.toNat.repr.utf8ByteSize := by
    have hnone : (StringList.encode []).length = 0 := rfl
    simp only [texts, StringList.length_encode_cons, hnone, StringList.terminatedLength,
      show "st_ifmt".utf8ByteSize = 7 by decide, show "S_IFREG".utf8ByteSize = 7 by decide,
      show "st_size".utf8ByteSize = 7 by decide]
    omega
  have hnumeral := Decimal.length_repr_le size
  have hbytes := Text.utf8ByteSize_le size.toNat.repr
  have hsize : Header.size + (StringList.encode texts).length ≤ config.maxFrameLength.toNat := by
    rw [hlength, Header.size]
    omega
  have hcarried : (Request.fileInfo path).Carried config (.ok (Description.regular size).fields) :=
    Request.carried_fields path rfl htexts hsize
  exact hcarried

theorem describe_framed (hlimit : 256 ≤ config.maxFrameLength.toNat) (path : String)
    (memory : Memory) (place : Place) :
    (Request.fileInfo path).Framed config (memory.describe place) := by
  rw [describe]
  split
  · refine Request.carried_fields path rfl (by decide) (Nat.le_trans ?_ hlimit)
    decide
  · exact regular_framed path _ hlimit
  · exact framed_missing (by omega) (by simp [Request.operation])

/-- Reads bring no more than the device hands out at once, or than they ask for. -/
theorem read_framed {piece : Nat} (hlimit : 256 ≤ config.maxFrameLength.toNat)
    (hpiece : piece ≤ 128) (memory : Memory) (handle : Handle) (size : UInt64) :
    (Request.read handle size).Framed config (memory.read (min piece size.toNat)).1 := by
  have hinvalid : (Request.read handle size).Framed config (.error (.status .invalidArgument)) :=
    framed_invalid (by omega) (by simp [Request.operation])
  rw [read]
  split
  · exact hinvalid
  · rename_i cursor _
    split
    · rename_i contents _
      have hlength : ((contents.drop cursor.position).take (min piece size.toNat)).length ≤
          min piece size.toNat := List.length_take_le _ _
      apply Request.framed_data
      · omega
      · rw [Header.size]
        omega
    · exact hinvalid

theorem keeper_framed {piece : Nat} (hlimit : 256 ≤ config.maxFrameLength.toNat)
    (hpiece : piece ≤ 128) (reading : PathReading) (memory : Memory)
    (hasked : request.Storing ∨ request.Fetching config) :
    request.Framed config ((keeper reading piece).respond memory request).1 := by
  have hshort : 48 ≤ config.maxFrameLength.toNat := by omega
  rcases hasked with hstoring | hfetching
  · have hframed := storing_framed hshort reading memory hstoring
    cases hstoring <;> exact hframed
  · cases hfetching with
    | fileInfo path =>
        simp only [keeper]
        cases reading.locate path with
        | none => exact framed_missing hshort (by simp [Request.operation])
        | some place => exact describe_framed hlimit path memory place
    | openFile path =>
        simp only [keeper]
        cases reading.locate path with
        | none => exact framed_missing hshort (by simp [Request.operation])
        | some place =>
            simp only [openToRead]
            split
            · exact Request.framed_handle path .readOnly ⟨1⟩ hshort
            · exact framed_missing hshort (by simp [Request.operation])
    | read handle hsize => exact read_framed hlimit hpiece memory handle _
    | close handle => exact Request.framed_close handle hshort

end FileConduit.Memory

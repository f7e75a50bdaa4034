import FileConduit.Proofs.Wire.Fields
import Mathlib.Data.Set.Function

/-!
# Headers and their bytes

Forty bytes and the header that they hold determine each other.  A header is read back whatever
follows it; bytes are read as a header just when they are long enough, open with the magic and
state a length of forty at least, and what has been read is written as these bytes again.  No
operation is lost on the way, also when the protocol has no name for its number.
-/

namespace FileConduit

namespace Operation

theorem ofNumber_number_iff {operation : Operation} :
    ofNumber operation.number = operation ↔ operation ∈ Set.range ofNumber := by
  constructor
  · exact fun hread => ⟨operation.number, hread⟩
  · rintro ⟨number, rfl⟩
    rw [number_ofNumber]

/-- The numbers without a name are the gap in the table and all that follow it. -/
theorem ofNumber_eq_other_iff (number : UInt64) :
    ofNumber number = .other number ↔ number = 0x1d ∨ 0x1e < number := by
  rw [← UInt64.toNat_inj, UInt64.lt_iff_toNat_lt]
  have hgap : (0x1d : UInt64).toNat = 0x1d := rfl
  have htop : (0x1e : UInt64).toNat = 0x1e := rfl
  rw [hgap, htop]
  unfold ofNumber
  split
  -- The last case is that of all the numbers that are not in the table.
  case h_31 => grind
  all_goals
    rename_i hvalue
    rw [hvalue]
    simp

theorem other_mem_range_iff (number : UInt64) :
    other number ∈ Set.range ofNumber ↔ number = 0x1d ∨ 0x1e < number := by
  rw [← ofNumber_number_iff]
  exact ofNumber_eq_other_iff number

end Operation

namespace Header

/-- Headers that can stand in front of a frame: the frame is no shorter than its header, and its
operation is one that a number stands for. -/
structure WellFormed (header : Header) : Prop where
  covers : 40 ≤ header.thisLength.toNat
  numbered : header.operation ∈ Set.range Operation.ofNumber

/-- Bytes that hold a header: the magic, most significant byte first, and further on a length of
forty at least. -/
structure Readable (bytes : Bytes) : Prop where
  long : 40 ≤ bytes.length
  marked : bytes.take 8 = magic
  covers : 40 ≤ (Word.ofLittleEndian ((bytes.drop 16).take 8)).toNat

inductive Unreadable (bytes : Bytes) : FramingError → Prop where
  | short (hlength : bytes.length < 40) :
      Unreadable bytes (.truncatedHeader (UInt64.ofNat bytes.length))
  | unmarked (hlong : 40 ≤ bytes.length) (hfront : bytes.take 8 ≠ magic) :
      Unreadable bytes .badMagic
  | uncovered (hlong : 40 ≤ bytes.length) (hfront : bytes.take 8 = magic)
      (hstated : (Word.ofLittleEndian ((bytes.drop 16).take 8)).toNat < 40) :
      Unreadable bytes (.truncatedHeader (Word.ofLittleEndian ((bytes.drop 16).take 8)))

variable {header : Header} {bytes : Bytes}

theorem Readable.opens (hbytes : Readable bytes) : Opens bytes :=
  ⟨hbytes.long, hbytes.marked⟩

theorem wellFormed_ofFields (hbytes : Readable bytes) : (ofFields bytes).WellFormed :=
  ⟨hbytes.covers, field bytes 32, rfl⟩

theorem decode_readable (hbytes : Readable bytes) : decode bytes = .ok (ofFields bytes) := by
  rw [decode_of_opens hbytes.opens]
  exact if_neg (Nat.not_lt.mpr hbytes.covers)

theorem decode_unreadable {error : FramingError} (hbytes : Unreadable bytes error) :
    decode bytes = .error error := by
  cases hbytes with
  | short hlength => exact if_pos hlength
  | unmarked hlong hfront => exact (if_neg (Nat.not_lt.mpr hlong)).trans (if_pos hfront)
  | uncovered hlong hfront hstated =>
      rw [decode_of_opens ⟨hlong, hfront⟩]
      exact if_pos hstated

/-- Bytes either hold a header or fail one of the checks first. -/
theorem readable_or_unreadable (bytes : Bytes) :
    Readable bytes ∨ ∃ error, Unreadable bytes error := by
  by_cases hlong : 40 ≤ bytes.length
  · by_cases hfront : bytes.take 8 = magic
    · by_cases hstated : 40 ≤ (Word.ofLittleEndian ((bytes.drop 16).take 8)).toNat
      · exact .inl ⟨hlong, hfront, hstated⟩
      · exact .inr ⟨_, .uncovered hlong hfront (Nat.not_le.mp hstated)⟩
    · exact .inr ⟨_, .unmarked hlong hfront⟩
  · exact .inr ⟨_, .short (Nat.not_le.mp hlong)⟩

theorem decode_eq_ok_iff :
    decode bytes = .ok header ↔ Readable bytes ∧ ofFields bytes = header := by
  rcases readable_or_unreadable bytes with hbytes | ⟨error, herror⟩
  · rw [decode_readable hbytes, Except.ok.injEq]
    exact ⟨fun hheader => ⟨hbytes, hheader⟩, And.right⟩
  · rw [decode_unreadable herror]
    constructor
    · intro hread
      cases hread
    · rintro ⟨hbytes, -⟩
      have hread := (decode_readable hbytes).symm.trans (decode_unreadable herror)
      cases hread

theorem decode_eq_error_iff {error : FramingError} :
    decode bytes = .error error ↔ Unreadable bytes error := by
  constructor
  · intro hrefused
    rcases readable_or_unreadable bytes with hbytes | ⟨cause, hcause⟩
    · rw [decode_readable hbytes] at hrefused
      cases hrefused
    · rw [decode_unreadable hcause, Except.error.injEq] at hrefused
      exact hrefused ▸ hcause
  · exact decode_unreadable

theorem exists_decode_eq_ok_iff : (∃ header, decode bytes = .ok header) ↔ Readable bytes := by
  constructor
  · rintro ⟨header, hread⟩
    exact (decode_eq_ok_iff.mp hread).1
  · exact fun hbytes => ⟨_, decode_readable hbytes⟩

theorem WellFormed.read_back (hheader : header.WellFormed) (more : Bytes) :
    decode (header.encode ++ more) = .ok header :=
  decode_encode hheader.covers (Operation.ofNumber_number_iff.mpr hheader.numbered) more

theorem WellFormed.readable_encode (hheader : header.WellFormed) : Readable header.encode := by
  have hread := hheader.read_back []
  rw [List.append_nil] at hread
  exact (decode_eq_ok_iff.mp hread).1

theorem encode_of_decode (hread : decode bytes = .ok header) :
    header.WellFormed ∧ header.encode = bytes.take 40 := by
  obtain ⟨hbytes, rfl⟩ := decode_eq_ok_iff.mp hread
  exact ⟨wellFormed_ofFields hbytes, encode_ofFields hbytes.opens⟩

theorem encode_bijOn :
    Set.BijOn encode {header | header.WellFormed} {bytes | bytes.length = 40 ∧ Readable bytes} := by
  refine ⟨?_, ?_, ?_⟩
  · intro header hheader
    exact ⟨length_encode header, hheader.readable_encode⟩
  · intro first hfirst second hsecond hbytes
    exact eq_of_encode (Operation.ofNumber_number_iff.mpr hfirst.numbered)
      (Operation.ofNumber_number_iff.mpr hsecond.numbered) hbytes
  · rintro bytes ⟨hlength, hbytes⟩
    refine ⟨ofFields bytes, wellFormed_ofFields hbytes, ?_⟩
    rw [encode_ofFields hbytes.opens]
    exact List.take_of_length_le (Nat.le_of_eq hlength)

/-- The headers that can stand in front of a frame, those with numbers that the protocol does not
name among them, and the forty bytes that hold one correspond one to one.  A header is read back
from its bytes whatever follows them.  Reading succeeds just on the bytes that hold a header, and
writing what was read gives the first forty of them; otherwise the first check that fails gives
the error. -/
theorem headers_match_bytes :
    magic = [0x43, 0x46, 0x41, 0x36, 0x4C, 0x50, 0x41, 0x41] ∧
      Set.BijOn encode {header | header.WellFormed} {bytes | bytes.length = 40 ∧ Readable bytes} ∧
      (∀ number, .other number ∈ Set.range Operation.ofNumber ↔ number = 0x1d ∨ 0x1e < number) ∧
      (∀ header : Header, header.WellFormed → ∀ more,
        decode (header.encode ++ more) = .ok header) ∧
      ∀ bytes,
        ((∃ header, decode bytes = .ok header) ↔ Readable bytes) ∧
          (∀ header, decode bytes = .ok header →
            header.WellFormed ∧ header.encode = bytes.take 40) ∧
          ∀ error, decode bytes = .error error ↔ Unreadable bytes error := by
  refine ⟨by decide, encode_bijOn, Operation.other_mem_range_iff, fun header hheader more => ?_,
    fun bytes => ⟨exists_decode_eq_ok_iff, fun header hread => ?_, fun error => ?_⟩⟩
  · exact hheader.read_back more
  · exact encode_of_decode hread
  · exact decode_eq_error_iff

/-- A header whose operation has no name is read back with it, unless it states too little. -/
theorem unnamed_read_back :
    WellFormed ⟨88, 48, 7, .other 0x1d⟩ ∧
      decode (encode ⟨88, 48, 7, .other 0x1d⟩ ++ [0, 1]) = .ok ⟨88, 48, 7, .other 0x1d⟩ ∧
      decode (encode ⟨88, 39, 7, .other 0x1d⟩) = .error (.truncatedHeader 39) := by
  obtain ⟨-, -, hother, hread, hbytes⟩ := headers_match_bytes
  have hheader : WellFormed ⟨88, 48, 7, .other 0x1d⟩ := ⟨by decide, (hother 0x1d).mpr (.inl rfl)⟩
  refine ⟨hheader, hread _ hheader [0, 1], ((hbytes _).2.2 _).mpr ?_⟩
  exact .uncovered (by decide) (by decide) (by decide)

end Header

end FileConduit

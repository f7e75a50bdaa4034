import FileConduit.Wire.Frame

/-!
# The fields of a header

A header that opens with the magic is its four fields: they are written back as they stand, and a
header that was written is read back, whatever follows it.  By these fields alone the front of a
buffer is judged.
-/

namespace FileConduit

namespace Header

/-- Whether bytes hold a header's worth of bytes that open with the magic. -/
def Opens (bytes : Bytes) : Prop :=
  size ≤ bytes.length ∧ bytes.take Word.size = magic

def statedLength (bytes : Bytes) : UInt64 :=
  field bytes 16

def ofFields (bytes : Bytes) : Header where
  entireLength := field bytes 8
  thisLength := statedLength bytes
  packetNumber := field bytes 24
  operation := .ofNumber (field bytes 32)

variable {bytes : Bytes}

theorem thisLength_ofFields (bytes : Bytes) :
    (ofFields bytes).thisLength = statedLength bytes :=
  rfl

theorem decode_of_opens (hopens : Opens bytes) :
    decode bytes = if (statedLength bytes).toNat < size then
      .error (.truncatedHeader (statedLength bytes)) else .ok (ofFields bytes) := by
  have hsize : ¬ bytes.length < size := by
    have := hopens.1
    omega
  rw [decode, if_neg hsize, if_neg (not_not_intro hopens.2)]
  rfl

theorem field_take {count offset : Nat} (hoffset : offset + Word.size ≤ count) (bytes : Bytes) :
    field (bytes.take count) offset = field bytes offset := by
  rw [field, field, List.drop_take, List.take_take, Nat.min_eq_left (by omega)]

/-- A header is read from its own bytes alone. -/
theorem decode_take (hsize : size ≤ bytes.length) : decode (bytes.take size) = decode bytes := by
  have hlength : (bytes.take size).length = size := by
    rw [List.length_take]
    omega
  have hmagic : (bytes.take size).take Word.size = bytes.take Word.size := by
    rw [List.take_take, Nat.min_eq_left (by decide)]
  simp only [decode, hlength, hmagic, field_take (show 8 + Word.size ≤ size by decide),
    field_take (show 16 + Word.size ≤ size by decide),
    field_take (show 24 + Word.size ≤ size by decide),
    field_take (show 32 + Word.size ≤ size by decide), Nat.lt_irrefl, if_false,
    if_neg (Nat.not_lt.mpr hsize)]

theorem field_append_of_le {offset : Nat} (hoffset : offset + Word.size ≤ bytes.length)
    (more : Bytes) : field (bytes ++ more) offset = field bytes offset := by
  have hfield : Word.size ≤ (bytes.drop offset).length := by
    rw [List.length_drop]
    omega
  rw [field, field, List.drop_append_of_le_length (by omega),
    List.take_append_of_le_length hfield]

theorem littleEndian_field {offset : Nat} (hoffset : offset + 8 ≤ bytes.length) :
    Word.littleEndian (field bytes offset) = (bytes.drop offset).take 8 := by
  apply Word.littleEndian_ofLittleEndian
  rw [List.length_take, List.length_drop, Word.size]
  omega

/-- The fields of a header that opens with the magic are written back as they stand. -/
theorem encode_ofFields (hopens : Opens bytes) : (ofFields bytes).encode = bytes.take size := by
  have hsize : 40 ≤ bytes.length := hopens.1
  calc
    (ofFields bytes).encode =
      bytes.take 8 ++ (bytes.drop 8).take 8 ++ (bytes.drop 16).take 8 ++ (bytes.drop 24).take 8 ++
        (bytes.drop 32).take 8 := by
        rw [encode, ← hopens.2, ofFields, statedLength, Operation.number_ofNumber,
          littleEndian_field (by omega), littleEndian_field (by omega),
          littleEndian_field (by omega), littleEndian_field (by omega), Word.size]
    _ = bytes.take size := by
        simp only [← List.take_add, size]

/-! ## Bytes behind a header -/

theorem Opens.append (hopens : Opens bytes) (more : Bytes) : Opens (bytes ++ more) := by
  obtain ⟨hsize, hmagic⟩ := hopens
  have hword : Word.size ≤ bytes.length := Nat.le_trans (by decide) hsize
  constructor
  · rw [List.length_append]
    omega
  · rw [List.take_append_of_le_length hword, hmagic]

theorem statedLength_append (hopens : Opens bytes) (more : Bytes) :
    statedLength (bytes ++ more) = statedLength bytes :=
  field_append_of_le (Nat.le_trans (by decide) hopens.1) more

theorem ofFields_append (hopens : Opens bytes) (more : Bytes) :
    ofFields (bytes ++ more) = ofFields bytes := by
  have hfield : ∀ offset, offset + Word.size ≤ size →
      field (bytes ++ more) offset = field bytes offset := fun offset hoffset =>
    field_append_of_le (Nat.le_trans hoffset hopens.1) more
  rw [ofFields, ofFields, statedLength_append hopens, hfield 8 (by decide), hfield 24 (by decide),
    hfield 32 (by decide)]

/-! ## Headers that were written -/

theorem length_magic : magic.length = Word.size :=
  Word.length_bigEndian _

theorem field_append {front rest : Bytes} (hfront : front.length = Word.size) (offset : Nat) :
    field (front ++ rest) (Word.size + offset) = field rest offset := by
  rw [field, ← List.drop_drop, List.drop_left' hfront]
  rfl

theorem field_word (word : UInt64) (rest : Bytes) :
    field (Word.littleEndian word ++ rest) 0 = word := by
  have hlength : (Word.littleEndian word).length = Word.size := Word.length_littleEndian word
  rw [field, List.drop_zero, List.take_left' hlength, Word.ofLittleEndian_littleEndian]

theorem opens_encode (header : Header) (more : Bytes) : Opens (header.encode ++ more) := by
  constructor
  · rw [List.length_append, length_encode]
    omega
  · simp only [encode, List.append_assoc]
    exact List.take_left' length_magic

/-- The fields stand in the bytes of a header in their order. -/
theorem ofFields_encode {header : Header}
    (hoperation : .ofNumber header.operation.number = header.operation) (more : Bytes) :
    ofFields (header.encode ++ more) = header := by
  have hword : ∀ word : UInt64, (Word.littleEndian word).length = Word.size :=
    Word.length_littleEndian
  have hbytes : header.encode ++ more = magic ++ (Word.littleEndian header.entireLength ++
      (Word.littleEndian header.thisLength ++ (Word.littleEndian header.packetNumber ++
        (Word.littleEndian header.operation.number ++ more)))) := by
    simp only [encode, List.append_assoc]
  have hentire : field (header.encode ++ more) 8 = header.entireLength := by
    rw [hbytes, show 8 = Word.size + 0 from rfl, field_append length_magic, field_word]
  have hthis : field (header.encode ++ more) 16 = header.thisLength := by
    rw [hbytes, show 16 = Word.size + (Word.size + 0) from rfl, field_append length_magic,
      field_append (hword _), field_word]
  have hnumber : field (header.encode ++ more) 24 = header.packetNumber := by
    rw [hbytes, show 24 = Word.size + (Word.size + (Word.size + 0)) from rfl,
      field_append length_magic, field_append (hword _), field_append (hword _), field_word]
  have hcode : field (header.encode ++ more) 32 = header.operation.number := by
    rw [hbytes, show 32 = Word.size + (Word.size + (Word.size + (Word.size + 0))) from rfl,
      field_append length_magic, field_append (hword _), field_append (hword _),
      field_append (hword _), field_word]
  rw [ofFields, statedLength, hentire, hthis, hnumber, hcode, hoperation]

/-- A header is read back from the front of any bytes. -/
theorem decode_encode {header : Header} (hlength : size ≤ header.thisLength.toNat)
    (hoperation : .ofNumber header.operation.number = header.operation) (more : Bytes) :
    decode (header.encode ++ more) = .ok header := by
  have hfields := ofFields_encode hoperation more
  have hstated : statedLength (header.encode ++ more) = header.thisLength := by
    rw [← thisLength_ofFields, hfields]
  rw [decode_of_opens (opens_encode header more), hstated, hfields, if_neg (by omega)]

/-- Headers with the same bytes are the same. -/
theorem eq_of_encode {first second : Header}
    (hfirst : .ofNumber first.operation.number = first.operation)
    (hsecond : .ofNumber second.operation.number = second.operation)
    (hbytes : first.encode = second.encode) : first = second := by
  calc
    first = ofFields (first.encode ++ []) := (ofFields_encode hfirst []).symm
    _ = ofFields (second.encode ++ []) := by rw [hbytes]
    _ = second := ofFields_encode hsecond []

end Header

/-! ## How the front of a buffer is judged -/

namespace Frame

open Header

variable {limit : UInt64} {bytes : Bytes}

/-- What the bytes at the front hold, by the fields of the header that stands there. -/
theorem next_eq (limit : UInt64) (bytes : Bytes) :
    next limit bytes =
      if bytes.length < size then .wait
      else if bytes.take Word.size ≠ magic then .refused .badMagic
      else if (statedLength bytes).toNat < size then
        .refused (.truncatedHeader (statedLength bytes))
      else if limit < statedLength bytes then .refused (.oversizedFrame (statedLength bytes))
      else if bytes.length < (statedLength bytes).toNat then .wait
      else .frame ⟨ofFields bytes, (bytes.take (statedLength bytes).toNat).drop size⟩
        (bytes.drop (statedLength bytes).toNat) := by
  by_cases hsize : bytes.length < size
  · rw [next, if_pos hsize, if_pos hsize]
  · rw [next, if_neg hsize, if_neg hsize, decode_take (Nat.le_of_not_lt hsize)]
    by_cases hmagic : bytes.take Word.size = magic
    · rw [decode_of_opens ⟨Nat.le_of_not_lt hsize, hmagic⟩, if_neg (not_not_intro hmagic)]
      by_cases hstated : (statedLength bytes).toNat < size
      · rw [if_pos hstated, if_pos hstated]
      · rw [if_neg hstated, if_neg hstated]
        rfl
    · rw [decode, if_neg hsize, if_pos hmagic, if_pos hmagic]

theorem next_eq_wait_iff : next limit bytes = .wait ↔
    bytes.length < size ∨ Opens bytes ∧ size ≤ (statedLength bytes).toNat ∧
      statedLength bytes ≤ limit ∧ bytes.length < (statedLength bytes).toNat := by
  rw [next_eq, Opens, ← UInt64.not_lt]
  grind

theorem next_eq_badMagic_iff : next limit bytes = .refused .badMagic ↔
    size ≤ bytes.length ∧ bytes.take Word.size ≠ magic := by
  rw [next_eq]
  grind

theorem next_eq_truncatedHeader_iff {length : UInt64} :
    next limit bytes = .refused (.truncatedHeader length) ↔
      Opens bytes ∧ statedLength bytes = length ∧ length.toNat < size := by
  rw [next_eq, Opens]
  grind

theorem next_eq_oversizedFrame_iff {length : UInt64} :
    next limit bytes = .refused (.oversizedFrame length) ↔
      Opens bytes ∧ statedLength bytes = length ∧ size ≤ length.toNat ∧ limit < length := by
  rw [next_eq, Opens]
  grind

theorem next_eq_frame_iff {frame : Frame} {rest : Bytes} :
    next limit bytes = .frame frame rest ↔
      Opens bytes ∧ size ≤ (statedLength bytes).toNat ∧ statedLength bytes ≤ limit ∧
        (statedLength bytes).toNat ≤ bytes.length ∧
        frame = ⟨ofFields bytes, (bytes.take (statedLength bytes).toNat).drop size⟩ ∧
        rest = bytes.drop (statedLength bytes).toNat := by
  rw [next_eq, Opens, ← UInt64.not_lt]
  grind

end Frame

end FileConduit

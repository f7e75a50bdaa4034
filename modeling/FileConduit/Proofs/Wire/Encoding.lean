import FileConduit.Proofs.Wire.Fields
import FileConduit.Wire.InfoDictionary

/-!
# What is read back

A frame whose header states its length is read back as it was written, whatever follows.  Strings
without a NUL are read back from their list, and so are the pairs of a dictionary.
-/

namespace FileConduit

namespace Frame

theorem encode_ne_nil (frame : Frame) : frame.encode ≠ [] := by
  intro hnil
  have hlength := congrArg List.length hnil
  rw [encode, List.length_append, Header.length_encode, Header.size] at hlength
  simp at hlength

/-- A frame whose header states its length is taken off the front of any bytes. -/
theorem next_encode {frame : Frame} {limit : UInt64} (hlimit : frame.header.thisLength ≤ limit)
    (hlength : frame.header.thisLength.toNat = Header.size + frame.payload.length)
    (hoperation : .ofNumber frame.header.operation.number = frame.header.operation)
    (more : Bytes) : next limit (frame.encode ++ more) = .frame frame more := by
  have hencode : frame.encode.length = frame.header.thisLength.toNat := by
    rw [encode, List.length_append, Header.length_encode, hlength]
  have hbytes : frame.encode ++ more = frame.header.encode ++ (frame.payload ++ more) :=
    List.append_assoc _ _ _
  have hfields : Header.ofFields (frame.encode ++ more) = frame.header := by
    rw [hbytes, Header.ofFields_encode hoperation]
  have hstated : Header.statedLength (frame.encode ++ more) = frame.header.thisLength := by
    rw [← Header.thisLength_ofFields, hfields]
  rw [next_eq_frame_iff, hstated, hfields]
  refine ⟨?_, by omega, hlimit, ?_, ?_, ?_⟩
  · rw [hbytes]
    exact Header.opens_encode _ _
  · rw [List.length_append]
    omega
  · rw [List.take_left' hencode, encode, List.drop_left' (Header.length_encode _)]
  · rw [List.drop_left' hencode]

theorem toNat_thisLength_single (operation : Operation) (payload : Bytes) (number : UInt64)
    (hsize : Header.size + payload.length < UInt64.size) :
    (single operation payload number).header.thisLength.toNat = Header.size + payload.length := by
  show (UInt64.ofNat Header.size + UInt64.ofNat payload.length).toNat = _
  rw [← UInt64.ofNat_add, UInt64.toNat_ofNat']
  exact Nat.mod_eq_of_lt hsize

theorem next_single {operation : Operation} {payload : Bytes} {limit number : UInt64}
    (hoperation : .ofNumber operation.number = operation)
    (hsize : Header.size + payload.length ≤ limit.toNat) (more : Bytes) :
    next limit ((single operation payload number).encode ++ more) =
      .frame (single operation payload number) more := by
  have hlimit := limit.toNat_lt_size
  have hlength := toNat_thisLength_single operation payload number (by omega)
  refine next_encode ?_ hlength hoperation more
  rw [UInt64.le_iff_toNat_le, hlength]
  exact hsize

end Frame

/-! ## Strings -/

theorem ofUtf8?_utf8 (text : String) : ofUtf8? (utf8 text) = some text := by
  have hbytes : (⟨(utf8 text).toArray⟩ : ByteArray) = text.toByteArray := rfl
  rw [ofUtf8?, hbytes]
  simp only [String.fromUTF8?]
  rw [dif_pos text.isValidUTF8]
  rfl

theorem utf8_append (first rest : String) : utf8 (first ++ rest) = utf8 first ++ utf8 rest := by
  simp [utf8]

namespace StringList

theorem length_terminated (text : String) : (terminated text).length = terminatedLength text := by
  rw [terminated, List.length_append]
  rfl

theorem length_encode_cons (first : String) (rest : List String) :
    (encode (first :: rest)).length = terminatedLength first + (encode rest).length := by
  rw [encode, List.flatMap_cons, List.length_append, length_terminated]
  rfl

def joined (strings : List String) : List Char :=
  strings.flatMap fun text => text.toList ++ ['\x00']

theorem joined_cons (first : String) (rest : List String) :
    joined (first :: rest) = first.toList ++ '\x00' :: joined rest := by
  simp [joined]

theorem encode_eq (strings : List String) :
    encode strings = utf8 (String.ofList (joined strings)) := by
  induction strings with
  | nil => rfl
  | cons first rest ih =>
      have htext : String.ofList (joined (first :: rest)) =
          first ++ ("\x00" ++ String.ofList (joined rest)) := by
        apply String.toList_injective
        simp [joined_cons]
      rw [htext, utf8_append, utf8_append, ← ih, show utf8 "\x00" = [0] from by decide,
        ← List.append_assoc]
      rfl

theorem pieces_joined {strings : List String} (hstrings : ∀ text ∈ strings, '\x00' ∉ text.toList) :
    Text.pieces '\x00' (joined strings) = strings.map String.toList ++ [[]] := by
  induction strings with
  | nil => rfl
  | cons first rest ih =>
      have hrest := ih fun text htext => hstrings text (List.mem_cons_of_mem first htext)
      rw [joined_cons, Text.pieces_append,
        Text.pieces_of_not_mem (hstrings first List.mem_cons_self), hrest]
      rfl

theorem decode?_of_encode {strings : List String}
    (hstrings : ∀ text ∈ strings, '\x00' ∉ text.toList) :
    decode? (encode strings) = some strings := by
  rw [encode_eq, decode?, ofUtf8?_utf8, Option.map_some, String.toList_ofList,
    pieces_joined hstrings, dropOpenEnd, if_pos (by simp), List.dropLast_concat, List.map_map]
  have hid : String.ofList ∘ String.toList = id := by
    funext text
    exact String.ofList_toList
  rw [hid, List.map_id]

end StringList

namespace InfoDictionary

theorem pairs?_alternate (pairs : List (String × String)) :
    pairs? (alternate pairs) = some pairs := by
  induction pairs with
  | nil => rfl
  | cons first rest ih =>
      show (pairs? (alternate rest)).map _ = _
      rw [ih]
      rfl

theorem ofStrings?_alternate (pairs : List (String × String)) :
    ofStrings? (alternate pairs) = some (ofPairs pairs) := by
  rw [ofStrings?, pairs?_alternate]
  rfl

end InfoDictionary

end FileConduit

import FileConduit.Proofs.Wire.Encoding
import FileConduit.Request.Answer
import Mathlib.Data.List.Basic

/-!
# String lists that are read exactly

Reading a list of strings and writing it are inverse to each other as far as they can be: strings
without a NUL are read back, whatever else is in them, and what is read from any UTF-8 text is
written as that text again, with the last terminator put back where it was missing.
-/

namespace FileConduit

/-- Whether bytes are the encodings of characters, one after another. -/
def IsUtf8 (bytes : Bytes) : Prop :=
  ∃ text : List Char, bytes = text.flatMap String.utf8EncodeChar

theorem utf8_ofList (text : List Char) :
    utf8 (String.ofList text) = text.flatMap String.utf8EncodeChar := by
  rw [utf8, String.toByteArray_ofList]
  exact List.toList_data_toByteArray

theorem ofUtf8?_eq_some_iff {bytes : Bytes} {text : String} :
    ofUtf8? bytes = some text ↔ utf8 text = bytes := by
  constructor
  · intro hread
    unfold ofUtf8? String.fromUTF8? at hread
    split at hread
    · cases hread
      rfl
    · cases hread
  · rintro rfl
    exact ofUtf8?_utf8 text

theorem ofUtf8?_eq_none_iff {bytes : Bytes} : ofUtf8? bytes = none ↔ ¬IsUtf8 bytes := by
  constructor
  · rintro hnone ⟨text, rfl⟩
    rw [← utf8_ofList, ofUtf8?_utf8] at hnone
    cases hnone
  · intro hother
    rw [Option.eq_none_iff_forall_ne_some]
    intro text hread
    have hbytes := ofUtf8?_eq_some_iff.mp hread
    rw [← String.ofList_toList (s := text), utf8_ofList] at hbytes
    exact hother ⟨text.toList, hbytes.symm⟩

theorem utf8_eq_nil_iff {text : String} : utf8 text = [] ↔ text.toList = [] := by
  rw [String.toList_eq_nil_iff]
  constructor
  · intro hnil
    have hread := ofUtf8?_utf8 text
    rw [hnil, show [] = utf8 "" from rfl, ofUtf8?_utf8] at hread
    exact (Option.some.inj hread).symm
  · rintro rfl
    rfl

/-- No encoding but that of a NUL ends with a zero. -/
theorem getLast?_utf8EncodeChar (c : Char) :
    (String.utf8EncodeChar c).getLast? = some 0 ↔ c = '\x00' := by
  constructor
  · intro hlast
    -- The last byte of a longer encoding is 128 at least.
    have hhigh : ∀ low : Nat, low < 64 → UInt8.ofNat (low + 128) ≠ 0 := by
      intro low hlow hzero
      have hvalue := congrArg UInt8.toNat hzero
      rw [UInt8.toNat_ofNat', Nat.mod_eq_of_lt (by omega)] at hvalue
      change low + 128 = 0 at hvalue
      omega
    have hlow : c.val.toNat % 64 < 64 := Nat.mod_lt _ (by decide)
    unfold String.utf8EncodeChar at hlast
    by_cases hsingle : c.val.toNat ≤ 127
    · simp only [if_pos hsingle, List.getLast?_singleton, Option.some.injEq] at hlast
      have hvalue := congrArg UInt8.toNat hlast
      rw [UInt8.toNat_ofNat', Nat.mod_eq_of_lt (by omega)] at hvalue
      exact Char.ext (UInt32.toNat_inj.mp hvalue)
    · simp only [if_neg hsingle] at hlast
      split at hlast
      · exact absurd (Option.some.inj hlast) (hhigh _ hlow)
      · split at hlast <;> exact absurd (Option.some.inj hlast) (hhigh _ hlow)
  · rintro rfl
    rfl

/-- A text ends with a NUL just when its bytes end with a zero. -/
theorem getLast?_utf8 (text : List Char) :
    (utf8 (String.ofList text)).getLast? = some 0 ↔ text.getLast? = some '\x00' := by
  rw [utf8_ofList]
  rcases List.eq_nil_or_concat text with rfl | ⟨front, last, rfl⟩
  · simp
  · rw [List.concat_eq_append, List.flatMap_append, List.flatMap_singleton,
      List.getLast?_append_of_ne_nil _ String.utf8EncodeChar_ne_nil, getLast?_utf8EncodeChar,
      List.getLast?_concat, Option.some.injEq]

namespace Text

/-- All pieces but the last have a separator behind them. -/
theorem join_concat (separator : Char) (front : List (List Char)) (last : List Char) :
    join separator (front ++ [last]) =
      (front.flatMap fun piece => piece ++ [separator]) ++ last := by
  induction front with
  | nil => rfl
  | cons piece front ih =>
      have hjoin : join separator (piece :: (front ++ [last])) =
          piece ++ separator :: join separator (front ++ [last]) := by
        cases front <;> rfl
      rw [List.cons_append, hjoin, ih, List.flatMap_cons]
      simp

end Text

namespace StringList

theorem joined_map_ofList (pieces : List (List Char)) :
    joined (pieces.map String.ofList) = pieces.flatMap fun piece => piece ++ ['\x00'] := by
  simp only [joined, List.flatMap_map, String.toList_ofList]

/-- The pieces of a text with a terminator behind each are the text, with a last terminator. -/
theorem joined_pieces (text : List Char) :
    joined ((dropOpenEnd (Text.pieces '\x00' text)).map String.ofList) =
      if text = [] ∨ text.getLast? = some '\x00' then text else text ++ ['\x00'] := by
  obtain ⟨front, last, hpieces⟩ :=
    (List.eq_nil_or_concat _).resolve_left (Text.pieces_ne_nil '\x00' text)
  rw [List.concat_eq_append] at hpieces
  have htext : (front.flatMap fun piece => piece ++ ['\x00']) ++ last = text := by
    rw [← Text.join_concat, ← hpieces, Text.join_pieces]
  rw [dropOpenEnd, hpieces, List.getLast?_concat, joined_map_ofList]
  cases last with
  | nil =>
      rw [if_pos rfl, List.dropLast_concat, if_pos ?_]
      · rw [← htext, List.append_nil]
      · rw [← htext, List.append_nil]
        rcases List.eq_nil_or_concat front with rfl | ⟨earlier, piece, rfl⟩
        · exact .inl rfl
        · refine .inr ?_
          rw [List.concat_eq_append, List.flatMap_append, List.flatMap_singleton,
            ← List.append_assoc, List.getLast?_concat]
  | cons c rest =>
      have hlast : '\x00' ∉ c :: rest :=
        Text.not_mem_of_mem_pieces (by rw [hpieces]; exact List.mem_concat_self)
      rw [if_neg (by simp), if_neg ?_]
      · rw [List.flatMap_append, List.flatMap_singleton, ← List.append_assoc, htext]
      · rintro (hnil | hend)
        · rw [hnil] at htext
          simp at htext
        · rw [← htext, List.getLast?_append_of_ne_nil _ (List.cons_ne_nil c rest)] at hend
          exact hlast (List.mem_of_getLast? hend)

/-- What has been read from the bytes of a text is written as those bytes again. -/
theorem encode_of_decode? {bytes : Bytes} {strings : List String}
    (hdecode : decode? bytes = some strings) :
    encode strings = if bytes = [] ∨ bytes.getLast? = some 0 then bytes else bytes ++ [0] := by
  obtain ⟨text, hread, rfl⟩ := Option.map_eq_some_iff.mp hdecode
  obtain rfl := ofUtf8?_eq_some_iff.mp hread
  have hend : text.toList = [] ∨ text.toList.getLast? = some '\x00' ↔
      utf8 text = [] ∨ (utf8 text).getLast? = some 0 := by
    rw [← getLast?_utf8, String.ofList_toList, utf8_eq_nil_iff]
  rw [encode_eq, joined_pieces]
  simp only [hend]
  split
  · rw [String.ofList_toList]
  · rw [String.ofList_append, utf8_append, String.ofList_toList]
    rfl

theorem mem_of_mem_dropOpenEnd {pieces : List (List Char)} {piece : List Char}
    (hpiece : piece ∈ dropOpenEnd pieces) : piece ∈ pieces := by
  unfold dropOpenEnd at hpiece
  split at hpiece
  · exact List.dropLast_subset _ hpiece
  · exact hpiece

/-- There is no terminator inside a string that has been read. -/
theorem not_mem_of_decode? {bytes : Bytes} {strings : List String}
    (hdecode : decode? bytes = some strings) : ∀ text ∈ strings, '\x00' ∉ text.toList := by
  obtain ⟨whole, -, rfl⟩ := Option.map_eq_some_iff.mp hdecode
  intro text htext
  obtain ⟨piece, hpiece, rfl⟩ := List.mem_map.mp htext
  rw [String.toList_ofList]
  exact Text.not_mem_of_mem_pieces (mem_of_mem_dropOpenEnd hpiece)

end StringList

theorem Reply.parseStrings_eq_ok_iff {bytes : Bytes} {strings : List String} :
    parseStrings bytes = .ok strings ↔ StringList.decode? bytes = some strings := by
  unfold parseStrings
  cases StringList.decode? bytes <;> simp

theorem Reply.parseStrings_eq_error_iff {bytes : Bytes} {error : ReplyError} :
    parseStrings bytes = .error error ↔ ¬IsUtf8 bytes ∧ error = .invalidUtf8 := by
  rw [← ofUtf8?_eq_none_iff]
  unfold parseStrings StringList.decode?
  cases ofUtf8? bytes <;> simp [eq_comm]

/-- Strings without a NUL are read back from their list.  Whatever bytes are read, they are refused
just when they are not UTF-8; otherwise the strings hold no NUL, and writing them gives the bytes
again, with a terminator at the end. -/
theorem strings_read_exactly :
    (∀ strings : List String, (∀ text ∈ strings, '\x00' ∉ text.toList) →
      Reply.parseStrings (StringList.encode strings) = .ok strings) ∧
    ∀ bytes : Bytes,
      (∀ error, Reply.parseStrings bytes = .error error ↔
        ¬IsUtf8 bytes ∧ error = .invalidUtf8) ∧
      ∀ strings, Reply.parseStrings bytes = .ok strings →
        (∀ text ∈ strings, '\x00' ∉ text.toList) ∧
          StringList.encode strings =
            if bytes = [] ∨ bytes.getLast? = some 0 then bytes else bytes ++ [0] := by
  refine ⟨fun strings hstrings => ?_, fun bytes => ⟨fun error => ?_, fun strings hread => ?_⟩⟩
  · exact Reply.parseStrings_eq_ok_iff.mpr (StringList.decode?_of_encode hstrings)
  · exact Reply.parseStrings_eq_error_iff
  · have hdecode := Reply.parseStrings_eq_ok_iff.mp hread
    exact ⟨StringList.not_mem_of_decode? hdecode, StringList.encode_of_decode? hdecode⟩

/-- Empty strings are read back, and a terminator that is missing is put back. -/
theorem empty_strings_read :
    Reply.parseStrings (StringList.encode ["", "a", ""]) = .ok ["", "a", ""] ∧
      Reply.parseStrings [97, 0, 0, 98] = .ok ["a", "", "b"] ∧
      StringList.encode ["a", "", "b"] = [97, 0, 0, 98, 0] := by
  have hread : Reply.parseStrings [97, 0, 0, 98] = .ok ["a", "", "b"] := rfl
  exact ⟨strings_read_exactly.1 _ (by decide), hread,
    ((strings_read_exactly.2 _).2 _ hread).2⟩

end FileConduit

import FileConduit.Text.Blank
import FileConduit.Text.Decimal

/-!
# Numerals

The numeral of a number is read back as that number.  It is made of digits, so nothing is trimmed
off its ends; and it is not longer than the number calls for.
-/

namespace FileConduit

namespace Text

theorem toNat_of_isDigit {c : Char} (hdigit : c.isDigit = true) : 48 ≤ c.toNat ∧ c.toNat ≤ 57 := by
  simpa [Char.isDigit, UInt32.le_iff_toNat_le] using hdigit

theorem isBlank_of_isDigit {c : Char} (hdigit : c.isDigit = true) : isBlank c = false := by
  have hrange := toNat_of_isDigit hdigit
  rw [isBlank, CodePoints.contains, List.any_eq_false]
  simp only [blanks, List.mem_cons, List.not_mem_nil, or_false, Bool.and_eq_true,
    decide_eq_true_eq, Prod.forall, Prod.mk.injEq]
  omega

theorem dropWhile_isBlank {text : List Char} (htext : ∀ c ∈ text, isBlank c = false) :
    text.dropWhile isBlank = text := by
  cases text with
  | nil => rfl
  | cons first rest =>
      rw [List.dropWhile_cons_of_neg]
      rw [htext first List.mem_cons_self]
      exact Bool.false_ne_true

/-- Nothing is trimmed off a text without blanks. -/
theorem trim_eq_self {text : List Char} (htext : ∀ c ∈ text, isBlank c = false) :
    trim text = text := by
  have hreverse : ∀ c ∈ text.reverse, isBlank c = false := by
    intro c hc
    exact htext c (List.mem_reverse.mp hc)
  rw [trim, dropWhile_isBlank htext, dropWhile_isBlank hreverse, List.reverse_reverse]

/-- A character takes four bytes at most. -/
theorem utf8ByteSize_le (text : String) : text.utf8ByteSize ≤ 4 * text.toList.length := by
  have hlist : ∀ chars : List Char, (String.ofList chars).utf8ByteSize ≤ 4 * chars.length := by
    intro chars
    induction chars with
    | nil => decide
    | cons first rest ih =>
        have hfirst := first.utf8Size_le_four
        rw [String.ofList_cons, String.utf8ByteSize_append, String.utf8ByteSize_singleton,
          List.length_cons]
        omega
  have htext := hlist text.toList
  rwa [String.ofList_toList] at htext

end Text

namespace Decimal

/-- A numeral is made of digits. -/
theorem isDigit_of_mem_repr {number : Nat} {c : Char} (hc : c ∈ number.repr.toList) :
    c.isDigit = true := by
  rw [Nat.toList_repr] at hc
  exact Nat.isDigit_of_mem_toDigits (by decide) (by decide) hc

theorem digits?_repr (number : Nat) : digits? number.repr.toList = some number := by
  have hdigits : number.repr.toList.all Char.isDigit = true :=
    List.all_eq_true.mpr fun c hc => isDigit_of_mem_repr hc
  have hne : number.repr.toList ≠ [] := by
    rw [Nat.toList_repr]
    exact Nat.toDigits_ne_nil
  have hvalue : ofDigits number.repr.toList = number := by
    rw [Nat.toList_repr]
    exact Nat.ofDigitChars_toDigits (by decide) (by decide)
  rw [digits?, if_pos ⟨hne, hdigits⟩, hvalue]

theorem natural?_repr (number : Nat) : natural? number.repr.toList = some number := by
  -- A numeral has no sign.
  have hsign : ∀ text, number.repr.toList ≠ '+' :: text := by
    intro text htext
    have hdigit : Char.isDigit '+' = true :=
      isDigit_of_mem_repr (by rw [htext]; exact List.mem_cons_self)
    cases hdigit
  rw [natural?.eq_def]
  split
  · exact absurd ‹_› (hsign _)
  · exact digits?_repr number

theorem word?_repr (word : UInt64) : word? word.toNat.repr.toList = some word := by
  rw [word?, natural?_repr]
  simp only [if_pos word.toNat_lt_size, UInt64.ofNat_toNat]

theorem length_repr_le (word : UInt64) : word.toNat.repr.toList.length ≤ 20 := by
  have hword : word.toNat < 10 ^ 20 := Nat.lt_trans word.toNat_lt (by decide)
  rw [String.length_toList]
  exact (Nat.length_repr_le_iff (by decide)).mpr hword

/-- Nothing is trimmed off a numeral. -/
theorem trim_repr (number : Nat) : Text.trim number.repr.toList = number.repr.toList :=
  Text.trim_eq_self fun _ hc => Text.isBlank_of_isDigit (isDigit_of_mem_repr hc)

end Decimal

end FileConduit

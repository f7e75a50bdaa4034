import FileConduit.Proofs.Text.Numeral
import Mathlib.Data.List.Induction
import Mathlib.Data.List.TakeWhile

/-!
# The grammar of numbers

What is a number, said apart from how it is read: a row of digits, after an optional sign, and
possibly with blanks around it.  The readers take just the texts of the grammar, and give what
these denote.
-/

namespace FileConduit

namespace Decimal

/-- A row of digits and the number that it denotes. -/
inductive Digits : List Char → Nat → Prop where
  | single (d : Fin 10) : Digits [Nat.digitChar d] d
  | snoc {text : List Char} {number : Nat} (htext : Digits text number) (d : Fin 10) :
      Digits (text ++ [Nat.digitChar d]) (10 * number + d)

inductive Natural : List Char → Nat → Prop where
  | bare {text : List Char} {number : Nat} (htext : Digits text number) : Natural text number
  | plus {text : List Char} {number : Nat} (htext : Digits text number) :
      Natural ('+' :: text) number

inductive Integer : List Char → Int → Prop where
  | natural {text : List Char} {number : Nat} (htext : Natural text number) : Integer text number
  | minus {text : List Char} {number : Nat} (htext : Digits text number) :
      Integer ('-' :: text) (-number)

variable {text : List Char} {number : Nat}

theorem isDigit_digitChar (d : Fin 10) : (Nat.digitChar d).isDigit = true := by
  revert d
  decide

theorem digit_digitChar (d : Fin 10) : digit (Nat.digitChar d) = d := by
  revert d
  decide

theorem exists_digitChar {c : Char} (hdigit : c.isDigit = true) :
    ∃ d : Fin 10, c = Nat.digitChar d := by
  obtain ⟨hlow, hhigh⟩ := Text.toNat_of_isDigit hdigit
  have hall : ∀ d : Fin 10, Nat.digitChar d = Char.ofNat (48 + d) := by decide
  refine ⟨⟨c.toNat - 48, by omega⟩, ?_⟩
  rw [hall, show 48 + (c.toNat - 48) = c.toNat by omega, Char.ofNat_toNat]

theorem ofDigits_concat (text : List Char) (c : Char) :
    ofDigits (text ++ [c]) = 10 * ofDigits text + digit c := by
  simp [ofDigits]

/-- Rows of digits are not empty and hold nothing else. -/
theorem Digits.read (htext : Digits text number) :
    text ≠ [] ∧ (∀ c ∈ text, c.isDigit = true) ∧ ofDigits text = number := by
  induction htext with
  | single d =>
      refine ⟨List.cons_ne_nil _ _, List.forall_mem_singleton.mpr (isDigit_digitChar d), ?_⟩
      simp [ofDigits, digit_digitChar]
  | snoc htext d ih =>
      obtain ⟨-, hdigits, hnumber⟩ := ih
      refine ⟨by simp, fun c hc => ?_, ?_⟩
      · rcases List.mem_append.mp hc with hfront | hlast
        · exact hdigits c hfront
        · rw [List.mem_singleton.mp hlast]
          exact isDigit_digitChar d
      · rw [ofDigits_concat, hnumber, digit_digitChar]

theorem digits_ofDigits (text : List Char) :
    text ≠ [] → (∀ c ∈ text, c.isDigit = true) → Digits text (ofDigits text) := by
  induction text using List.reverseRecOn with
  | nil => exact fun hnil => absurd rfl hnil
  | append_singleton front last ih =>
      intro _ hdigits
      obtain ⟨d, rfl⟩ := exists_digitChar (hdigits last (by simp))
      by_cases hfront : front = []
      · subst hfront
        have hnumber : ofDigits [Nat.digitChar d] = d := by simp [ofDigits, digit_digitChar]
        rw [List.nil_append, hnumber]
        exact .single d
      · rw [ofDigits_concat, digit_digitChar]
        exact .snoc (ih hfront fun c hc => hdigits c (List.mem_append_left _ hc)) d

theorem digits?_eq_some_iff : digits? text = some number ↔ Digits text number := by
  unfold digits?
  rw [Option.ite_none_right_eq_some, Option.some.injEq, List.all_eq_true]
  constructor
  · rintro ⟨⟨hne, hdigits⟩, rfl⟩
    exact digits_ofDigits text hne hdigits
  · intro htext
    obtain ⟨hne, hdigits, hnumber⟩ := htext.read
    exact ⟨⟨hne, hdigits⟩, hnumber⟩

/-- A sign is no digit, so a row of digits does not begin with one. -/
theorem Digits.not_cons {c : Char} (hc : c.isDigit = false) : ¬Digits (c :: text) number := by
  intro htext
  have hdigit := htext.read.2.1 c List.mem_cons_self
  rw [hc] at hdigit
  cases hdigit

theorem natural?_eq_some_iff : natural? text = some number ↔ Natural text number := by
  unfold natural?
  split
  · rw [digits?_eq_some_iff]
    constructor
    · exact .plus
    · intro hnatural
      cases hnatural with
      | bare htext => exact absurd htext (Digits.not_cons rfl)
      | plus htext => exact htext
  · rename_i hsign
    rw [digits?_eq_some_iff]
    constructor
    · exact .bare
    · intro hnatural
      cases hnatural with
      | bare htext => exact htext
      | plus htext => exact absurd rfl (hsign _)

/-- What is made of a number, if there is one. -/
theorem map_cast_eq_some_iff {found : Option Nat} {make : Int → Int} {number : Int} :
    (do let digits ← found; pure (digits : Int)).map make = some number ↔
      ∃ digits, found = some digits ∧ make digits = number := by
  cases found <;> simp

theorem integer?_eq_some_iff {number : Int} :
    integer? text = some number ↔ Integer text number := by
  unfold integer?
  split
  · rw [map_cast_eq_some_iff]
    constructor
    · rintro ⟨digits, hdigits, rfl⟩
      exact .minus (digits?_eq_some_iff.mp hdigits)
    · intro hinteger
      cases hinteger with
      | natural htext =>
          cases htext with
          | bare htext => exact absurd htext (Digits.not_cons rfl)
      | minus htext => exact ⟨_, digits?_eq_some_iff.mpr htext, rfl⟩
  · rename_i hsign
    rw [map_cast_eq_some_iff]
    constructor
    · rintro ⟨digits, hdigits, rfl⟩
      exact .natural (natural?_eq_some_iff.mp hdigits)
    · intro hinteger
      cases hinteger with
      | natural htext => exact ⟨_, natural?_eq_some_iff.mpr htext, rfl⟩
      | minus htext => exact absurd rfl (hsign _)

theorem word?_eq_some_iff {word : UInt64} : word? text = some word ↔ Natural text word.toNat := by
  rw [← natural?_eq_some_iff]
  unfold word?
  cases natural? text with
  | none => simp
  | some number =>
      dsimp only
      rw [Option.ite_none_right_eq_some, Option.some.injEq, Option.some.injEq]
      constructor
      · rintro ⟨hrange, rfl⟩
        exact (UInt64.toNat_ofNat_of_lt' hrange).symm
      · rintro rfl
        exact ⟨word.toNat_lt_size, UInt64.ofNat_toNat⟩

theorem signed?_eq_some_iff {number : Int} :
    signed? text = some number ↔
      Integer text number ∧ Int64.minValue.toInt ≤ number ∧ number ≤ Int64.maxValue.toInt := by
  rw [← integer?_eq_some_iff]
  unfold signed?
  cases integer? text with
  | none => simp
  | some found =>
      dsimp only
      rw [Option.ite_none_right_eq_some, Option.some.injEq]
      constructor
      · rintro ⟨hrange, rfl⟩
        exact ⟨rfl, hrange⟩
      · rintro ⟨rfl, hrange⟩
        exact ⟨hrange, rfl⟩

/-- There are no blanks in a number. -/
theorem Integer.not_blank {number : Int} (htext : Integer text number) :
    ∀ c ∈ text, Text.isBlank c = false := by
  have hdigits : ∀ {text : List Char} {number : Nat}, Digits text number →
      ∀ c ∈ text, Text.isBlank c = false :=
    fun htext c hc => Text.isBlank_of_isDigit (htext.read.2.1 c hc)
  cases htext with
  | natural htext =>
      cases htext with
      | bare htext => exact hdigits htext
      | plus htext => exact List.forall_mem_cons.mpr ⟨rfl, hdigits htext⟩
  | minus htext => exact List.forall_mem_cons.mpr ⟨rfl, hdigits htext⟩

end Decimal

namespace Text

def Padded (core text : List Char) : Prop :=
  ∃ front back, text = front ++ core ++ back ∧ (∀ c ∈ front, isBlank c = true) ∧
    ∀ c ∈ back, isBlank c = true

/-- What is trimmed off is blank. -/
theorem padded_trim (text : List Char) : Padded (trim text) text := by
  let rest := text.dropWhile isBlank
  refine ⟨text.takeWhile isBlank, (rest.reverse.takeWhile isBlank).reverse, ?_, ?_, ?_⟩
  · have hrest : trim text ++ (rest.reverse.takeWhile isBlank).reverse = rest := by
      rw [trim, ← List.reverse_append, List.takeWhile_append_dropWhile, List.reverse_reverse]
    rw [List.append_assoc, hrest]
    exact List.takeWhile_append_dropWhile.symm
  · exact fun c hc => List.mem_takeWhile_imp hc
  · exact fun c hc => List.mem_takeWhile_imp (List.mem_reverse.mp hc)

/-- Blanks around a core without any are trimmed off, and nothing else is. -/
theorem Padded.trim_eq {core text : List Char} (hpadded : Padded core text)
    (hcore : ∀ c ∈ core, isBlank c = false) : trim text = core := by
  obtain ⟨front, back, rfl, hfront, hback⟩ := hpadded
  rw [trim, List.append_assoc, List.dropWhile_append_of_pos hfront]
  cases core with
  | nil =>
      have hnil : back.dropWhile isBlank = [] := List.dropWhile_eq_nil_iff.mpr hback
      rw [List.nil_append, hnil]
      rfl
  | cons first core =>
      have hfirst : ¬isBlank first = true := by
        rw [hcore first List.mem_cons_self]
        exact Bool.false_ne_true
      have hreverse : ∀ c ∈ (first :: core).reverse, isBlank c = false :=
        fun c hc => hcore c (List.mem_reverse.mp hc)
      rw [List.cons_append, List.dropWhile_cons_of_neg hfirst, ← List.cons_append,
        List.reverse_append, List.dropWhile_append_of_pos fun c hc =>
          hback c (List.mem_reverse.mp hc), dropWhile_isBlank hreverse, List.reverse_reverse]

end Text

end FileConduit

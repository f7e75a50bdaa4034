/-!
# Pieces of text

Text that is cut at a separator.  `join_pieces` says that nothing else is lost, and
`not_mem_of_mem_pieces` that no separator is left in a piece.
-/

namespace FileConduit.Text

/-- The pieces of a text between separators; always at least one. -/
def pieces (separator : Char) : List Char → List (List Char)
  | [] => [[]]
  | c :: text =>
      if c = separator then [] :: pieces separator text
      else
        match pieces separator text with
        | [] => [[c]]
        | piece :: rest => (c :: piece) :: rest

def join (separator : Char) : List (List Char) → List Char
  | [] => []
  | [piece] => piece
  | piece :: rest => piece ++ separator :: join separator rest

theorem pieces_ne_nil (separator : Char) (text : List Char) : pieces separator text ≠ [] := by
  cases text with
  | nil => simp [pieces]
  | cons c text =>
      simp only [pieces]
      split
      · simp
      · split <;> simp

theorem join_pieces (separator : Char) (text : List Char) :
    join separator (pieces separator text) = text := by
  induction text with
  | nil => rfl
  | cons c text ih =>
      have hne := pieces_ne_nil separator text
      simp only [pieces]
      split
      · rename_i hc
        cases hpieces : pieces separator text with
        | nil => exact absurd hpieces hne
        | cons piece rest =>
            rw [hpieces] at ih
            simp [join, ih, hc]
      · split
        · rename_i hpieces
          exact absurd hpieces hne
        · rename_i piece rest hpieces
          rw [hpieces] at ih
          cases rest with
          | nil => simpa [join] using ih
          | cons next rest => simpa [join] using ih

theorem not_mem_of_mem_pieces {separator : Char} {text piece : List Char}
    (hpiece : piece ∈ pieces separator text) : separator ∉ piece := by
  induction text generalizing piece with
  | nil =>
      simp only [pieces, List.mem_singleton] at hpiece
      simp [hpiece]
  | cons c text ih =>
      simp only [pieces] at hpiece
      split at hpiece
      · rcases List.mem_cons.mp hpiece with rfl | hrest
        · simp
        · exact ih hrest
      · rename_i hc
        split at hpiece
        · rename_i hpieces
          exact absurd hpieces (pieces_ne_nil separator text)
        · rename_i first rest hpieces
          rw [hpieces] at ih
          rcases List.mem_cons.mp hpiece with rfl | hrest
          · simp [ih List.mem_cons_self, Ne.symm hc]
          · exact ih (List.mem_cons_of_mem _ hrest)

theorem pieces_append (separator : Char) (first rest : List Char) :
    pieces separator (first ++ separator :: rest) =
      pieces separator first ++ pieces separator rest := by
  induction first with
  | nil => simp [pieces]
  | cons c first ih =>
      by_cases hc : c = separator
      · simp [pieces, hc, ih]
      · simp only [List.cons_append, pieces, if_neg hc, ih]
        cases hfirst : pieces separator first with
        | nil => exact absurd hfirst (pieces_ne_nil separator first)
        | cons piece others => rfl

theorem pieces_of_not_mem {separator : Char} {text : List Char} (htext : separator ∉ text) :
    pieces separator text = [text] := by
  induction text with
  | nil => rfl
  | cons c text ih =>
      rw [List.mem_cons, not_or] at htext
      obtain ⟨hc, hrest⟩ := htext
      simp [pieces, Ne.symm hc, ih hrest]

end FileConduit.Text

/-!
# Overlays

To copy a tree puts an image over what is held at and below a place: where the image shows
something, that is held afterwards, and everywhere else nothing changes.  Places are lists of names.
-/

namespace FileConduit

/-- What is held after an image has been put at a place. -/
structure Overlaid (before after : List String → Option α) (spot : List String)
    (image : List String → Option α) : Prop where
  inside : ∀ rest entry, image rest = some entry → after (spot ++ rest) = some entry
  outside : ∀ other, (∀ rest, other = spot ++ rest → image rest = none) →
    after other = before other

def imageBelow (name : String) (image : List String → Option α) : List String → Option α
  | [] => none
  | first :: rest => if first = name then image rest else none

/-- An image, restricted to some entries of the directory that it shows. -/
def imageAmong (names : List String) (image : List String → Option α) :
    List String → Option α
  | [] => none
  | first :: rest => if first ∈ names then image (first :: rest) else none

def imageOf (entry : α) : List String → Option α
  | [] => some entry
  | _ :: _ => none

namespace Overlaid

variable {before middle after : List String → Option α} {spot : List String}
  {image first second : List String → Option α}

/-- Nothing needs to change for what is held already. -/
theorem of_held
    (hheld : ∀ rest entry, image rest = some entry → before (spot ++ rest) = some entry) :
    Overlaid before before spot image where
  inside := hheld
  outside _ _ := rfl

theorem of_put {entry : α}
    (hput : ∀ other, after other = if other = spot then some entry else before other) :
    Overlaid before after spot (imageOf entry) where
  inside rest held hheld := by
    cases rest with
    | nil => rw [List.append_nil, hput, if_pos rfl, ← hheld, imageOf]
    | cons name rest => cases hheld
  outside other hother := by
    have hne : other ≠ spot := by
      rintro rfl
      have hnone := hother [] (List.append_nil _).symm
      cases hnone
    rw [hput, if_neg hne]

theorem of_child {name : String} (hoverlaid : Overlaid before after (spot ++ [name]) image) :
    Overlaid before after spot (imageBelow name image) where
  inside rest entry hentry := by
    cases rest with
    | nil => cases hentry
    | cons first rest =>
        rw [imageBelow] at hentry
        by_cases hname : first = name
        · rw [if_pos hname] at hentry
          rw [hname, List.append_cons]
          exact hoverlaid.inside rest entry hentry
        · rw [if_neg hname] at hentry
          cases hentry
  outside other hother := by
    apply hoverlaid.outside
    intro rest hrest
    have hnone := hother (name :: rest) (by rw [hrest, List.append_assoc]; rfl)
    rwa [imageBelow, if_pos rfl] at hnone

theorem trans (hfirst : Overlaid before middle spot first)
    (hsecond : Overlaid middle after spot second)
    (himage : ∀ rest, image rest = (second rest).or (first rest)) :
    Overlaid before after spot image where
  inside rest entry hentry := by
    rw [himage] at hentry
    cases hshown : second rest with
    | some shown =>
        rw [hshown] at hentry
        cases hentry
        exact hsecond.inside rest entry hshown
    | none =>
        rw [hshown] at hentry
        rw [hsecond.outside (spot ++ rest), hfirst.inside rest entry hentry]
        intro other hother
        rwa [← List.append_cancel_left hother]
  outside other hother := by
    have hnone : ∀ rest, other = spot ++ rest → second rest = none ∧ first rest = none := by
      intro rest hrest
      have hboth := hother rest hrest
      rw [himage] at hboth
      exact Option.or_eq_none_iff.mp hboth
    rw [hsecond.outside other fun rest hrest => (hnone rest hrest).1,
      hfirst.outside other fun rest hrest => (hnone rest hrest).2]

/-- Nothing changes anywhere else than at and below the place. -/
theorem apart (hoverlaid : Overlaid before after spot image) {other : List String}
    (hother : ¬ spot <+: other) : after other = before other := by
  apply hoverlaid.outside
  rintro rest rfl
  exact absurd (List.prefix_append spot rest) hother

end Overlaid

theorem imageAmong_cons (name : String) (names : List String) (image : List String → Option α)
    (rest : List String) :
    imageAmong (name :: names) image rest =
      (imageAmong names image rest).or
        (imageBelow name (fun rest => image (name :: rest)) rest) := by
  cases rest with
  | nil => rfl
  | cons first rest =>
      rw [imageAmong, imageAmong, imageBelow]
      by_cases hname : first = name
      · rw [if_pos hname, if_pos (List.mem_cons.mpr (.inl hname)), hname]
        by_cases hmem : name ∈ names
        · rw [if_pos hmem, Option.or_self]
        · rw [if_neg hmem, Option.none_or]
      · rw [if_neg hname, Option.or_none]
        by_cases hmem : first ∈ names
        · rw [if_pos hmem, if_pos (List.mem_cons_of_mem _ hmem)]
        · rw [if_neg hmem, if_neg (by simp [hname, hmem])]

/-- What is below one entry of a directory is not below another. -/
theorem not_below_other {place other : List String} {first second : String}
    (hne : first ≠ second) (hbelow : place ++ [first] <+: other) :
    ¬ place ++ [second] <+: other := by
  intro hother
  have hprefix := List.prefix_of_prefix_length_le hbelow hother (by simp)
  have heq := hprefix.eq_of_length (by simp)
  exact hne (by simpa using heq)

theorem not_below_self (place : List String) (name : String) : ¬ place ++ [name] <+: place := by
  intro hbelow
  have hlength := hbelow.length_le
  rw [List.length_append, List.length_singleton] at hlength
  omega

theorem below_child (place rest : List String) (name : String) :
    place ++ [name] <+: place ++ name :: rest :=
  ⟨rest, by simp⟩

end FileConduit

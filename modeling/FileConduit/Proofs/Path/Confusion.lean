import FileConduit.Proofs.Path.HostName

/-!
# Names that the host cannot tell apart

Two names from a device may become the same name on the host.  Outside the Windows style none do.
In the Windows style those do that agree once forbidden characters are replaced and dots and spaces
are cut off at the end, and those of which one spells out the underscore that the other is given.
-/

namespace FileConduit.HostName

/-- What the Windows rules keep of a name before they keep clear of the names of devices. -/
def kept (name : String) : List Char :=
  trimEnd (replace isForbidden name.toList)

def Prefixed (kept : List Char) : Prop :=
  kept = [] ∨ namesDevice kept = true

instance (kept : List Char) : Decidable (Prefixed kept) :=
  inferInstanceAs (Decidable (kept = [] ∨ namesDevice kept = true))

/-- Whether the host is given one name for two of the device. -/
def Confused : NamingStyle → String → String → Prop
  | .windows, first, second =>
      kept first = kept second ∨
        Prefixed (kept second) ∧ kept first = '_' :: kept second ∨
        Prefixed (kept first) ∧ kept second = '_' :: kept first
  | .native, first, second | .posix, first, second => first = second

instance (style : NamingStyle) (first second : String) : Decidable (Confused style first second) :=
  match style with
  | .windows => inferInstanceAs (Decidable (_ ∨ _ ∧ _ ∨ _ ∧ _))
  | .native | .posix => inferInstanceAs (Decidable (first = second))

/-- Outside the Windows style a name is confused with no other one. -/
theorem confused_iff {style : NamingStyle} (hstyle : style ≠ .windows) {first second : String} :
    Confused style first second ↔ first = second := by
  cases style with
  | native => rfl
  | posix => rfl
  | windows => exact absurd rfl hstyle

theorem sanitizeWindows_kept (name : String) :
    sanitizeWindows name.toList =
      if Prefixed (kept name) then '_' :: kept name else kept name := by
  unfold sanitizeWindows
  split
  · rename_i hempty
    rw [kept, hempty, if_pos (.inl rfl)]
  · rename_i hne
    have hkept : kept name ≠ [] := hne
    show (if namesDevice (kept name) = true then '_' :: kept name else kept name) = _
    by_cases hdevice : namesDevice (kept name) = true
    · rw [if_pos hdevice, if_pos (.inr hdevice)]
    · rw [if_neg hdevice, if_neg (by simp [Prefixed, hkept, hdevice])]

/-- No name of a device begins with an underscore. -/
theorem not_prefixed_underscore (name : List Char) : ¬Prefixed ('_' :: name) := by
  have hheads : ∀ device ∈ deviceNames, device.toList.head? ≠ some '_' := by decide
  rintro (hempty | hdevice)
  · cases hempty
  · obtain ⟨device, hmem, hsame⟩ := List.any_eq_true.mp hdevice
    apply hheads device hmem
    rw [eq_of_beq hsame]
    rfl

/-- The Windows rules make one of two names just when these are confused. -/
theorem sanitizeWindows_eq_iff (first second : String) :
    sanitizeWindows first.toList = sanitizeWindows second.toList ↔
      Confused .windows first second := by
  rw [sanitizeWindows_kept, sanitizeWindows_kept]
  show _ ↔ kept first = kept second ∨ Prefixed (kept second) ∧ kept first = '_' :: kept second ∨
    Prefixed (kept first) ∧ kept second = '_' :: kept first
  by_cases hfirst : Prefixed (kept first) <;> by_cases hsecond : Prefixed (kept second)
  · rw [if_pos hfirst, if_pos hsecond, List.cons_inj_right]
    constructor
    · exact .inl
    · rintro (hsame | ⟨-, hunder⟩ | ⟨-, hunder⟩)
      · exact hsame
      · exact absurd (hunder ▸ hfirst) (not_prefixed_underscore _)
      · exact absurd (hunder ▸ hsecond) (not_prefixed_underscore _)
  · rw [if_pos hfirst, if_neg hsecond]
    constructor
    · exact fun hsame => .inr (.inr ⟨hfirst, hsame.symm⟩)
    · rintro (hsame | ⟨hboth, -⟩ | ⟨-, hunder⟩)
      · exact absurd (hsame ▸ hfirst) hsecond
      · exact absurd hboth hsecond
      · exact hunder.symm
  · rw [if_neg hfirst, if_pos hsecond]
    constructor
    · exact fun hsame => .inr (.inl ⟨hsecond, hsame⟩)
    · rintro (hsame | ⟨-, hunder⟩ | ⟨hboth, -⟩)
      · exact absurd (hsame ▸ hsecond) hfirst
      · exact hunder
      · exact absurd hboth hfirst
  · rw [if_neg hfirst, if_neg hsecond]
    constructor
    · exact .inl
    · rintro (hsame | ⟨hboth, -⟩ | ⟨hboth, -⟩)
      · exact hsame
      · exact absurd hboth hsecond
      · exact absurd hboth hfirst

theorem sanitize_eq_iff {style : NamingStyle} {first second : String} (hfirst : ChildName first)
    (hsecond : ChildName second) :
    sanitize style first = sanitize style second ↔ Confused style first second := by
  cases style with
  | native =>
      rw [sanitize_childName (by decide) hfirst, sanitize_childName (by decide) hsecond]
      rfl
  | posix =>
      rw [sanitize_childName (by decide) hfirst, sanitize_childName (by decide) hsecond]
      rfl
  | windows =>
      unfold sanitize
      rw [hfirst.not_traversal, hsecond.not_traversal]
      simp only [Bool.false_eq_true, if_false, String.ofList_inj]
      exact sanitizeWindows_eq_iff first second

end FileConduit.HostName

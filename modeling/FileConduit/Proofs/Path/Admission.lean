import FileConduit.Proofs.Path.Confusion

/-!
# Names that the host admits

The names that a host admits for a file are those that are left as they are.  Whatever a device
calls a file, the name that is made of it is one of them, so nothing is left to be done to it.
-/

namespace FileConduit.HostName

/-- Names that the Windows rules admit.  The case of ASCII letters makes no difference to the names
of devices. -/
structure WindowsName (name : String) : Prop where
  legal : ∀ c ∈ name.toList, c ∉ ['<', '>', ':', '"', '/', '\\', '|', '?', '*'] ∧ 0x20 ≤ c.toNat
  firm_end : name.toList.getLast? ≠ some '.' ∧ name.toList.getLast? ≠ some ' '
  no_device : ∀ device ∈ deviceNames, device.toList ≠ (stem name.toList).map Char.toLower

def Admitted : NamingStyle → String → Prop
  | .windows, name => ChildName name ∧ WindowsName name
  | .native, name | .posix, name => ChildName name

theorem isForbidden_eq_false_iff (c : Char) :
    isForbidden c = false ↔
      c ∉ ['<', '>', ':', '"', '/', '\\', '|', '?', '*'] ∧ 0x20 ≤ c.toNat := by
  simp [isForbidden, and_assoc]

theorem any_isWeakEnd_eq_false_iff (last : Option Char) :
    last.any isWeakEnd = false ↔ last ≠ some '.' ∧ last ≠ some ' ' := by
  cases last <;> simp [isWeakEnd]

theorem namesDevice_eq_false_iff (name : List Char) :
    namesDevice name = false ↔
      ∀ device ∈ deviceNames, device.toList ≠ (stem name).map Char.toLower := by
  simp [namesDevice]

/-- The names that the Windows rules admit are those that none of their tests finds fault with. -/
theorem windowsName_iff (name : String) :
    WindowsName name ↔
      (∀ c ∈ name.toList, isForbidden c = false) ∧ name.toList.getLast?.any isWeakEnd = false ∧
        namesDevice name.toList = false := by
  simp only [isForbidden_eq_false_iff, any_isWeakEnd_eq_false_iff, namesDevice_eq_false_iff]
  exact ⟨fun hname => ⟨hname.legal, hname.firm_end, hname.no_device⟩,
    fun ⟨hlegal, hend, hdevice⟩ => ⟨hlegal, hend, hdevice⟩⟩

instance (name : String) : Decidable (WindowsName name) :=
  decidable_of_iff
    (name.toList.any isForbidden = false ∧ name.toList.getLast?.any isWeakEnd = false ∧
      namesDevice name.toList = false)
    (by simp [windowsName_iff])

instance (style : NamingStyle) (name : String) : Decidable (Admitted style name) :=
  match style with
  | .windows => inferInstanceAs (Decidable (ChildName name ∧ WindowsName name))
  | .native | .posix => inferInstanceAs (Decidable (ChildName name))

/-! ## Names that the Windows rules make -/

/-- The underscore is put in front at most once. -/
theorem not_prefixed_sanitizeWindows (name : String) :
    ¬Prefixed (sanitizeWindows name.toList) := by
  rw [sanitizeWindows_kept]
  by_cases hprefixed : Prefixed (kept name)
  · rw [if_pos hprefixed]
    exact not_prefixed_underscore _
  · rwa [if_neg hprefixed]

theorem getLast?_sanitizeWindows (name : String) :
    (sanitizeWindows name.toList).getLast?.any isWeakEnd = false := by
  rw [sanitizeWindows_kept]
  by_cases hempty : kept name = []
  · rw [hempty, if_pos (.inl rfl)]
    rfl
  · have hkept : (kept name).getLast?.any isWeakEnd = false := by
      rw [List.getLast?_eq_some_getLast hempty]
      exact isWeakEnd_getLast_trimEnd hempty
    split
    · rwa [List.getLast?_cons_of_ne_nil hempty]
    · exact hkept

theorem windowsName_sanitizeWindows (name : String) :
    WindowsName (String.ofList (sanitizeWindows name.toList)) := by
  rw [windowsName_iff, String.toList_ofList]
  refine ⟨fun c hc => ?_, getLast?_sanitizeWindows name, ?_⟩
  · rw [Bool.eq_false_iff]
    exact fun hforbidden => not_mem_sanitizeWindows hforbidden name.toList hc
  · rw [Bool.eq_false_iff]
    exact fun hdevice => not_prefixed_sanitizeWindows name (.inr hdevice)

theorem windowsName_underscore : WindowsName "_" := by
  decide

theorem admitted_sanitize (style : NamingStyle) (name : String) :
    Admitted style (sanitize style name) := by
  have hchild := childName_sanitize style name
  cases style with
  | native => exact hchild
  | posix => exact hchild
  | windows =>
      refine ⟨hchild, ?_⟩
      unfold sanitize
      split
      · exact windowsName_underscore
      · exact windowsName_sanitizeWindows name

/-! ## Names that are left as they are -/

theorem trimEnd_eq_self {name : List Char} (hlast : name.getLast?.any isWeakEnd = false) :
    trimEnd name = name := by
  rcases List.eq_nil_or_concat name with rfl | ⟨front, last, rfl⟩
  · rfl
  · rw [List.concat_eq_append, List.getLast?_concat, Option.any_some] at hlast
    simp [trimEnd, hlast]

theorem sanitizeWindows_windowsName {name : String} (hne : name ≠ "") (hname : WindowsName name) :
    sanitizeWindows name.toList = name.toList := by
  obtain ⟨hlegal, hend, hdevice⟩ := (windowsName_iff name).mp hname
  have hkept : kept name = name.toList := by
    rw [kept, replace_eq_self hlegal, trimEnd_eq_self hend]
  have hprefixed : ¬Prefixed name.toList := by
    rintro (hempty | hnamed)
    · exact hne (String.toList_eq_nil_iff.mp hempty)
    · rw [hdevice] at hnamed
      cases hnamed
  rw [sanitizeWindows_kept, hkept, if_neg hprefixed]

theorem sanitize_admitted {style : NamingStyle} {name : String} (hname : Admitted style name) :
    sanitize style name = name := by
  cases style with
  | native => exact sanitize_childName (by decide) hname
  | posix => exact sanitize_childName (by decide) hname
  | windows =>
      obtain ⟨hchild, hwindows⟩ := hname
      unfold sanitize
      rw [if_neg (by rw [hchild.not_traversal]; exact Bool.false_ne_true),
        sanitizeWindows_windowsName hchild.ne_empty hwindows, String.ofList_toList]

theorem sanitize_eq_self_iff {style : NamingStyle} {name : String} :
    sanitize style name = name ↔ Admitted style name := by
  constructor
  · intro hsame
    rw [← hsame]
    exact admitted_sanitize style name
  · exact sanitize_admitted

/-- The name that is made of any name is one that the host admits, and just the names that the host
admits are left as they are.  So a name that has been made safe is not changed again. -/
theorem safe_names_stable (style : NamingStyle) (name : String) :
    Admitted style (sanitize style name) ∧
      sanitize style (sanitize style name) = sanitize style name ∧
      (sanitize style name = name ↔ Admitted style name) := by
  have hadmitted := admitted_sanitize style name
  exact ⟨hadmitted, sanitize_admitted hadmitted, sanitize_eq_self_iff⟩

/-! A space keeps a name clear of the names of devices, a dot does not. -/

example : Admitted .windows "con .txt" ∧ ¬Admitted .windows "Con.txt" := by decide

example : sanitize .windows "Con.txt. " = "_Con.txt" := by decide

end FileConduit.HostName

import FileConduit.Path.HostName
import FileConduit.Proofs.Device.Tree

/-!
# Names that are safe on the host

Whatever a device calls a file, its name on the host is a single component: it is not empty, holds
neither a slash nor NUL, and leads neither nowhere nor upwards.
-/

namespace FileConduit.HostName

theorem not_mem_replace {test : Char → Bool} {c : Char} (hc : test c = true)
    (hunderscore : test '_' = false) (name : List Char) : c ∉ replace test name := by
  intro hmem
  obtain ⟨original, -, heq⟩ := List.mem_map.mp hmem
  split at heq
  · rw [← heq, hunderscore] at hc
    cases hc
  · rename_i hkept
    rw [heq] at hkept
    exact hkept hc

/-- A replaced name is a name of dots alone only if it was one before. -/
theorem replace_eq_dots {test : Char → Bool} {name : List Char} {count : Nat}
    (hname : replace test name = List.replicate count '.') : name = List.replicate count '.' := by
  induction name generalizing count with
  | nil => exact hname
  | cons c name ih =>
      cases count with
      | zero => cases hname
      | succ count =>
          obtain ⟨hfirst, hrest⟩ := List.cons.inj hname
          have hc : c = '.' := by
            dsimp only at hfirst
            split at hfirst
            · cases hfirst
            · exact hfirst
          rw [hc, ih hrest]
          rfl

theorem replace_eq_self {test : Char → Bool} {name : List Char}
    (hname : ∀ c ∈ name, test c = false) : replace test name = name := by
  refine (List.map_congr_left fun c hc => ?_).trans (List.map_id name)
  rw [hname c hc]
  rfl

theorem mem_of_mem_trimEnd {c : Char} {name : List Char} (hc : c ∈ trimEnd name) : c ∈ name := by
  have hdropped := (List.dropWhile_sublist isWeakEnd (l := name.reverse)).subset
    (List.mem_reverse.mp hc)
  exact List.mem_reverse.mp hdropped

theorem isWeakEnd_getLast_trimEnd {name : List Char} (hne : trimEnd name ≠ []) :
    isWeakEnd ((trimEnd name).getLast hne) = false := by
  have hdropped : name.reverse.dropWhile isWeakEnd ≠ [] := by
    simpa [trimEnd] using hne
  have hhead := List.head_dropWhile_not isWeakEnd hdropped
  simpa [trimEnd] using hhead

theorem sanitizeWindows_cases (name : List Char) :
    sanitizeWindows name = ['_'] ∨
      ∃ trimmed, trimmed = trimEnd (replace isForbidden name) ∧ trimmed ≠ [] ∧
        (sanitizeWindows name = trimmed ∨ sanitizeWindows name = '_' :: trimmed) := by
  unfold sanitizeWindows
  split
  · exact .inl rfl
  · rename_i hne
    refine .inr ⟨_, rfl, hne, ?_⟩
    split
    · exact .inr rfl
    · exact .inl rfl

theorem not_mem_sanitizeWindows {c : Char} (hc : isForbidden c = true) (name : List Char) :
    c ∉ sanitizeWindows name := by
  have hunderscore : c ≠ '_' := by
    rintro rfl
    exact absurd hc (by decide)
  have htrimmed : c ∉ trimEnd (replace isForbidden name) := fun hmem =>
    not_mem_replace hc (by decide) name (mem_of_mem_trimEnd hmem)
  rcases sanitizeWindows_cases name with hone | ⟨trimmed, rfl, -, hkept | hprefixed⟩
  · rw [hone]
    simpa using hunderscore
  · rwa [hkept]
  · rw [hprefixed]
    simp [hunderscore, htrimmed]

/-- A Windows name never ends in a dot, so it does not consist of dots. -/
theorem sanitizeWindows_ne_dots (name : List Char) (count : Nat) :
    sanitizeWindows name ≠ List.replicate count '.' := by
  intro heq
  rcases sanitizeWindows_cases name with hone | ⟨trimmed, rfl, hne, hkept | hprefixed⟩
  · rw [hone] at heq
    have hmem : '_' ∈ List.replicate count '.' := heq ▸ List.mem_singleton_self '_'
    exact absurd (List.eq_of_mem_replicate hmem) (by decide)
  · rw [hkept] at heq
    have hlast := isWeakEnd_getLast_trimEnd hne
    have hdot : (trimEnd (replace isForbidden name)).getLast hne = '.' := by
      refine List.eq_of_mem_replicate (n := count) ?_
      rw [← heq]
      exact List.getLast_mem hne
    rw [hdot] at hlast
    cases hlast
  · rw [hprefixed] at heq
    have hmem : '_' ∈ List.replicate count '.' := heq ▸ List.mem_cons_self
    exact absurd (List.eq_of_mem_replicate hmem) (by decide)

/-- Up to two dots are a traversal entry. -/
theorem ne_dots_of_not_traversal {name : String} (hname : RemotePath.isTraversal name = false)
    {count : Nat} (hcount : count ≤ 2) : name.toList ≠ List.replicate count '.' := by
  intro heq
  have hdots : name = String.ofList (List.replicate count '.') := by
    rw [← heq, String.ofList_toList]
  rw [hdots] at hname
  match count, hcount with
  | 0, _ => exact absurd hname (by decide)
  | 1, _ => exact absurd hname (by decide)
  | 2, _ => exact absurd hname (by decide)

theorem childName_ofList {name : List Char}
    (hdots : ∀ count ≤ 2, name ≠ List.replicate count '.') (hslash : '/' ∉ name)
    (hnul : '\x00' ∉ name) : ChildName (String.ofList name) where
  ne_empty heq := hdots 0 (by decide) (by simpa using congrArg String.toList heq)
  ne_dot heq := hdots 1 (by decide) (by simpa using congrArg String.toList heq)
  ne_dots heq := hdots 2 (by decide) (by simpa using congrArg String.toList heq)
  no_slash := by rwa [String.toList_ofList]
  no_nul := by rwa [String.toList_ofList]

theorem childName_sanitize (style : NamingStyle) (name : String) :
    ChildName (sanitize style name) := by
  unfold sanitize
  split
  · exact ⟨by decide, by decide, by decide, by decide, by decide⟩
  · rename_i hname
    rw [Bool.not_eq_true] at hname
    have hposix : ChildName (String.ofList (replace isSeparator name.toList)) := by
      refine childName_ofList (fun count hcount heq => ?_) ?_ ?_
      · exact ne_dots_of_not_traversal hname hcount (replace_eq_dots heq)
      · exact not_mem_replace (by decide) (by decide) name.toList
      · exact not_mem_replace (by decide) (by decide) name.toList
    cases style with
    | native => exact hposix
    | posix => exact hposix
    | windows =>
        refine childName_ofList (fun count _ => ?_) ?_ ?_
        · exact sanitizeWindows_ne_dots name.toList count
        · exact not_mem_sanitizeWindows (by decide) name.toList
        · exact not_mem_sanitizeWindows (by decide) name.toList

/-- A name that is safe already stays as it is, except in the Windows style. -/
theorem sanitize_childName {style : NamingStyle} (hstyle : style ≠ .windows) {name : String}
    (hname : ChildName name) : sanitize style name = name := by
  have hkept : replace isSeparator name.toList = name.toList := by
    apply replace_eq_self
    intro c hc
    have hslash : c ≠ '/' := fun heq => hname.no_slash (heq ▸ hc)
    have hnul : c ≠ '\x00' := fun heq => hname.no_nul (heq ▸ hc)
    simp [isSeparator, hslash, hnul]
  have hposix : String.ofList (replace isSeparator name.toList) = name := by
    rw [hkept, String.ofList_toList]
  unfold sanitize
  rw [if_neg (by rw [hname.not_traversal]; exact Bool.false_ne_true)]
  cases style with
  | native => exact hposix
  | posix => exact hposix
  | windows => exact absurd rfl hstyle

end FileConduit.HostName

import FileConduit.Proofs.Host.Tree
import Mathlib.Data.List.Nodup

/-!
# What the host holds in a directory

In a well-formed tree a listing names exactly the entries of a directory, and what is below a place
can be come to through directories alone.
-/

namespace FileConduit.HostTree

/-- One entry for each place, each in a directory and under a name that can stand there. -/
structure WellFormed (tree : HostTree) : Prop where
  distinct : (tree.entries.map Prod.fst).Nodup
  held : ∀ {place : Location} {name : String}, tree.get? (place ++ [name]) ≠ none →
    tree.get? place = some .directory
  fits : ∀ {place : Location} {name : String}, tree.get? (place ++ [name]) ≠ none → Fits name

variable {tree : HostTree} {path : HostPath} {place rest : Location} {name : String}

/-! ## Places below a place -/

theorem WellFormed.above (hformed : tree.WellFormed)
    (hbelow : tree.get? (place ++ name :: rest) ≠ none) : tree.get? place = some .directory := by
  induction rest generalizing place name with
  | nil => exact hformed.held hbelow
  | cons next rest ih =>
      rw [List.append_cons] at hbelow
      have hnext := ih hbelow
      exact hformed.held (by rw [hnext]; exact Option.some_ne_none _)

theorem get?_below_mount (hmount : tree.mount <+: place) (hne : place ≠ tree.mount) :
    tree.get? place = tree.entries.lookup place := by
  have hroot : place ≠ [] := by
    rintro rfl
    exact absurd (List.prefix_nil.mp hmount) (by simp [mount])
  rw [get?, if_neg (by simp [hroot, hne])]

theorem child_ne_mount (hmount : tree.mount <+: place) : place ++ [name] ≠ tree.mount := by
  intro heq
  have hlength := hmount.length_le
  rw [← heq, List.length_append, List.length_singleton] at hlength
  omega

theorem lookup_ne_none {entries : List (Location × HostEntry)} :
    entries.lookup place ≠ none ↔ place ∈ entries.map Prod.fst := by
  induction entries with
  | nil => simp
  | cons first entries ih =>
      obtain ⟨key, held⟩ := first
      rw [lookup_cons_eq, List.map_cons, List.mem_cons]
      by_cases hkey : place = key
      · simp [hkey]
      · rw [if_neg hkey, ih]
        simp [hkey]

/-- No place at which there is something is longer than some length. -/
theorem exists_depth (tree : HostTree) :
    ∃ depth, ∀ place, tree.get? place ≠ none → place.length ≤ depth := by
  have hentries : ∀ entries : List (Location × HostEntry),
      ∃ depth, ∀ place ∈ entries.map Prod.fst, place.length ≤ depth := by
    intro entries
    induction entries with
    | nil => exact ⟨0, by simp⟩
    | cons first entries ih =>
        obtain ⟨depth, hdepth⟩ := ih
        refine ⟨max first.1.length depth, fun place hplace => ?_⟩
        rcases List.mem_cons.mp hplace with rfl | hplace
        · exact Nat.le_max_left _ _
        · exact Nat.le_trans (hdepth place hplace) (Nat.le_max_right _ _)
  obtain ⟨depth, hdepth⟩ := hentries tree.entries
  refine ⟨max depth 1, fun place hplace => ?_⟩
  rw [get?] at hplace
  by_cases hfixed : place = [] ∨ place = tree.mount
  · have hone : place.length ≤ 1 := by
      rcases hfixed with rfl | rfl <;> simp [mount]
    omega
  · rw [if_neg hfixed, lookup_ne_none] at hplace
    have hkey := hdepth place hplace
    omega

/-- A tree is well-formed if its entries are. -/
theorem wellFormed_of_entries (hname : Fits tree.mountName)
    (hdistinct : (tree.entries.map Prod.fst).Nodup)
    (hentries : ∀ key ∈ tree.entries.map Prod.fst, ∃ place name, key = place ++ [name] ∧
      tree.get? place = some .directory ∧ Fits name) : tree.WellFormed := by
  have hall : ∀ place name, tree.get? (place ++ [name]) ≠ none →
      tree.get? place = some .directory ∧ Fits name := by
    intro place name hpresent
    rw [get?] at hpresent
    by_cases hfixed : place ++ [name] = [] ∨ place ++ [name] = tree.mount
    · rcases hfixed with hroot | hmount
      · simp at hroot
      · have hchild : place ++ [name] = [] ++ [tree.mountName] := hmount
        obtain ⟨rfl, hlast⟩ := List.append_inj' hchild rfl
        cases hlast
        exact ⟨rfl, hname⟩
    · rw [if_neg hfixed, lookup_ne_none] at hpresent
      obtain ⟨above, last, hkey, hdirectory, hfits⟩ := hentries _ hpresent
      obtain ⟨rfl, hlast⟩ := List.append_inj' hkey rfl
      cases hlast
      exact ⟨hdirectory, hfits⟩
  exact ⟨hdistinct, fun hpresent => (hall _ _ hpresent).1, fun hpresent => (hall _ _ hpresent).2⟩

/-! ## Listings -/

def entryName (place other : Location) : Option String :=
  if other.dropLast = place then other.getLast? else none

theorem entryName_eq {other : Location} :
    entryName place other = some name ↔ other = place ++ [name] := by
  rw [entryName]
  constructor
  · intro hname
    by_cases hplace : other.dropLast = place
    · rw [if_pos hplace] at hname
      obtain ⟨front, rfl⟩ := List.getLast?_eq_some_iff.mp hname
      rw [← hplace, List.dropLast_concat]
    · rw [if_neg hplace] at hname
      cases hname
  · rintro rfl
    rw [List.dropLast_concat, if_pos rfl, List.getLast?_concat]

theorem names_eq (hfind : tree.find path = .ok (place, .directory)) :
    tree.names path = .ok ((tree.entries.map Prod.fst).filterMap (entryName place)) := by
  rw [List.filterMap_map]
  simp only [names, hfind, bind, Except.bind, pure, Except.pure]
  rfl

theorem mem_names (hmount : tree.mount <+: place) :
    name ∈ (tree.entries.map Prod.fst).filterMap (entryName place) ↔
      tree.get? (place ++ [name]) ≠ none := by
  have hbelow : tree.mount <+: place ++ [name] := hmount.trans (List.prefix_append _ _)
  rw [get?_below_mount hbelow (child_ne_mount hmount), lookup_ne_none, List.mem_filterMap]
  constructor
  · rintro ⟨other, hother, hname⟩
    rwa [entryName_eq.mp hname] at hother
  · intro hplace
    exact ⟨place ++ [name], hplace, entryName_eq.mpr rfl⟩

theorem WellFormed.names_nodup (hformed : tree.WellFormed) (place : Location) :
    ((tree.entries.map Prod.fst).filterMap (entryName place)).Nodup := by
  apply List.Nodup.filterMap _ hformed.distinct
  intro first second name hfirst hsecond
  rw [entryName_eq.mp hfirst, entryName_eq.mp hsecond]

def sortedNames (tree : HostTree) (place : Location) : List String :=
  ((tree.entries.map Prod.fst).filterMap (entryName place)).mergeSort
    fun first second => first ≤ second

theorem mem_sortedNames (hmount : tree.mount <+: place) :
    name ∈ tree.sortedNames place ↔ tree.get? (place ++ [name]) ≠ none := by
  rw [sortedNames, (List.mergeSort_perm _ _).mem_iff, mem_names hmount]

/-- No name stands twice in a directory, so the order is strict. -/
theorem WellFormed.sortedNames_pairwise (hformed : tree.WellFormed) (place : Location) :
    (tree.sortedNames place).Pairwise (· < ·) := by
  have hnodup : (tree.sortedNames place).Nodup :=
    (List.mergeSort_perm _ _).nodup_iff.mpr (hformed.names_nodup place)
  have hsorted : (tree.sortedNames place).Pairwise (· ≤ ·) := by
    have htrans : ∀ first second third : String, decide (first ≤ second) = true →
        decide (second ≤ third) = true → decide (first ≤ third) = true := by
      simpa using fun first second third => String.le_trans
    have htotal : ∀ first second : String,
        (decide (first ≤ second) || decide (second ≤ first)) = true := by
      simpa using String.le_total
    simpa only [sortedNames, decide_eq_true_eq] using List.pairwise_mergeSort htrans htotal
      ((tree.entries.map Prod.fst).filterMap (entryName place))
  apply (hsorted.and hnodup).imp
  rintro first second ⟨hle, hne⟩
  apply String.not_le.mp
  intro hge
  exact hne (String.le_antisymm hle hge)

end FileConduit.HostTree

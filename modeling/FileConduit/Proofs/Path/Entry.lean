import FileConduit.Path.Remote
import Mathlib.Data.List.Basic

/-!
# Paths of entries

The path of an entry falls apart again into its name and its directory, however the directory is
spelled.  So what a relative target denotes next to a link is what that name denotes in the
directory of the link.  Slashes at the end of a path count for nothing.
-/

namespace FileConduit.RemotePath

/-! ## The last slash -/

theorem bne_slash {name : List Char} (hname : '/' ∉ name) :
    ∀ c ∈ name.reverse, (c != '/') = true := by
  intro c hc
  exact bne_iff_ne.mpr fun heq => hname (heq ▸ List.mem_reverse.mp hc)

theorem afterLastSlash_append {name : List Char} (hname : '/' ∉ name) (front : List Char) :
    afterLastSlash (front ++ '/' :: name) = name := by
  rw [afterLastSlash, List.reverse_append, List.reverse_cons, List.append_assoc,
    List.takeWhile_append_of_pos (bne_slash hname)]
  simp

theorem beforeLastSlash_append {name : List Char} (hname : '/' ∉ name) (front : List Char) :
    beforeLastSlash (front ++ '/' :: name) = front := by
  rw [beforeLastSlash, List.reverse_append, List.reverse_cons, List.append_assoc,
    List.dropWhile_append_of_pos (bne_slash hname)]
  simp

/-- Text that does not end with a slash has none to lose. -/
theorem trimSlashes_eq_self {path : List Char} (hlast : path.getLast? ≠ some '/') :
    trimSlashes path = path := by
  rcases List.eq_nil_or_concat path with rfl | ⟨front, last, rfl⟩
  · rfl
  · rw [List.concat_eq_append, List.getLast?_concat, ne_eq, Option.some.injEq] at hlast
    simp [trimSlashes, hlast]

/-! ## The directory and the name of an entry -/

/-- The text of a directory without the one slash that may stand at its end. -/
def unslashed (directory : String) : List Char :=
  if directory.toList.getLast? = some '/' then directory.toList.dropLast else directory.toList

theorem toList_join (directory name : String) :
    (join directory name).toList = unslashed directory ++ '/' :: name.toList := by
  unfold join unslashed
  split
  · rename_i hlast
    have hsplit := List.dropLast_append_getLast? '/' hlast
    rw [String.toList_append, ← List.singleton_append, ← List.append_assoc, hsplit]
  · simp

theorem join_ne_empty (directory name : String) : join directory name ≠ "" := by
  intro hempty
  have hlist := congrArg String.toList hempty
  rw [toList_join] at hlist
  simp at hlist

theorem join_congr {first second : String} (hsame : unslashed first = unslashed second)
    (name : String) : join first name = join second name := by
  apply String.toList_injective
  rw [toList_join, toList_join, hsame]

variable {directory name : String}

theorem trimSlashes_join (directory : String) (hname : name ≠ "") (hslash : '/' ∉ name.toList) :
    trimSlashes (join directory name).toList = unslashed directory ++ '/' :: name.toList := by
  rw [toList_join]
  -- The path ends with the name, in which no slash stands.
  apply trimSlashes_eq_self
  have hne : name.toList ≠ [] := fun hnil => hname (String.toList_eq_nil_iff.mp hnil)
  rw [List.append_cons, List.getLast?_append_of_ne_nil _ hne]
  exact fun hlast => hslash (List.mem_of_getLast? hlast)

theorem basename_join (directory : String) (hname : name ≠ "") (hslash : '/' ∉ name.toList) :
    basename (join directory name) = name := by
  rw [basename, trimSlashes_join directory hname hslash, afterLastSlash_append hslash,
    String.ofList_toList]

theorem parent_join (directory : String) (hname : name ≠ "") (hslash : '/' ∉ name.toList) :
    parent (join directory name) =
      if unslashed directory = [] then "/" else String.ofList (unslashed directory) := by
  unfold parent
  simp only [trimSlashes_join directory hname hslash, beforeLastSlash_append hslash]
  rw [if_pos (by simp)]
  split
  · rename_i hnil
    rw [if_pos hnil]
  · rename_i hne
    rw [if_neg hne]

/-- Only one slash is taken off at the end, so a second one would stay. -/
theorem getLast?_unslashed (hdirectory : ¬['/', '/'] <:+ directory.toList) :
    (unslashed directory).getLast? ≠ some '/' := by
  unfold unslashed
  split
  · rename_i hlast
    intro hbefore
    have hwhole := List.dropLast_append_getLast? '/' hlast
    have hfront := List.dropLast_append_getLast? '/' hbefore
    apply hdirectory
    rw [← hwhole, ← hfront, List.append_assoc]
    exact List.suffix_append _ _
  · assumption

/-- The directory of an entry is the one it was made with, up to a slash at the end. -/
theorem unslashed_parent_join (hdirectory : ¬['/', '/'] <:+ directory.toList) (hname : name ≠ "")
    (hslash : '/' ∉ name.toList) :
    unslashed (parent (join directory name)) = unslashed directory := by
  rw [parent_join directory hname hslash]
  split
  · rename_i hroot
    rw [hroot]
    rfl
  · rw [unslashed, String.toList_ofList, if_neg (getLast?_unslashed hdirectory)]

theorem parent_join_ne_empty (directory : String) (hname : name ≠ "")
    (hslash : '/' ∉ name.toList) : parent (join directory name) ≠ "" := by
  rw [parent_join directory hname hslash]
  split
  · decide
  · rename_i hne
    intro hempty
    exact hne (by simpa using congrArg String.toList hempty)

/-! ## Targets of links -/

variable {link target : String}

theorem resolveLink_absolute (htarget : target.toList.head? = some '/') (link : String) :
    resolveLink link target = target := by
  rw [resolveLink, if_pos htarget]

theorem resolveLink_join (hdirectory : ¬['/', '/'] <:+ directory.toList) (hname : name ≠ "")
    (hslash : '/' ∉ name.toList) (htarget : target.toList.head? ≠ some '/') :
    resolveLink (join directory name) target = join directory target := by
  rw [resolveLink, if_neg htarget, if_neg (parent_join_ne_empty directory hname hslash)]
  exact join_congr (unslashed_parent_join hdirectory hname hslash) target

/-! ## Slashes at the end -/

def slashes (count : Nat) : String :=
  String.ofList (List.replicate count '/')

theorem trimSlashes_append (path : List Char) (count : Nat) :
    trimSlashes (path ++ List.replicate count '/') = trimSlashes path := by
  have hslashes : ∀ c ∈ List.replicate count '/', (c == '/') = true := fun c hc =>
    beq_iff_eq.mpr (List.eq_of_mem_replicate hc)
  rw [trimSlashes, List.reverse_append, List.reverse_replicate,
    List.dropWhile_append_of_pos hslashes]
  rfl

theorem trimSlashes_slashed (link : String) (count : Nat) :
    trimSlashes (link ++ slashes count).toList = trimSlashes link.toList := by
  rw [String.toList_append, slashes, String.toList_ofList, trimSlashes_append]

theorem basename_slashed (link : String) (count : Nat) :
    basename (link ++ slashes count) = basename link := by
  rw [basename, basename, trimSlashes_slashed]

theorem parent_slashed (hlink : link ≠ "") (count : Nat) :
    parent (link ++ slashes count) = parent link := by
  have hne : link.toList ≠ [] := fun hnil => hlink (String.toList_eq_nil_iff.mp hnil)
  have hhead : (link ++ slashes count).toList.head? = link.toList.head? := by
    rw [String.toList_append, List.head?_append_of_ne_nil _ hne]
  simp only [parent, trimSlashes_slashed, hhead]

theorem resolveLink_slashed (hlink : link ≠ "") (target : String) (count : Nat) :
    resolveLink (link ++ slashes count) target = resolveLink link target := by
  rw [resolveLink, resolveLink, parent_slashed hlink]

/-- The last component of the path of an entry is its name.  The target of a link among the entries
stays as it is when it is absolute, and is taken among the same entries when it is relative.
Slashes at the end of a link change neither its directory, nor its name, nor where it leads. -/
theorem links_lead_beside (hdirectory : ¬['/', '/'] <:+ directory.toList) (hname : name ≠ "")
    (hslash : '/' ∉ name.toList) (target : String) :
    basename (join directory name) = name ∧
      (target.toList.head? = some '/' → ∀ link, resolveLink link target = target) ∧
      (target.toList.head? ≠ some '/' →
        resolveLink (join directory name) target = join directory target) ∧
      join directory name ≠ "" ∧
      ∀ link : String, link ≠ "" → ∀ count,
        parent (link ++ slashes count) = parent link ∧
          basename (link ++ slashes count) = basename link ∧
          resolveLink (link ++ slashes count) target = resolveLink link target := by
  refine ⟨basename_join directory hname hslash, resolveLink_absolute,
    resolveLink_join hdirectory hname hslash, join_ne_empty directory name, ?_⟩
  intro link hlink count
  exact ⟨parent_slashed hlink count, basename_slashed link count,
    resolveLink_slashed hlink target count⟩

/-- A link in a directory that is spelled with a slash at its end, and its target beside it. -/
theorem slashed_link_leads_beside :
    ¬['/', '/'] <:+ "/a/b/".toList ∧ "l" ≠ "" ∧ '/' ∉ "l".toList ∧
      basename "/a/b/l" = "l" ∧ resolveLink "/a/b/l" "../c" = "/a/b/../c" ∧
      resolveLink "/a/b/l//" "../c" = "/a/b/../c" := by
  have hdirectory : ¬['/', '/'] <:+ "/a/b/".toList := by decide
  have hname : "l" ≠ "" := by decide
  have hslash : '/' ∉ "l".toList := by decide
  obtain ⟨hbase, -, hrelative, hne, hslashed⟩ := links_lead_beside hdirectory hname hslash "../c"
  have hbeside : resolveLink "/a/b/l" "../c" = "/a/b/../c" := hrelative (by decide)
  refine ⟨hdirectory, hname, hslash, hbase, hbeside, ?_⟩
  exact (hslashed "/a/b/l" hne 2).2.2.trans hbeside

end FileConduit.RemotePath

import FileConduit.Proofs.Host.Listing
import FileConduit.Proofs.Program.Trace
import Mathlib.Data.Finset.Dedup
import Mathlib.Data.Finset.Lattice.Fold
import Mathlib.Order.Lattice.Nat

/-!
# What a host shows to one who reads

A view tells of a file system only how its directories can be come to: each path leads to one
directory or to none, there are finitely many of them, and each has its names.  How links are
followed is left open, so a view may hold cycles.  The host's files of a session have a view, which
stays as long as nothing is written.
-/

namespace FileConduit

structure HostView where
  directories : Finset Location
  /-- The place of the directory that a path leads to, if it leads to one. -/
  directory? : HostPath → Option Location
  names : Location → List String
  directory_mem : ∀ {path : HostPath} {place : Location}, directory? path = some place →
    place ∈ directories

namespace HostView

/-- Whether an answer of the host agrees with a view.  The host may fail at any time. -/
def Shows (view : HostView) : Event → Prop
  | .host (.isDirectory path) (.ok answer) => answer = (view.directory? path).isSome
  | .host (.realPlace path) (.ok place) =>
      ∀ directory, view.directory? path = some directory → place = directory
  | .host (.names path) (.ok names) =>
      ∀ directory, view.directory? path = some directory → names.Perm (view.names directory)
  | _ => True

def width (view : HostView) : Nat :=
  view.directories.sup fun place => (view.names place).length

theorem length_names_le (view : HostView) {place : Location} (hplace : place ∈ view.directories) :
    (view.names place).length ≤ view.width :=
  Finset.le_sup (f := fun place => (view.names place).length) hplace

end HostView

namespace HostTree

variable {tree : HostTree}

def directory? (tree : HostTree) (path : HostPath) : Option Location :=
  match tree.find path with
  | .ok (place, .directory) => some place
  | _ => none

theorem find_of_directory? {path : HostPath} {place : Location}
    (hdirectory : tree.directory? path = some place) :
    tree.find path = .ok (place, .directory) := by
  unfold directory? at hdirectory
  split at hdirectory
  · rename_i found hfind
    rw [hfind, Option.some.inj hdirectory]
  · cases hdirectory

def view (tree : HostTree) : HostView where
  directories := ([] :: tree.mount :: tree.entries.map Prod.fst).toFinset
  directory? := tree.directory?
  names place := (tree.entries.map Prod.fst).filterMap (entryName place)
  directory_mem := by
    intro path place hdirectory
    obtain ⟨-, hentry⟩ := of_find (find_of_directory? hdirectory)
    rw [List.mem_toFinset, List.mem_cons, List.mem_cons]
    by_cases hfixed : place = [] ∨ place = tree.mount
    · rw [← or_assoc]
      exact .inl hfixed
    · rw [get?, if_neg hfixed] at hentry
      exact .inr (.inr (lookup_ne_none.mp (by rw [hentry]; simp)))

end HostTree

def HostAction.Reads : HostAction → Prop
  | isDirectory _ | read _ | names _ | realPlace _ => True
  | write _ _ | makeDirectories _ => False

namespace Session

variable {σ α : Type}

end Session

end FileConduit

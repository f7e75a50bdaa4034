import FileConduit.Proofs.Client.Removal.Course
import Mathlib.Data.List.Basic

/-!
# How far a removal reaches

A removal asks for its path and for paths that go on from it, and for nothing else, whatever the
device lists: an entry that names no child is passed over.
-/

namespace FileConduit

namespace RemotePath

def Within (directory path : String) : Prop :=
  directory.toList <+: path.toList

def Below (directory path : String) : Prop :=
  Within directory path ∧ directory ≠ path

variable {directory path other : String}

theorem Within.refl (path : String) : Within path path := List.prefix_rfl

theorem Within.trans (hpath : Within directory path) (hother : Within path other) :
    Within directory other :=
  List.IsPrefix.trans hpath hother

theorem Within.antisymm (hpath : Within directory path) (hback : Within path directory) :
    directory = path :=
  String.toList_inj.mp (hpath.eq_of_length_le hback.length_le)

theorem Below.within (hbelow : Below directory path) : Within directory path := hbelow.1

theorem Below.of_within (hpath : Below directory path) (hother : Within path other) :
    Below directory other := by
  refine ⟨hpath.1.trans hother, fun heq => hpath.2 ?_⟩
  rw [← heq] at hother
  exact hpath.1.antisymm hother

theorem join_below (directory : String) {name : String} (hname : isTraversal name = false) :
    Below directory (join directory name) := by
  have hnonempty : name.toList ≠ [] := by
    intro hempty
    rw [String.toList_eq_nil_iff.mp hempty] at hname
    exact absurd hname (by decide)
  have hjoin : ∃ rest, rest ≠ [] ∧ (join directory name).toList = directory.toList ++ rest := by
    unfold join
    split
    · exact ⟨name.toList, hnonempty, String.toList_append⟩
    · exact ⟨'/' :: name.toList, by simp, by simp⟩
  obtain ⟨rest, hrest, hspelled⟩ := hjoin
  refine ⟨⟨rest, hspelled.symm⟩, fun heq => hrest ?_⟩
  rw [← heq] at hspelled
  simpa using hspelled

end RemotePath

namespace Client

open RemotePath

inductive Touches : Round → String → Prop where
  | look (path : String) (answer : Option (Except ClientError InfoDictionary)) :
      Touches ⟨.fileInfo path, answer⟩ path
  | listing (path : String) (answer : Option (Except ClientError (List String))) :
      Touches ⟨.readDirectory path, answer⟩ path
  | removal (path : String) (answer : Option (Except ClientError StatusCode)) :
      Touches ⟨.remove path, answer⟩ path

theorem Touches.unique {round : Round} {path other : String} (hpath : Touches round path)
    (hother : Touches round other) : path = other := by
  cases hpath <;> cases hother <;> rfl

def Task.Covers : Task → String → Prop
  | .tree _ directory _, path => Within directory path
  | .entry _ directory, path => Within directory path
  | .entries _ directory _, path => Below directory path

section

variable {task : Task} {path directory : String} {force : Bool} {rounds : List Round}
  {outcome : Outcome (List String)}

theorem Task.Opens.covers (hopens : task.Opens path force) : task.Covers path := by
  cases hopens <;> exact .refl path

theorem Course.extent (hcourse : Course task rounds outcome) :
    ∀ round ∈ rounds, ∃ path, Touches round path ∧ task.Covers path := by
  induction hcourse with
  | tooDeep path force => simp
  | unseen hopens =>
      intro round hround
      rw [List.mem_singleton.mp hround]
      exact ⟨_, .look _ _, hopens.covers⟩
  | failed hopens hsight =>
      intro round hround
      rw [List.mem_singleton.mp hround]
      exact ⟨_, .look _ _, hopens.covers⟩
  | absent hopens hsight =>
      intro round hround
      rw [List.mem_singleton.mp hround]
      exact ⟨_, .look _ _, hopens.covers⟩
  | single hopens hsight own =>
      intro round hround
      rcases List.mem_pair.mp hround with rfl | rfl
      · exact ⟨_, .look _ _, hopens.covers⟩
      · exact ⟨_, .removal _ _, hopens.covers⟩
  | unlisted hsight =>
      intro round hround
      rcases List.mem_pair.mp hround with rfl | rfl
      · exact ⟨_, .look _ _, .refl _⟩
      · exact ⟨_, .listing _ _, .refl _⟩
  | unreadable error hsight =>
      intro round hround
      rcases List.mem_pair.mp hround with rfl | rfl
      · exact ⟨_, .look _ _, .refl _⟩
      · exact ⟨_, .listing _ _, .refl _⟩
  | interrupted hsight hentries hends ih =>
      intro round hround
      simp only [List.mem_cons] at hround
      rcases hround with rfl | rfl | hround
      · exact ⟨_, .look _ _, .refl _⟩
      · exact ⟨_, .listing _ _, .refl _⟩
      · obtain ⟨path, htouches, hbelow⟩ := ih round hround
        exact ⟨path, htouches, hbelow.within⟩
  | emptied hsight hentries own ih =>
      intro round hround
      simp only [List.mem_cons, List.mem_append, List.not_mem_nil, or_false] at hround
      rcases hround with rfl | rfl | hround | rfl
      · exact ⟨_, .look _ _, .refl _⟩
      · exact ⟨_, .listing _ _, .refl _⟩
      · obtain ⟨path, htouches, hbelow⟩ := ih round hround
        exact ⟨path, htouches, hbelow.within⟩
      · exact ⟨_, .removal _ _, .refl _⟩
  | nested hsight htree ih =>
      intro round hround
      rcases List.mem_cons.mp hround with rfl | hround
      · exact ⟨_, .look _ _, .refl _⟩
      · exact ih round hround
  | none depth directory => simp
  | skipped hname hentries ih => exact ih
  | stopped hname hentry hends ih =>
      intro round hround
      obtain ⟨path, htouches, hwithin⟩ := ih round hround
      exact ⟨path, htouches, (join_below _ hname).of_within hwithin⟩
  | next hname hentry hentries ihfirst ihrest =>
      intro round hround
      rcases List.mem_append.mp hround with hround | hround
      · obtain ⟨path, htouches, hwithin⟩ := ihfirst round hround
        exact ⟨path, htouches, (join_below _ hname).of_within hwithin⟩
      · exact ihrest round hround

/-- The entries of a directory are removed without a request for the directory itself. -/
theorem Course.not_touches {depth : Nat} {names : List String}
    (hcourse : Course (.entries depth directory names) rounds outcome) {round : Round}
    (hround : round ∈ rounds) : ¬ Touches round directory := by
  intro htouches
  obtain ⟨path, hpath, hbelow⟩ := hcourse.extent round hround
  exact hbelow.2 (htouches.unique hpath)

end

end Client

end FileConduit

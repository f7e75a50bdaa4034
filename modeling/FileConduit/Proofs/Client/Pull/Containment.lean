import FileConduit.Client.Transfer
import FileConduit.Proofs.Path.HostName
import FileConduit.Proofs.Program.Confinement

/-!
# Where a pull writes

A pull gives every file and directory a place below the one it was told: each step only goes down
by a name that has been made safe, whatever the device lists, and however links lead about on the
device.
-/

namespace FileConduit

namespace HostPath

/-- Whether a path is another one, followed by names that each lead one directory down. -/
def Holds (directory path : HostPath) : Prop :=
  ∃ names : List String, (∀ name ∈ names, ChildName name) ∧ path = ⟨directory.parts ++ names⟩

theorem Holds.itself (directory : HostPath) : directory.Holds directory := by
  refine ⟨[], by simp, ?_⟩
  rw [List.append_nil]

theorem Holds.child {directory path : HostPath} (hpath : directory.Holds path) {name : String}
    (hname : ChildName name) : directory.Holds (path.child name) := by
  obtain ⟨names, hnames, rfl⟩ := hpath
  refine ⟨names ++ [name], ?_, ?_⟩
  · intro other hother
    rcases List.mem_append.mp hother with hin | hlast
    · exact hnames other hin
    · rw [List.mem_singleton.mp hlast]
      exact hname
  · rw [HostPath.child, List.append_assoc]

end HostPath

/-! ## Directories made on the way -/

namespace HostTree

/-- Changes of the host's files that make directories, one at a time. -/
inductive Makes (allowed : List String → Prop) : HostTree → HostTree → Prop where
  | nothing (tree : HostTree) : Makes allowed tree tree
  | directory {before between after : HostTree} {parts : List String}
      (hearlier : Makes allowed before between) (hallowed : allowed parts)
      (hmade : between.makeDirectory ⟨parts⟩ = .ok after) : Makes allowed before after

/-- A directory and those that lead to it, as far as the text of its path tells. -/
inductive Leads (directory : List String) : List String → Prop where
  | itself : Leads directory directory
  | above {parts : List String} (hparts : Leads directory parts) : Leads directory (above parts)

/-- No more is made than the directory asked for and those above it. -/
theorem makeDirectories_makes {allowed : List String → Prop}
    (habove : ∀ parts, allowed parts → allowed (above parts)) (tree : HostTree)
    (parts : List String) (hparts : allowed parts) :
    Makes allowed tree (tree.makeDirectories parts).2 := by
  fun_induction makeDirectories tree parts with
  | case1 parts made hmade => exact .directory (.nothing tree) hparts hmade
  | case2 => exact .nothing _
  | case3 parts hmissing hne fault between hupper ih =>
      have hearlier := ih (habove parts hparts)
      rwa [hupper] at hearlier
  | case4 parts hmissing hne between hupper made hmade ih =>
      have hearlier := ih (habove parts hparts)
      rw [hupper] at hearlier
      exact .directory hearlier hparts hmade
  | case5 parts hmissing hne between hupper fault hfault ih =>
      have hearlier := ih (habove parts hparts)
      rwa [hupper] at hearlier
  | case6 parts fault hfault hother => exact .nothing tree

theorem above_concat {parts : List String} {name : String} (hname : ChildName name) :
    above (parts ++ [name]) = parts := by
  have hkept : HostPath.isIdle name = false := by
    simp [HostPath.isIdle, hname.ne_empty, hname.ne_dot]
  simp [above, hkept]

/-- What is made on the way to a path below a directory is below it too, or leads to it. -/
theorem makeDirectories_held (tree : HostTree) {directory path : HostPath}
    (hpath : directory.Holds path) :
    Makes (fun parts => directory.Holds ⟨parts⟩ ∨ Leads directory.parts parts) tree
      (tree.makeDirectories path.parts).2 := by
  refine makeDirectories_makes (fun parts hparts => ?_) tree path.parts (.inl hpath)
  rcases hparts with ⟨names, hnames, heq⟩ | hleads
  · cases heq
    rcases List.eq_nil_or_concat names with rfl | ⟨upper, last, rfl⟩
    · rw [List.append_nil]
      exact .inr (.above .itself)
    · rw [List.concat_eq_append] at hnames ⊢
      rw [← List.append_assoc, above_concat (hnames last (by simp))]
      exact .inl ⟨upper, fun name hname => hnames name (by simp [hname]), rfl⟩
  · exact .inr (.above hleads)

end HostTree

namespace Client

open Program

variable {allowed : HostAction → Prop}

/-! ## Operations that leave the host alone -/

theorem stat_confined (path : String) : (stat path).Confined allowed fun _ => True := by
  intro answer
  dsimp only
  split
  · trivial
  · trivial
  · split
    · trivial
    · split <;> trivial

theorem resolve_confined (path : String) : (resolve path).Confined allowed fun _ => True := by
  refine (stat_confined path).bind fun info _ => ?_
  split
  · trivial
  · split
    · split <;> trivial
    · trivial

theorem isDirectory_confined (path : String) :
    (isDirectory path).Confined allowed fun _ => True :=
  (stat_confined path).bind fun _ _ => trivial

theorem readRemaining_confined (config : ClientConfig) (handle : Handle) (remaining : Nat) :
    ∀ received, (readRemaining config handle received remaining).Confined allowed
      fun _ => True := by
  -- Each answer that is not empty makes what remains shorter.
  induction remaining using Nat.strongRecOn with
  | ind remaining ih =>
      intro received
      rw [readRemaining]
      split
      · trivial
      · intro answer
        dsimp only
        split
        · trivial
        · trivial
        · exact ih _ (by omega) _

theorem thenClose_confined {α : Type} (handle : Handle) {program : Program α}
    (hprogram : program.Confined allowed fun _ => True) :
    (thenClose handle program).Confined allowed fun _ => True := by
  refine hprogram.andThen fun result _ => ?_
  refine (Confined.request (.close handle)).andThen fun closed _ => ?_
  split <;> trivial

theorem readAll_confined (config : ClientConfig) (handle : Handle) (size : UInt64) :
    (readAll config handle size).Confined allowed fun _ => True := by
  unfold readAll
  split
  · trivial
  · exact thenClose_confined handle (readRemaining_confined config handle size.toNat [])

theorem getContents_confined (config : ClientConfig) (path : String) :
    (getContents config path).Confined allowed fun _ => True := by
  refine (resolve_confined path).bind fun source _ => ?_
  refine (stat_confined source).bind fun info _ => ?_
  refine (Confined.ofResult (regularSize source info)).bind fun size _ => ?_
  refine (Confined.request (.openFile source .readOnly)).bind fun handle _ => ?_
  split
  · trivial
  · exact (readAll_confined config handle size).bind fun contents _ => trivial

/-! ## One step -/

namespace Pull

def Allowed (directory : HostPath) (action : HostAction) : Prop :=
  ∃ path, directory.Holds path ∧
    (action = .makeDirectories path ∨ ∃ contents, action = .write path contents)

def Within (directory : HostPath) (pull : Pull) : Prop :=
  ∀ copy ∈ pull.pending, directory.Holds copy.2

theorem destination_held (config : ClientConfig) (remote : String) (directory : HostPath) :
    directory.Holds (destination config remote directory) := by
  unfold destination
  split
  · exact .itself directory
  · exact (HostPath.Holds.itself directory).child (HostName.childName_sanitize _ _)

theorem start_within (config : ClientConfig) (remote : String) (directory : HostPath) :
    Within directory (start config remote directory) := by
  intro copy hcopy
  rw [List.mem_singleton.mp hcopy]
  exact destination_held config remote directory

/-- Whatever names a directory lists, the copies of its entries go below its own place. -/
theorem children_held {directory target : HostPath} (htarget : directory.Holds target)
    (config : ClientConfig) (source : String) (names : List String) :
    ∀ copy ∈ children config source target names, directory.Holds copy.2 := by
  intro copy hcopy
  obtain ⟨name, -, rfl⟩ := List.mem_map.mp hcopy
  exact htarget.child (HostName.childName_sanitize config.namingStyle name)

theorem step_confined (config : ClientConfig) {directory : HostPath} (pull : Pull)
    (hwithin : Within directory pull) :
    (step config pull).Confined (Allowed directory)
      fun next => ∀ later, next = some later → Within directory later := by
  unfold step
  split
  · intro later hlater
    cases hlater
  · rename_i source target rest hpending
    have htarget : directory.Holds target :=
      hwithin (source, target) (hpending ▸ List.mem_cons_self)
    have hrest : ∀ copy ∈ rest, directory.Holds copy.2 := fun copy hcopy =>
      hwithin copy (hpending ▸ List.mem_cons_of_mem _ hcopy)
    refine Confined.stopIfCancelled.bind fun _ _ => ?_
    refine (resolve_confined source).bind fun source _ => ?_
    refine (isDirectory_confined source).bind fun isDirectory _ => ?_
    split
    · have hmake : Allowed directory (.makeDirectories target) := ⟨target, htarget, .inl rfl⟩
      refine (Confined.onHost hmake).bind fun _ _ => ?_
      split
      · intro later hlater
        cases hlater
        exact hrest
      · refine (Confined.request (.readDirectory source)).bind fun names _ => ?_
        intro later hlater
        cases hlater
        intro copy hcopy
        rcases List.mem_append.mp hcopy with hchild | hlater
        · exact children_held htarget config source names copy hchild
        · exact hrest copy hlater
    · refine (getContents_confined config source).bind fun contents _ => ?_
      have hwrite : Allowed directory (.write target (contents.getD [])) :=
        ⟨target, htarget, .inr ⟨_, rfl⟩⟩
      refine (Confined.onHost hwrite).bind fun _ _ => ?_
      intro later hlater
      cases hlater
      exact hrest

end Pull

theorem pull_confined (config : ClientConfig) (steps : Nat) (remote : String)
    (directory : HostPath) :
    (pull config steps remote directory).Confined (Pull.Allowed directory) fun _ => True := by
  have hstep : ∀ now, Pull.Within directory now → _ := Pull.step_confined config
  exact Confined.repeatUntilNone hstep steps _ (Pull.start_within config remote directory)

end Client

/-- Whatever the device does, a pull changes the host's files only by writing files and making
directories at paths that are the given directory followed by single components.  Beside such a
directory no more is made than those between it and the given one, and those that lead there. -/
theorem pull_stays_within {σ : Type} (device : Device σ) (session : Session σ)
    (config : ClientConfig) (steps : Nat) (remote : String) (directory : HostPath) :
    let pull := Client.pull config steps remote directory
    let actions := session.hostActions device pull
    (session.run device pull).2.host =
      actions.foldl (fun tree action => (tree.perform action).2) session.host ∧
    (∀ action ∈ actions, ∃ path, directory.Holds path ∧
      (action = .makeDirectories path ∨ ∃ contents, action = .write path contents)) ∧
    ∀ path, .makeDirectories path ∈ actions → ∀ tree : HostTree,
      HostTree.Makes (fun parts => directory.Holds ⟨parts⟩ ∨ HostTree.Leads directory.parts parts)
        tree (tree.perform (.makeDirectories path)).2 := by
  intro pull actions
  have hconfined := Client.pull_confined config steps remote directory
  have hallowed := Session.allowed_of_confined device hconfined session
  refine ⟨Session.run_host device pull session, hallowed, fun path hmade tree => ?_⟩
  obtain ⟨held, hheld, hsame | ⟨contents, hwrite⟩⟩ := hallowed _ hmade
  · cases hsame
    exact tree.makeDirectories_held hheld
  · cases hwrite

end FileConduit

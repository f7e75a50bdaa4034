import FileConduit.Proofs.Client.Pull.Step

/-!
# The runs of a pull

A run of a pull is one step after another.  Each lists a directory or makes what is due shorter,
so that a run is at most as long as the directories it lists have entries; and once nothing is
due, every directory that could be come to has been listed.
-/

namespace FileConduit

open Program

open Client (Pull)

variable {σ : Type} {server : FileServer σ} {config : ClientConfig}

/-- What a pull lists in at most so many steps, and how it ends. -/
inductive Runs (server : FileServer σ) (config : ClientConfig) :
    Nat → Pull → List String → Outcome Unit → Prop where
  | exhausted (pull : Pull) : Runs server config 0 pull [] (.halted .steps)
  | finished {steps : Nat} {pull : Pull} {listed : List String}
      (hstep : Stepped server config pull listed (.finished (.ok none))) :
      Runs server config (steps + 1) pull listed (.finished (.ok ()))
  | failed {steps : Nat} {pull : Pull} {listed : List String} {error : ClientError}
      (hstep : Stepped server config pull listed (.finished (.error error))) :
      Runs server config (steps + 1) pull listed (.finished (.error error))
  | halted {steps : Nat} {pull : Pull} {listed : List String}
      (hstep : Stepped server config pull listed (.halted .capacity)) :
      Runs server config (steps + 1) pull listed (.halted .capacity)
  | next {steps : Nat} {pull next : Pull} {listed later : List String} {outcome : Outcome Unit}
      (hstep : Stepped server config pull listed (.finished (.ok (some next))))
      (hrest : Runs server config steps next later outcome) :
      Runs server config (steps + 1) pull (listed ++ later) outcome

theorem play_runs (server : FileServer σ) (config : ClientConfig) (steps : Nat) :
    ∀ (pull : Pull) (world : World σ),
      let play := (repeatUntilNone (Pull.step config) steps pull).play server.responder world
      Runs server config steps pull (listedPaths play.requests) play.outcome := by
  induction steps with
  | zero =>
      intro pull world
      exact .exhausted pull
  | succ steps ih =>
      intro pull world
      have hstepped := step_stepped server config pull world
      unfold PlaysStep at hstepped
      rw [repeatUntilNone, Program.bind, play_andThen]
      cases hplay : (Pull.step config pull).play server.responder world with
      | mk outcome requests reached =>
          rw [hplay] at hstepped
          dsimp only at hstepped
          rcases outcome with (error | _ | next) | _ | cause
          · simp only [play_done, Play.requests_after, Play.outcome_after, List.append_nil]
            exact .failed hstepped
          · simp only [play_done, Play.requests_after, Play.outcome_after, List.append_nil]
            exact .finished hstepped
          · simp only [Play.requests_after, Play.outcome_after, listedPaths_append]
            exact .next hstepped (ih next reached)
          · generalize listedPaths requests = listed at hstepped
            cases hstepped
          · dsimp only
            generalize listedPaths requests = listed at hstepped ⊢
            cases hstepped
            exact .halted .halted

namespace Runs

variable {steps : Nat} {pull : Pull} {listed : List String} {outcome : Outcome Unit}

/-- No spelling is listed twice, and none that has been visited. -/
theorem nodup (hruns : Runs server config steps pull listed outcome) :
    listed.Nodup ∧ ∀ path ∈ listed, path ∉ pull.visited := by
  induction hruns with
  | exhausted pull => exact ⟨.nil, by simp⟩
  | finished hstep =>
      cases hstep
      exact ⟨.nil, by simp⟩
  | failed hstep =>
      cases hstep
      exact ⟨.nil, by simp⟩
  | halted hstep =>
      cases hstep
      exact ⟨.nil, by simp⟩
  | next hstep hrest ih =>
      cases hstep with
      | passed hpending hdone => exact ih
      | entered hpending hsource hdirectory hnew =>
          obtain ⟨hnodup, hfresh⟩ := ih
          refine ⟨List.nodup_cons.mpr ⟨fun hlater => ?_, hnodup⟩, ?_⟩
          · exact hfresh _ hlater List.mem_cons_self
          · intro path hpath
            rcases List.mem_cons.mp hpath with rfl | hpath
            · exact hnew
            · exact fun hvisited => hfresh path hpath (List.mem_cons_of_mem _ hvisited)

/-- A run that has not ended is at most as long as what is due and the entries of what it lists. -/
theorem steps_le {width : Nat}
    (hwidth : ∀ path entries, server.directory? path = some entries →
      (server.listing entries.names).length ≤ width)
    (hruns : Runs server config steps pull listed outcome) (hsteps : outcome = .halted .steps) :
    steps ≤ listed.length * (width + 1) + pull.pending.length := by
  induction hruns with
  | exhausted pull => exact Nat.zero_le _
  | finished hstep => cases hsteps
  | failed hstep => cases hsteps
  | halted hstep => cases hsteps
  | next hstep hrest ih =>
      have hle := ih hsteps
      cases hstep with
      | passed hpending hdone =>
          rw [hpending]
          simp only [List.nil_append, List.length_cons] at hle ⊢
          omega
      | @entered path source target rest entries hpending hsource hdirectory hnew =>
          -- The directory that is entered pays for this step and for its entries.
          have hchildren : (Pull.children config source target
              (server.listing entries.names)).length ≤ width := by
            have hfilter := List.length_filter_le (fun name => !RemotePath.isTraversal name)
              (server.listing entries.names)
            have hall := hwidth source entries hdirectory
            rw [Pull.children, List.length_map]
            omega
          rw [hpending]
          simp only [List.cons_append, List.nil_append, List.length_append, List.length_cons,
            Nat.add_mul] at hle ⊢
          omega

end Runs

/-! ## What is come to -/

inductive Reached (server : FileServer σ) (remote : String) : String → Prop where
  | start : Reached server remote remote
  | entry {path source name : String} {entries : Entries} (hpath : Reached server remote path)
      (hsource : server.resolved path = some source)
      (hdirectory : server.directory? source = some entries)
      (hname : name ∈ server.listing entries.names)
      (hchild : RemotePath.isTraversal name = false) :
      Reached server remote (RemotePath.join source name)

/-- Whether a directory is come to under the given spelling. -/
def Entered (server : FileServer σ) (remote source : String) : Prop :=
  ∃ path, Reached server remote path ∧ server.resolved path = some source ∧
    (server.directory? source).isSome = true

def Settled (server : FileServer σ) (visited : List String) (path : String) : Prop :=
  ∀ source, server.resolved path = some source → (server.directory? source).isSome = true →
    source ∈ visited

theorem Settled.mono {visited more : List String} {path : String}
    (hsettled : Settled server visited path) (hmore : visited ⊆ more) :
    Settled server more path :=
  fun source hsource hdirectory => hmore (hsettled source hsource hdirectory)

theorem mem_children {source : String} {target : HostPath} {names : List String}
    {copy : String × HostPath} (hcopy : copy ∈ Pull.children config source target names) :
    ∃ name ∈ names, RemotePath.isTraversal name = false ∧ copy.1 = RemotePath.join source name := by
  obtain ⟨name, hname, rfl⟩ := List.mem_map.mp hcopy
  obtain ⟨hlisted, hchild⟩ := List.mem_filter.mp hname
  exact ⟨name, hlisted, by simpa using hchild, rfl⟩

theorem children_of_mem (config : ClientConfig) (source : String) (target : HostPath)
    {name : String} {names : List String} (hname : name ∈ names)
    (hchild : RemotePath.isTraversal name = false) :
    ∃ copy ∈ Pull.children config source target names, copy.1 = RemotePath.join source name := by
  have hfiltered : name ∈ names.filter fun name => !RemotePath.isTraversal name :=
    List.mem_filter.mpr ⟨hname, by simp [hchild]⟩
  exact ⟨_, List.mem_map_of_mem hfiltered, rfl⟩

namespace Runs

variable {steps : Nat} {pull : Pull} {listed : List String} {outcome : Outcome Unit}
  {remote : String}

/-- Only directories that are come to are listed. -/
theorem entered (hruns : Runs server config steps pull listed outcome)
    (hpending : ∀ copy ∈ pull.pending, Reached server remote copy.1) :
    ∀ source ∈ listed, Entered server remote source := by
  induction hruns with
  | exhausted pull => simp
  | finished hstep =>
      cases hstep
      simp
  | failed hstep =>
      cases hstep
      simp
  | halted hstep =>
      cases hstep
      simp
  | next hstep hrest ih =>
      cases hstep with
      | passed hfirst hdone =>
          apply ih
          intro copy hcopy
          apply hpending
          rw [hfirst]
          exact List.mem_cons_of_mem _ hcopy
      | entered hfirst hsource hdirectory hnew =>
          rw [hfirst] at hpending
          have hreached := hpending _ List.mem_cons_self
          intro source hlisted
          rcases List.mem_cons.mp hlisted with rfl | hlater
          · exact ⟨_, hreached, hsource, by rw [hdirectory]; rfl⟩
          · apply ih _ source hlater
            intro copy hcopy
            rcases List.mem_append.mp hcopy with hcopy | hcopy
            · obtain ⟨name, hname, hchild, hspelled⟩ := mem_children hcopy
              rw [hspelled]
              exact .entry hreached hsource hdirectory hname hchild
            · exact hpending copy (List.mem_cons_of_mem _ hcopy)

/-- A run that goes through settles all that was due. -/
theorem settled (hruns : Runs server config steps pull listed outcome)
    (hgoes : outcome = .finished (.ok ())) :
    ∀ copy ∈ pull.pending, Settled server (listed ++ pull.visited) copy.1 := by
  induction hruns with
  | exhausted pull => cases hgoes
  | finished hstep =>
      cases hstep with
      | finished hpending => simp [hpending]
  | failed hstep => cases hgoes
  | halted hstep => cases hgoes
  | next hstep hrest ih =>
      cases hstep with
      | passed hpending hdone =>
          rw [hpending]
          intro copy hcopy
          rcases List.mem_cons.mp hcopy with rfl | hcopy
          · intro source hsource hdirectory
            exact List.mem_append_right _ (hdone source hsource hdirectory)
          · exact ih hgoes copy hcopy
      | entered hpending hsource hdirectory hnew =>
          rw [hpending]
          intro copy hcopy
          rcases List.mem_cons.mp hcopy with rfl | hcopy
          · intro other hother _
            rw [hsource] at hother
            cases hother
            exact List.mem_cons_self
          · have hlater := ih hgoes copy (List.mem_append_right _ hcopy)
            exact hlater.mono List.perm_middle.subset

/-- A run that goes through settles the entries of every directory that it lists. -/
theorem settled_entries (hruns : Runs server config steps pull listed outcome)
    (hgoes : outcome = .finished (.ok ())) {source : String} (hlisted : source ∈ listed)
    {entries : Entries} (hdirectory : server.directory? source = some entries) {name : String}
    (hname : name ∈ server.listing entries.names) (hchild : RemotePath.isTraversal name = false) :
    Settled server (listed ++ pull.visited) (RemotePath.join source name) := by
  induction hruns with
  | exhausted pull => cases hgoes
  | finished hstep =>
      cases hstep
      cases hlisted
  | failed hstep => cases hgoes
  | halted hstep => cases hgoes
  | next hstep hrest ih =>
      cases hstep with
      | passed hpending hdone => exact ih hgoes hlisted
      | @entered path first target rest found hpending hsource hfound hnew =>
          rcases List.mem_cons.mp hlisted with rfl | hlater
          · -- The entries of the directory became due in this step, so the rest settles them.
            rw [hfound] at hdirectory
            cases hdirectory
            obtain ⟨copy, hcopy, hspelled⟩ :=
              children_of_mem config source target hname hchild
            rw [← hspelled]
            have hsettled := hrest.settled hgoes copy (List.mem_append_left _ hcopy)
            exact hsettled.mono List.perm_middle.subset
          · exact (ih hgoes hlater).mono List.perm_middle.subset

/-- A pull that goes through lists every directory that is come to. -/
theorem complete {directory : HostPath}
    (hruns : Runs server config steps (.start config remote directory) listed (.finished (.ok ())))
    {source : String} (hentered : Entered server remote source) : source ∈ listed := by
  obtain ⟨path, hreached, hsource, hdirectory⟩ := hentered
  have hsettled : Settled server listed path := by
    induction hreached generalizing source with
    | start =>
        have hstart := hruns.settled rfl _ List.mem_cons_self
        rwa [show (Pull.start config remote directory).visited = [] from rfl,
          List.append_nil] at hstart
    | entry hpath hfollowed hfound hname hchild ih =>
        have hlisted := ih hfollowed (by rw [hfound]; rfl) _ hfollowed (by rw [hfound]; rfl)
        have hentries := hruns.settled_entries rfl hlisted hfound hname hchild
        rwa [show (Pull.start config remote directory).visited = [] from rfl,
          List.append_nil] at hentries
  exact hsettled source hsource hdirectory

end Runs

end FileConduit

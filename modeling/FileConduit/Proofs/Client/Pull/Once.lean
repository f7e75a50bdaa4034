import FileConduit.Proofs.Client.Pull.Run
import Mathlib.Data.List.Nodup

/-!
# How often a pull lists a directory

A pull keeps the spellings of the directories that it has entered and lists none of them again, so
it ends just when there is an end to the spellings that it lists.  A directory of the device may
have several, even without end; so a pull ends and lists each directory at most once if, and only
if, it comes to no directory under two of them.
-/

namespace FileConduit

open Program

open Client (Pull)

variable {σ : Type} {server : FileServer σ} {config : ClientConfig}

/-! ## The directories of a device -/

namespace FileServer

def places (server : FileServer σ) : List Place :=
  (server.root.postOrder "" []).map Prod.fst

theorem mem_places {place : Place} {node : Node} (hnode : server.root.find? place = some node) :
    place ∈ server.places := by
  have hfound : (server.root.find? place).isSome = true := by
    rw [hnode]
    rfl
  obtain ⟨spelled, hentry⟩ :=
    (Node.mem_postOrder server.root server.valid "" [] place).mpr ⟨place, rfl, hfound⟩
  exact List.mem_map_of_mem hentry

theorem located_of_directory? {path : String} {entries : Entries}
    (hdirectory : server.directory? path = some entries) :
    ∃ place node, server.locate path = some place ∧ server.root.find? place = some node ∧
      node.entries = entries := by
  obtain ⟨about, kind, hnode⟩ := directory?_eq hdirectory
  obtain ⟨place, hlocate, hfind⟩ := Option.bind_eq_some_iff.mp hnode
  exact ⟨place, _, hlocate, hfind, rfl⟩

def breadth (server : FileServer σ) (place : Place) : Nat :=
  match server.root.find? place with
  | some node => (server.listing node.entries.names).length
  | none => 0

theorem exists_width (server : FileServer σ) :
    ∃ width, ∀ path entries, server.directory? path = some entries →
      (server.listing entries.names).length ≤ width := by
  refine ⟨(server.places.map server.breadth).max?.getD 0, fun path entries hdirectory => ?_⟩
  obtain ⟨place, node, hlocate, hfind, rfl⟩ := located_of_directory? hdirectory
  have hbreadth : server.breadth place = (server.listing node.entries.names).length := by
    rw [breadth, hfind]
  rw [← hbreadth]
  apply List.le_max?_getD_of_mem
  exact List.mem_map_of_mem (mem_places hfind)

/-- Directories at different places are not more than the places that there are. -/
theorem length_le_places {listed : List String}
    (hdirectories : ∀ path ∈ listed, (server.directory? path).isSome = true)
    (hdistinct : (listed.map server.locate).Nodup) : listed.length ≤ server.places.length := by
  have hsubset : listed.map server.locate ⊆ server.places.map some := by
    intro location hlocation
    obtain ⟨path, hpath, rfl⟩ := List.mem_map.mp hlocation
    obtain ⟨entries, hdirectory⟩ := Option.isSome_iff_exists.mp (hdirectories path hpath)
    obtain ⟨place, node, hlocate, hfind, -⟩ := located_of_directory? hdirectory
    rw [hlocate]
    exact List.mem_map_of_mem (mem_places hfind)
  have hlength := hdistinct.length_le_of_subset hsubset
  rw [List.length_map, List.length_map] at hlength
  exact hlength

end FileServer

/-! ## The runs of a pull from its start -/

/-- Whether no two spellings name the same place. -/
def Unequivocal (server : FileServer σ) (spellings : List String) : Prop :=
  ∀ first ∈ spellings, ∀ second ∈ spellings,
    server.locate first = server.locate second → first = second

def SpelledOnce (server : FileServer σ) (remote : String) : Prop :=
  ∀ first second, Entered server remote first → Entered server remote second →
    server.locate first = server.locate second → first = second

namespace Runs

variable {steps : Nat} {listed : List String} {outcome : Outcome Unit} {remote : String}
  {directory : HostPath}

theorem entered_of_start
    (hruns : Runs server config steps (.start config remote directory) listed outcome) :
    ∀ source ∈ listed, Entered server remote source := by
  refine hruns.entered fun copy hcopy => ?_
  obtain rfl := List.mem_singleton.mp hcopy
  exact .start

/-- Each directory is listed once exactly if no two of the listed spellings name the same. -/
theorem places_nodup_iff
    (hruns : Runs server config steps (.start config remote directory) listed outcome) :
    (listed.map server.locate).Nodup ↔ Unequivocal server listed :=
  List.nodup_map_iff_inj_on hruns.nodup.1

theorem length_le_of_places_nodup
    (hruns : Runs server config steps (.start config remote directory) listed outcome)
    (hdistinct : (listed.map server.locate).Nodup) : listed.length ≤ server.places.length := by
  refine FileServer.length_le_places (fun path hpath => ?_) hdistinct
  obtain ⟨_, _, _, hdirectory⟩ := hruns.entered_of_start path hpath
  exact hdirectory

theorem unequivocal_of_spelledOnce
    (hruns : Runs server config steps (.start config remote directory) listed outcome)
    (hspelled : SpelledOnce server remote) : Unequivocal server listed :=
  fun first hfirst second hsecond hplace =>
    hspelled first second (hruns.entered_of_start first hfirst)
      (hruns.entered_of_start second hsecond) hplace

theorem spelledOnce_of_unequivocal
    (hruns : Runs server config steps (.start config remote directory) listed (.finished (.ok ())))
    (hunequivocal : Unequivocal server listed) : SpelledOnce server remote :=
  fun first second hfirst hsecond hplace =>
    hunequivocal first (hruns.complete hfirst) second (hruns.complete hsecond) hplace

end Runs

/-! ## Pulls in a session -/

/-- The directories that a pull lists in at most so many steps, by their spellings. -/
def Session.pullListed (session : Session σ) (device : Device σ) (config : ClientConfig)
    (remote : String) (directory : HostPath) (steps : Nat) : List String :=
  listedPaths ((session.programTrips device (Client.pull config steps remote directory)).map
    Trip.request)

/-- Whether a pull ends so if it is allowed enough steps. -/
def Session.PullEndsSo (session : Session σ) (device : Device σ) (config : ClientConfig)
    (remote : String) (directory : HostPath) (outcome : Outcome Unit) : Prop :=
  ∃ steps, (session.run device (Client.pull config steps remote directory)).1 = outcome

/-- Whether a pull ends, however it does, if it is allowed enough steps. -/
def Session.PullEnds (session : Session σ) (device : Device σ) (config : ClientConfig)
    (remote : String) (directory : HostPath) : Prop :=
  ∃ steps, (session.run device (Client.pull config steps remote directory)).1 ≠ .halted .steps

/-- Whether a pull ends, and lists no directory of the device more than once. -/
structure Session.PullsOnce (session : Session σ) (device : Device σ) (config : ClientConfig)
    (server : FileServer σ) (remote : String) (directory : HostPath) : Prop where
  ends : session.PullEnds device config remote directory
  once : ∀ steps, ((session.pullListed device config remote directory steps).map
    server.locate).Nodup

section

variable {device : Device σ} {session : Session σ} {remote : String} {directory : HostPath}

theorem pull_runs (hanswers : device.Answers config server.responder)
    (hready : Session.Ready config session) (remote : String) (directory : HostPath)
    (steps : Nat) :
    Runs server config steps (.start config remote directory)
      (session.pullListed device config remote directory steps)
      (session.run device (Client.pull config steps remote directory)).1 := by
  have hrun := Session.run_plays hanswers (Client.pull config steps remote directory) session hready
  have hrequests := Session.programTrips_requests hanswers
    (Client.pull config steps remote directory) session hready
  rw [Session.pullListed, hrequests, hrun.1]
  exact play_runs server config steps _ ⟨session.device, session.host⟩

/-- What is listed in fewer steps is listed in more, and nothing else once the pull has ended. -/
theorem pullListed_of_le (hanswers : device.Answers config server.responder)
    (hready : Session.Ready config session) {fewer more : Nat} (hle : fewer ≤ more) :
    session.pullListed device config remote directory fewer <+:
        session.pullListed device config remote directory more ∧
      ((session.run device (Client.pull config fewer remote directory)).1 ≠ .halted .steps →
        session.pullListed device config remote directory more =
          session.pullListed device config remote directory fewer) := by
  simp only [Session.pullListed, Session.programTrips_requests hanswers _ session hready,
    (Session.run_plays hanswers _ session hready).1]
  obtain ⟨hfront, hended⟩ := play_repeatUntilNone_of_le server.responder
    (Pull.step config) fewer hle (.start config remote directory) ⟨session.device, session.host⟩
  exact ⟨hfront.filterMap _, fun hends =>
    congrArg (fun play => listedPaths play.requests) (hended.resolve_left hends)⟩

theorem ends_of_length_le (hanswers : device.Answers config server.responder)
    (hready : Session.Ready config session) (bound : Nat)
    (hbound : ∀ steps,
      (session.pullListed device config remote directory steps).length ≤ bound) :
    session.PullEnds device config remote directory := by
  obtain ⟨width, hwidth⟩ := server.exists_width
  let enough := bound * (width + 1) + 2
  refine ⟨enough, fun hsteps => ?_⟩
  -- A run that is still under way after so many steps would have listed too much.
  have hruns := pull_runs hanswers hready remote directory enough
  have hle := hruns.steps_le hwidth hsteps
  have hproduct := Nat.mul_le_mul_right (width + 1) (hbound enough)
  have hpending : (Pull.start config remote directory).pending.length = 1 := rfl
  omega

/-- A pull ends just when there is an end to what it lists. -/
theorem pullEnds_iff (hanswers : device.Answers config server.responder)
    (hready : Session.Ready config session) :
    session.PullEnds device config remote directory ↔
      ∃ spellings : List String, ∀ steps,
        session.pullListed device config remote directory steps ⊆ spellings := by
  constructor
  · rintro ⟨last, hends⟩
    refine ⟨session.pullListed device config remote directory last, fun steps => ?_⟩
    rcases Nat.le_total steps last with hfewer | hmore
    · exact (pullListed_of_le hanswers hready hfewer).1.subset
    · rw [(pullListed_of_le hanswers hready hmore).2 hends]
      exact List.Subset.refl _
  · rintro ⟨spellings, hlisted⟩
    refine ends_of_length_le hanswers hready spellings.length fun steps => ?_
    have hnodup := (pull_runs hanswers hready remote directory steps).nodup.1
    exact hnodup.length_le_of_subset (hlisted steps)

theorem pullsOnce_iff (hanswers : device.Answers config server.responder)
    (hready : Session.Ready config session) :
    session.PullsOnce device config server remote directory ↔
      ∀ steps, Unequivocal server (session.pullListed device config remote directory steps) := by
  constructor
  · intro honce steps
    exact (pull_runs hanswers hready remote directory steps).places_nodup_iff.mp (honce.once steps)
  · intro hunequivocal
    have honce : ∀ steps, ((session.pullListed device config remote directory steps).map
        server.locate).Nodup := fun steps =>
      (pull_runs hanswers hready remote directory steps).places_nodup_iff.mpr (hunequivocal steps)
    refine ⟨ends_of_length_le hanswers hready server.places.length fun steps => ?_, honce⟩
    exact (pull_runs hanswers hready remote directory steps).length_le_of_places_nodup (honce steps)

end

/-- No spelling of a directory is listed twice, so a pull ends exactly if it lists no more than
finitely many spellings; they are finitely many if a pull comes to no more of them, and if it goes
through it does not.  A pull ends and lists no directory twice exactly if no two of the spellings
that it lists name the same place.  That is so if it can come to every directory under one spelling
only, and, of a pull that goes through, only then. -/
theorem pull_once_iff (server : FileServer σ) (config : ClientConfig) (device : Device σ)
    (hanswers : device.Answers config server.responder) (session : Session σ)
    (hready : Session.Ready config session) (remote : String) (directory : HostPath) :
    (∀ steps, (session.pullListed device config remote directory steps).Nodup) ∧
    (session.PullEnds device config remote directory ↔ ∃ spellings : List String, ∀ steps,
      session.pullListed device config remote directory steps ⊆ spellings) ∧
    ((∃ spellings : List String, ∀ source, Entered server remote source → source ∈ spellings) →
      session.PullEnds device config remote directory) ∧
    (session.PullEndsSo device config remote directory (.finished (.ok ())) →
      ∃ spellings : List String, ∀ source, Entered server remote source → source ∈ spellings) ∧
    (session.PullsOnce device config server remote directory ↔
      ∀ steps, Unequivocal server (session.pullListed device config remote directory steps)) ∧
    (SpelledOnce server remote → session.PullsOnce device config server remote directory) ∧
    (session.PullEndsSo device config remote directory (.finished (.ok ())) →
      session.PullsOnce device config server remote directory → SpelledOnce server remote) := by
  have hruns := pull_runs hanswers hready remote directory
  refine ⟨fun steps => (hruns steps).nodup.1, pullEnds_iff hanswers hready, ?_, ?_,
    pullsOnce_iff hanswers hready, ?_, ?_⟩
  · rintro ⟨spellings, hentered⟩
    rw [pullEnds_iff hanswers hready]
    exact ⟨spellings, fun steps source hlisted =>
      hentered source ((hruns steps).entered_of_start source hlisted)⟩
  · rintro ⟨steps, hends⟩
    have hgoes := hruns steps
    rw [hends] at hgoes
    exact ⟨_, fun source hentered => hgoes.complete hentered⟩
  · intro hspelled
    rw [pullsOnce_iff hanswers hready]
    exact fun steps => (hruns steps).unequivocal_of_spelledOnce hspelled
  · rintro ⟨steps, hends⟩ honce
    have hunequivocal := (pullsOnce_iff hanswers hready).mp honce
    have hgoes := hruns steps
    rw [hends] at hgoes
    exact hgoes.spelledOnce_of_unequivocal (hunequivocal steps)

/-! ## A link to the directory that holds it -/

namespace Client

def linkedRoot (target : String) : Node :=
  .folder (.cons "d" (.folder (.cons "l" (.link target) .nil)) .nil)

def linked (target : String) : FileServer Unit where
  root := linkedRoot target
  valid := ⟨⟨by decide, by decide, by decide, by decide, by decide⟩, by decide,
    ⟨⟨by decide, by decide, by decide, by decide, by decide⟩, by decide, trivial, trivial⟩, trivial⟩
  locate := (linkedRoot target).locate
  listing names := "." :: ".." :: names
  absent _ := .status .objectNotFound
  other _ request :=
    match request with
    | .remove _ => (.ok .operationNotSupported, ())
    | _ => (.error (.status .operationNotSupported), ())

theorem linked_find? {target : String} {place : Place} {node : Node}
    (hnode : (linked target).root.find? place = some node) :
    node = linkedRoot target ∨
      node = .folder (.cons "l" (.link target) .nil) ∨ node = .link target := by
  have hmem := Node.mem_nodes hnode
  simp only [linked, linkedRoot, Node.folder, Node.nodes, Entries.nodes, Node.link,
    List.append_nil, List.mem_cons, List.not_mem_nil, or_false] at hmem
  exact hmem

/-- Every answer of the device can be framed if its link can be. -/
theorem linked_carried {target : String} (hlink : ∀ path,
      (Request.fileInfo path).Carried {} (.ok (Description.link target).fields))
    (state : Unit) (request : Request) :
    request.Carried {} ((linked target).responder.respond state request).1 := by
  have hfolder : ∀ path, (Request.fileInfo path).Carried {} (.ok Description.directory.fields) :=
    fun path => Request.carried_fields path rfl (by decide) (by decide)
  have hroot : ∀ path, (Request.readDirectory path).Carried {} (.ok [".", "..", "d"]) :=
    fun path => Request.carried_listing path (by decide) (by decide)
  have hinner : ∀ path, (Request.readDirectory path).Carried {} (.ok [".", "..", "l"]) :=
    fun path => Request.carried_listing path (by decide) (by decide)
  cases request with
  | fileInfo path =>
      cases hnode : (linked target).node? path with
      | none =>
          simp only [FileServer.responder, hnode]
          exact Request.carried_refusal 8 (by decide) (by simp [Request.operation]) rfl rfl
      | some node =>
          obtain ⟨place, -, hfind⟩ := Option.bind_eq_some_iff.mp hnode
          simp only [FileServer.responder, hnode]
          rcases linked_find? hfind with rfl | rfl | rfl
          · exact hfolder path
          · exact hfolder path
          · exact hlink path
  | readDirectory path =>
      cases hnode : (linked target).node? path with
      | none =>
          simp only [FileServer.responder, hnode]
          exact Request.carried_refusal 8 (by decide) (by simp [Request.operation]) rfl rfl
      | some node =>
          obtain ⟨place, -, hfind⟩ := Option.bind_eq_some_iff.mp hnode
          simp only [FileServer.responder, hnode]
          rcases linked_find? hfind with rfl | rfl | rfl
          · exact hroot path
          · exact hinner path
          · exact Request.carried_refusal 8 (by decide) (by simp [Request.operation]) rfl rfl
  | remove path => exact Request.carried_removal 15 path (by decide) rfl
  | _ => exact Request.carried_refusal 15 (by decide) (by simp [Request.operation]) rfl rfl

theorem linked_answers_itself :
    (linked "/d").responder.device.Answers {} (linked "/d").responder :=
  Responder.device_answers (linked_carried fun path =>
    Request.carried_fields path rfl (by decide) (by decide))

/-- A link that spells its directory as the pull does leads to no second spelling. -/
theorem linked_spelledOnce : SpelledOnce (linked "/d") "/d" := by
  have hreached : ∀ path, Reached (linked "/d") "/d" path → path = "/d" ∨ path = "/d/l" := by
    intro path hpath
    induction hpath with
    | start => exact .inl rfl
    | entry hpath hsource hdirectory hname hchild ih =>
        have hresolved : ∀ path, path = "/d" ∨ path = "/d/l" →
            (linked "/d").resolved path = some "/d" := by
          rintro path (rfl | rfl)
          · rfl
          · rfl
        rw [hresolved _ ih] at hsource
        cases hsource
        cases hdirectory
        have hlisted := List.mem_cons.mp hname
        simp only [Entries.names, List.mem_cons, List.not_mem_nil, or_false] at hlisted
        rcases hlisted with rfl | rfl | rfl
        · cases hchild
        · cases hchild
        · exact .inr (by decide)
  have hentered : ∀ source, Entered (linked "/d") "/d" source → source = "/d" := by
    rintro source ⟨path, hpath, hsource, -⟩
    rcases hreached path hpath with rfl | rfl
    · exact (Option.some.inj hsource).symm
    · exact (Option.some.inj hsource).symm
  intro first second hfirst hsecond _
  rw [hentered first hfirst, hentered second hsecond]

def receivingHost : HostTree :=
  ⟨"host", [(["host", "out"], .directory)]⟩

end Client

theorem pull_once_linked :
    (Session.fresh {} () Client.receivingHost []).PullsOnce (Client.linked "/d").responder.device {}
      (Client.linked "/d") "/d" ⟨["out"]⟩ := by
  have hexact := pull_once_iff (Client.linked "/d") {} (Client.linked "/d").responder.device
    Client.linked_answers_itself (Session.fresh {} () Client.receivingHost [])
    (Session.fresh_ready {} () Client.receivingHost) "/d" ⟨["out"]⟩
  exact hexact.2.2.2.2.2.1 Client.linked_spelledOnce

/-- A link that spells its directory with a slash behind it makes a pull list it twice. -/
theorem pull_twice_linked :
    (Client.linked "/d/").responder.device.Answers {} (Client.linked "/d/").responder ∧
    (Session.fresh {} () Client.receivingHost []).pullListed (Client.linked "/d/").responder.device
      {} "/d" ⟨["out"]⟩ 2 = ["/d", "/d/"] ∧
    (Client.linked "/d/").locate "/d" = some ["d"] ∧
    (Client.linked "/d/").locate "/d/" = some ["d"] ∧
    ¬ (Session.fresh {} () Client.receivingHost []).PullsOnce
      (Client.linked "/d/").responder.device {} (Client.linked "/d/") "/d" ⟨["out"]⟩ := by
  have hanswers : (Client.linked "/d/").responder.device.Answers {}
      (Client.linked "/d/").responder :=
    Responder.device_answers (Client.linked_carried fun path =>
      Request.carried_fields path rfl (by decide) (by decide))
  have hlisted : (Session.fresh {} () Client.receivingHost []).pullListed
      (Client.linked "/d/").responder.device {} "/d" ⟨["out"]⟩ 2 = ["/d", "/d/"] := by
    rw [Session.pullListed, Session.programTrips_requests hanswers _ _
      (Session.fresh_ready {} () Client.receivingHost)]
    cbv
  refine ⟨hanswers, hlisted, by decide, by decide, fun honce => ?_⟩
  have htwice := honce.once 2
  rw [hlisted] at htwice
  exact absurd htwice (by decide)

end FileConduit

import FileConduit.Proofs.Device.Framed
import FileConduit.Proofs.Host.Listing
import FileConduit.Proofs.Overlay
import FileConduit.Proofs.Program.Loop

/-!
# A push mirrors the tree

With a device to which files can be written, the steps of a push that begin with what is at a place
of the host put its image in its place on the device, and nothing else, before they go on with what
else is due.  A directory is made before anything is put into it, and what belongs into it is put
there in the order of the names.
-/

namespace FileConduit

open Program

inductive Request.Pushing : Request → Prop where
  | makeDirectory (path : String) : Pushing (.makeDirectory path)
  | openFile (path : String) : Pushing (.openFile path .writeOnly)
  | write (chunk : WriteChunk) : Pushing (.write chunk)
  | close (handle : Handle) : Pushing (.close handle)

theorem Request.Storing.pushing {request : Request} (hstoring : request.Storing) :
    request.Pushing := by
  cases hstoring with
  | openFile path => exact .openFile path
  | write chunk => exact .write chunk
  | close handle => exact .close handle

namespace Client

mutual

/-- The requests that upload what is at a place of the host: the contents of a file, or a directory
and then, in the order of their names and one after another, its entries. -/
inductive Uploads (config : ClientConfig) (host : HostTree) :
    Location → String → List Request → Prop where
  | file {spot : Location} {path : String} {contents : Bytes} {requests : List Request}
      (hfile : host.get? spot = some (.file contents))
      (hstores : Stores config path contents requests) : Uploads config host spot path requests
  | directory {spot : Location} {path : String} {names : List String} {requests : List Request}
      (hdirectory : host.get? spot = some .directory)
      (hnames : ∀ name, name ∈ names ↔ host.get? (spot ++ [name]) ≠ none)
      (hsorted : names.Pairwise (· < ·))
      (hentries : UploadsEach config host spot path names requests) :
      Uploads config host spot path (.makeDirectory path :: requests)

inductive UploadsEach (config : ClientConfig) (host : HostTree) :
    Location → String → List String → List Request → Prop where
  | nil (spot : Location) (path : String) : UploadsEach config host spot path [] []
  | cons {spot : Location} {path name : String} {names : List String}
      {first later : List Request}
      (hfirst : Uploads config host (spot ++ [name]) (RemotePath.join path name) first)
      (hlater : UploadsEach config host spot path names later) :
      UploadsEach config host spot path (name :: names) (first ++ later)

end

variable {σ : Type} {device : WritableDevice σ} {config : ClientConfig} {host : HostTree}
  {source : HostPath} {target name : String} {spot : Location} {holder place : Place}
  {visited later : List Location} {state after : σ}

/-! ## What is due -/

structure Push.Due (device : WritableDevice σ) (host : HostTree) (source : HostPath)
    (target : String) (spot : Location) (holder : Place) (name : String)
    (visited : List Location) (state : σ) : Prop where
  found : ∃ entry, host.find source = .ok (spot, entry)
  located : device.locate target = some (holder ++ [name])
  holds : device.held state holder = some .directory
  replaces : ∀ rest entry, host.get? (spot ++ rest) = some entry →
    entry.Replaces (device.held state (holder ++ name :: rest))
  unvisited : ∀ seen ∈ visited, ¬ spot <+: seen

structure Pushed (device : WritableDevice σ) (host : HostTree) (spot : Location) (place : Place)
    (visited later : List Location) (state after : σ) : Prop where
  opened : device.opened after = device.opened state
  held : Overlaid (device.held state) (device.held after) place fun rest =>
    host.get? (spot ++ rest)
  visited : ∀ seen ∈ later, seen ∈ visited ∨ spot <+: seen

/-- What is due stays due while another entry of the same directory is put there. -/
theorem Push.Due.sibling {other : String}
    (hdue : Push.Due device host source target (spot ++ [name]) holder name visited state)
    (hpushed : Pushed device host (spot ++ [other]) (holder ++ [other]) visited later state after)
    (hne : other ≠ name) :
    Push.Due device host source target (spot ++ [name]) holder name later after where
  found := hdue.found
  located := hdue.located
  holds := by
    rw [hpushed.held.apart (not_below_self holder other)]
    exact hdue.holds
  replaces rest entry hentry := by
    rw [hpushed.held.apart (not_below_other (Ne.symm hne) (below_child holder rest name))]
    exact hdue.replaces rest entry hentry
  unvisited seen hseen := by
    rcases hpushed.visited seen hseen with hvisited | hbelow
    · exact hdue.unvisited seen hvisited
    · exact not_below_other hne hbelow

/-- Once a directory is there, its entries are due. -/
theorem Push.Due.below {entry : String} (hformed : host.WellFormed)
    (hdue : Push.Due device host source target spot holder name visited state)
    (hentry : host.get? (spot ++ [entry]) ≠ none)
    (hheld : device.held after =
      Function.update (device.held state) (holder ++ [name]) (some .directory)) :
    Push.Due device host (source.child entry) (RemotePath.join target entry) (spot ++ [entry])
      (holder ++ [name]) entry (spot :: visited) after where
  found := by
    obtain ⟨held, hheld⟩ := Option.ne_none_iff_exists'.mp hentry
    obtain ⟨found, hfind⟩ := hdue.found
    have hdirectory := hformed.held hentry
    rw [(HostTree.of_find hfind).2] at hdirectory
    cases hdirectory
    refine ⟨held, HostTree.find_eq ?_ hheld⟩
    apply HostTree.locate_child (hformed.fits hentry) hfind
    intro link hlink
    exact hdue.replaces [entry] (.link link) hlink
  located := device.locate_join after hdue.located (by rw [hheld, Function.update_self])
    (hformed.fits hentry).child
  holds := by rw [hheld, Function.update_self]
  replaces rest held hrest := by
    rw [List.append_assoc] at hrest
    rw [hheld, Function.update_of_ne (by simp), List.append_assoc]
    exact hdue.replaces (entry :: rest) held hrest
  unvisited seen hseen hbelow := by
    rcases List.mem_cons.mp hseen with rfl | hvisited
    · exact not_below_self seen entry hbelow
    · exact hdue.unvisited seen hvisited ((List.prefix_append _ _).trans hbelow)

/-! ## One step -/

/-- A file is put there in one step. -/
theorem file_pushed (hsize : 0 < config.writeChunkSize.toNat)
    (pending : List (HostPath × String)) {contents : Bytes}
    (hadmits : device.admits (device.opened state))
    (hdue : Push.Due device host source target spot holder name visited state)
    (hfind : host.find source = .ok (spot, .file contents)) :
    ∃ requests after,
      Ends device.responder (Push.step config ⟨visited, (source, target) :: pending⟩)
        ⟨state, host⟩ (.ok (some ⟨visited, pending⟩)) requests ⟨after, host⟩ ∧
      Stores config target contents requests ∧
      device.held after =
        Function.update (device.held state) (holder ++ [name]) (some (.file contents)) ∧
      device.opened after = device.opened state := by
  have hfile := (HostTree.of_find hfind).2
  have hreplaced := hdue.replaces [] (.file contents) (by rwa [List.append_nil])
  obtain ⟨requests, after, hends, hstores, hheld, hopened⟩ :=
    setContents_ends device.storing hsize hdue.located contents ⟨state, host⟩ hdue.holds hreplaced
      hadmits
  have hset : Ends device.responder (setContents config target contents) ⟨state, host⟩ (.ok ())
      requests ⟨after, host⟩ := hends
  have hstop := Ends.stopIfCancelled device.responder ⟨state, host⟩
  have hlook : Ends device.responder (onHost (.isDirectory source)) ⟨state, host⟩ (.ok false) []
      ⟨state, host⟩ :=
    .performed _ _ (congrArg (·, host) (HostTree.isDirectory_found hfind))
  have hread : Ends device.responder (onHost (.read source)) ⟨state, host⟩ (.ok contents) []
      ⟨state, host⟩ :=
    .performed _ _ (congrArg (·, host) (HostTree.read_found hfind))
  refine ⟨requests ++ [], after, hstop.bind (hlook.bind (hread.bind (hset.bind (.done _ _)))), ?_,
    hheld, hopened⟩
  rwa [List.append_nil]

/-- A directory is entered in one step, if it has not been entered before. -/
theorem directory_pushed (config : ClientConfig) (pending : List (HostPath × String))
    (hdue : Push.Due device host source target spot holder name visited state)
    (hfind : host.find source = .ok (spot, .directory)) :
    ∃ after,
      Ends device.responder (Push.step config ⟨visited, (source, target) :: pending⟩)
        ⟨state, host⟩ (.ok (some ⟨spot :: visited, ((host.sortedNames spot).map fun name =>
          (source.child name, RemotePath.join target name)) ++ pending⟩))
        [.makeDirectory target] ⟨after, host⟩ ∧
      device.held after =
        Function.update (device.held state) (holder ++ [name]) (some .directory) ∧
      device.opened after = device.opened state := by
  have hdirectory := (HostTree.of_find hfind).2
  have hreplaced := hdue.replaces [] .directory (by rwa [List.append_nil])
  have hnew : spot ∉ visited := fun hseen => hdue.unvisited spot hseen List.prefix_rfl
  obtain ⟨after, hensure, hheld, hopened⟩ :=
    ensureDirectory_ends hdue.located ⟨state, host⟩ hdue.holds hreplaced
  have hstop := Ends.stopIfCancelled device.responder ⟨state, host⟩
  have hlook : Ends device.responder (onHost (.isDirectory source)) ⟨state, host⟩ (.ok true) []
      ⟨state, host⟩ :=
    .performed _ _ (congrArg (·, host) (HostTree.isDirectory_found hfind))
  have hplace : Ends device.responder (onHost (.realPlace source)) ⟨state, host⟩ (.ok spot) []
      ⟨state, host⟩ :=
    .performed _ _ (congrArg (·, host) (HostTree.realPlace_found hfind))
  have hnames : Ends device.responder (onHost (.names source)) ⟨after, host⟩
      (.ok ((host.entries.map Prod.fst).filterMap (HostTree.entryName spot))) [] ⟨after, host⟩ :=
    .performed _ _ (congrArg (·, host) (HostTree.names_eq hfind))
  refine ⟨after, hstop.bind (hlook.bind (hplace.bind ?_)), hheld, hopened⟩
  rw [if_neg hnew]
  exact hensure.bind (hnames.bind (.done _ _))

/-! ## All steps for what is due -/

def Pushes (device : WritableDevice σ) (config : ClientConfig) (host : HostTree)
    (spot : Location) : Prop :=
  ∀ {source : HostPath} {target name : String} {holder : Place} {visited : List Location}
    (pending : List (HostPath × String)) {state : σ}, device.admits (device.opened state) →
    Push.Due device host source target spot holder name visited state →
    ∃ requests later after,
      Loops device.responder (Push.step config) ⟨visited, (source, target) :: pending⟩
        ⟨state, host⟩ requests ⟨later, pending⟩ ⟨after, host⟩ ∧
      Uploads config host spot target requests ∧
      Pushed device host spot (holder ++ [name]) visited later state after

theorem entries_pushed (names : List String)
    (hpushes : ∀ name ∈ names, Pushes device config host (spot ++ [name]))
    (hdistinct : names.Pairwise (· ≠ ·)) (pending : List (HostPath × String)) :
    ∀ {visited : List Location} {state : σ}, device.admits (device.opened state) →
    (∀ name ∈ names, Push.Due device host (source.child name) (RemotePath.join target name)
      (spot ++ [name]) place name visited state) →
    ∃ requests later after,
      Loops device.responder (Push.step config)
        ⟨visited, (names.map fun name => (source.child name, RemotePath.join target name)) ++
          pending⟩ ⟨state, host⟩ requests ⟨later, pending⟩ ⟨after, host⟩ ∧
      UploadsEach config host spot target names requests ∧
      device.opened after = device.opened state ∧
      Overlaid (device.held state) (device.held after) place
        (imageAmong names fun rest => host.get? (spot ++ rest)) ∧
      ∀ seen ∈ later, seen ∈ visited ∨ ∃ name ∈ names, spot ++ [name] <+: seen := by
  induction names with
  | nil =>
      intro visited state hadmits hdue
      refine ⟨[], visited, state, .refl _ _, .nil _ _, rfl, ?_, fun seen hseen => .inl hseen⟩
      apply Overlaid.of_held
      intro rest entry hentry
      cases rest with
      | nil => cases hentry
      | cons first rest => simp [imageAmong] at hentry
  | cons name names ih =>
      intro visited state hadmits hdue
      obtain ⟨hne, hdistinct⟩ := List.pairwise_cons.mp hdistinct
      obtain ⟨first, middle, reached, hloops, huploads, hpushed⟩ :=
        hpushes name List.mem_cons_self _ hadmits (hdue name List.mem_cons_self)
      have hothers : ∀ other ∈ names, Push.Due device host (source.child other)
          (RemotePath.join target other) (spot ++ [other]) place other middle reached :=
        fun other hother => (hdue other (List.mem_cons_of_mem _ hother)).sibling hpushed
          (hne other hother)
      obtain ⟨rest, later, after, hlater, hrest, hopened, hheld, hvisited⟩ :=
        ih (fun other hother => hpushes other (List.mem_cons_of_mem _ hother)) hdistinct
          (hpushed.opened ▸ hadmits) hothers
      refine ⟨_, later, after, hloops.trans hlater, .cons huploads hrest,
        hopened.trans hpushed.opened, ?_, ?_⟩
      · apply Overlaid.trans hpushed.held.of_child hheld
        intro below
        rw [imageAmong_cons]
        simp only [List.append_assoc, List.singleton_append]
      · intro seen hseen
        rcases hvisited seen hseen with hbefore | ⟨other, hother, hbelow⟩
        · rcases hpushed.visited seen hbefore with hbefore | hbelow
          · exact .inl hbefore
          · exact .inr ⟨name, List.mem_cons_self, hbelow⟩
        · exact .inr ⟨other, List.mem_cons_of_mem _ hother, hbelow⟩

theorem overlaid_update {before after : Place → Option HostEntry} {entry : HostEntry}
    (hafter : after = Function.update before place (some entry)) :
    Overlaid before after place (imageOf entry) := by
  apply Overlaid.of_put
  intro other
  rw [hafter, Function.update_apply]

/-- There is nothing below a file. -/
theorem image_file (hformed : host.WellFormed) {contents : Bytes}
    (hfile : host.get? spot = some (.file contents)) (rest : Location) :
    host.get? (spot ++ rest) = imageOf (.file contents) rest := by
  cases rest with
  | nil => rwa [List.append_nil]
  | cons name rest =>
      rw [imageOf]
      by_contra hbelow
      rw [hformed.above hbelow] at hfile
      cases hfile

/-- A directory shows itself and, below it, what its entries show. -/
theorem image_directory (hformed : host.WellFormed) {names : List String}
    (hnames : ∀ name, name ∈ names ↔ host.get? (spot ++ [name]) ≠ none)
    (hdirectory : host.get? spot = some .directory) (rest : Location) :
    host.get? (spot ++ rest) =
      (imageAmong names (fun rest => host.get? (spot ++ rest)) rest).or
        (imageOf .directory rest) := by
  cases rest with
  | nil =>
      rw [List.append_nil, hdirectory]
      rfl
  | cons name rest =>
      rw [imageAmong, imageOf, Option.or_none]
      by_cases hname : name ∈ names
      · rw [if_pos hname]
      · rw [if_neg hname]
        by_contra hbelow
        apply hname
        rw [hnames]
        cases rest with
        | nil => exact hbelow
        | cons next rest =>
            rw [List.append_cons] at hbelow
            rw [hformed.above hbelow]
            exact Option.some_ne_none _

/-- By induction on how far it goes down from a place, what is there is put wherever it is due. -/
theorem node_pushed (hsize : 0 < config.writeChunkSize.toNat) (hformed : host.WellFormed)
    (depth : Nat) :
    ∀ {spot : Location}, host.mount <+: spot →
      (∀ rest, host.get? (spot ++ rest) ≠ none → rest.length < depth) →
      Pushes device config host spot := by
  induction depth with
  | zero =>
      intro spot hmount hdepth source target name holder visited pending state hadmits hdue
      obtain ⟨entry, hfind⟩ := hdue.found
      have hpresent := (HostTree.of_find hfind).2
      have hnone := hdepth [] (by rw [List.append_nil, hpresent]; exact Option.some_ne_none _)
      exact absurd hnone (Nat.not_lt_zero _)
  | succ depth ih =>
      intro spot hmount hdepth source target name holder visited pending state hadmits hdue
      obtain ⟨entry, hfind⟩ := hdue.found
      have hpresent := (HostTree.of_find hfind).2
      cases entry with
      | link link =>
          have hlink : host.get? (spot ++ []) = some (.link link) := by
            rwa [List.append_nil]
          exact (hdue.replaces [] _ hlink).elim
      | file contents =>
          obtain ⟨requests, after, hstep, hstores, hheld, hopened⟩ :=
            file_pushed hsize pending hadmits hdue hfind
          refine ⟨requests, visited, after, .of_step hstep, .file hpresent hstores, hopened, ?_,
            fun seen hseen => .inl hseen⟩
          rw [funext (image_file hformed hpresent)]
          exact overlaid_update hheld
      | directory =>
          have hnames : ∀ name, name ∈ host.sortedNames spot ↔ host.get? (spot ++ [name]) ≠ none :=
            fun name => HostTree.mem_sortedNames hmount
          have hsorted := hformed.sortedNames_pairwise spot
          obtain ⟨first, hstep, hheld, hfirst⟩ := directory_pushed config pending hdue hfind
          have hbelow : ∀ entry ∈ host.sortedNames spot, Pushes device config host (spot ++ [entry])
              := by
            intro entry hentry
            apply ih (hmount.trans (List.prefix_append _ _))
            intro rest hrest
            rw [List.append_assoc] at hrest
            exact Nat.lt_of_succ_lt_succ (hdepth (entry :: rest) hrest)
          have hdues := fun entry hentry => hdue.below hformed ((hnames entry).mp hentry) hheld
          obtain ⟨requests, later, after, hloops, huploads, hopened, hshown, hvisited⟩ :=
            entries_pushed (host.sortedNames spot) hbelow
              (hsorted.imp fun hless => String.ne_of_lt hless) pending (hfirst ▸ hadmits) hdues
          refine ⟨_, later, after, .step hstep hloops,
            .directory hpresent hnames hsorted huploads, hopened.trans hfirst,
            (overlaid_update hheld).trans hshown (image_directory hformed hnames hpresent), ?_⟩
          intro seen hseen
          rcases hvisited seen hseen with hbefore | ⟨entry, -, hwithin⟩
          · rcases List.mem_cons.mp hbefore with rfl | hbefore
            · exact .inr List.prefix_rfl
            · exact .inl hbefore
          · exact .inr ((List.prefix_append _ _).trans hwithin)

/-! ## A whole push -/

mutual

theorem Uploads.pushing {spot : Location} {path : String} {requests : List Request}
    (huploads : Uploads config host spot path requests) :
    ∀ request ∈ requests, request.Pushing := by
  match huploads with
  | .file hfile hstores => exact fun request hrequest => (hstores.storing request hrequest).pushing
  | .directory hdirectory hnames hsorted hentries =>
      intro request hrequest
      rcases List.mem_cons.mp hrequest with rfl | hrequest
      · exact .makeDirectory path
      · exact hentries.pushing request hrequest

theorem UploadsEach.pushing {spot : Location} {path : String} {names : List String}
    {requests : List Request} (huploads : UploadsEach config host spot path names requests) :
    ∀ request ∈ requests, request.Pushing := by
  match huploads with
  | .nil _ _ => simp
  | .cons hfirst hlater =>
      intro request hrequest
      rcases List.mem_append.mp hrequest with hrequest | hrequest
      · exact hfirst.pushing request hrequest
      · exact hlater.pushing request hrequest

end

end Client

variable {σ : Type}

/-- With a device to which files can be written, a push of a tree of directories and files into a
directory of the device succeeds.  Then the device holds the tree there, each directory kept or made
and each file with exactly its contents, and nothing has changed anywhere else; all handles that
were opened are closed.  The requests upload the tree from its top, in the order of the names. -/
theorem push_mirrors (device : WritableDevice σ) (config : ClientConfig)
    (hsize : 0 < config.writeChunkSize.toNat) (channel : Device σ)
    (hanswers : channel.AnswersTo config device.responder Request.Pushing)
    (session : Session σ) (hready : session.Ready config)
    (hadmits : device.admits (device.opened session.device)) (hformed : session.host.WellFormed)
    (origin : HostPath) (name : String) (spot : Location) (entry : HostEntry)
    (hname : origin.name? session.host.mountName = some name) (hchild : ChildName name)
    (hfind : session.host.find origin = .ok (spot, entry)) (hmount : session.host.mount <+: spot)
    (directory : String) (place : Place) (hlocate : device.locate directory = some place)
    (hdirectory : device.held session.device place = some .directory)
    (hreplaces : ∀ rest entry, session.host.get? (spot ++ rest) = some entry →
      entry.Replaces (device.held session.device (place ++ name :: rest))) :
    ∃ requests, Client.Uploads config session.host spot (RemotePath.join directory name) requests ∧
      ∃ enough, ∀ steps, enough ≤ steps →
        let ran := session.run channel
          (Client.push config steps session.host.mountName origin directory)
        ran.1 = .finished (.ok ()) ∧
          (∀ rest entry, session.host.get? (spot ++ rest) = some entry →
            device.held ran.2.device (place ++ name :: rest) = some entry) ∧
          (∀ other, (∀ rest, other = place ++ name :: rest →
              session.host.get? (spot ++ rest) = none) →
            device.held ran.2.device other = device.held session.device other) ∧
          device.opened ran.2.device = device.opened session.device ∧
          ran.2.host = session.host ∧
          ran.2.sentFrames =
            session.sentFrames ++ Request.frames session.packetNumber requests := by
  have hdue : Client.Push.Due device session.host origin (RemotePath.join directory name) spot place
      name [] session.device := {
    found := ⟨entry, hfind⟩
    located := device.locate_join session.device hlocate hdirectory hchild
    holds := hdirectory
    replaces := hreplaces
    unvisited := by
      intro seen hseen
      cases hseen }
  obtain ⟨depth, hdepth⟩ := session.host.exists_depth
  have hbelow : ∀ rest, session.host.get? (spot ++ rest) ≠ none → rest.length < depth + 1 := by
    intro rest hrest
    have hlength := hdepth (spot ++ rest) hrest
    rw [List.length_append] at hlength
    omega
  obtain ⟨requests, later, after, hloops, huploads, hpushed⟩ :=
    Client.node_pushed hsize hformed (depth + 1) hmount hbelow [] hadmits hdue
  obtain ⟨enough, hends⟩ := hloops.ends (.done _ _)
  refine ⟨requests, huploads, enough, fun steps hsteps => ?_⟩
  intro ran
  have hpush : Ends device.responder
      (Client.push config steps session.host.mountName origin directory)
      ⟨session.device, session.host⟩ (.ok ()) requests ⟨after, session.host⟩ := by
    rw [Client.push, hname]
    exact hends steps hsteps
  obtain ⟨houtcome, hplays⟩ := Session.run_ends_asked hanswers hready hpush huploads.pushing
  have hdevice : ran.2.device = after := hplays.device
  rw [hdevice]
  refine ⟨houtcome, ?_, ?_, hpushed.opened, hplays.host, hplays.sent⟩
  · intro rest held hheld
    rw [List.append_cons]
    exact hpushed.held.inside rest held hheld
  · intro other hother
    apply hpushed.held.outside
    intro rest hrest
    exact hother rest (by rw [hrest, List.append_assoc]; rfl)

/-! ## A directory put over another -/

namespace Client

variable {config : ClientConfig}

theorem memory_framed (hlimit : 48 ≤ config.maxFrameLength.toNat) (reading : PathReading)
    (memory : Memory) (request : Request) (hasked : request.Pushing) :
    request.Framed config ((WritableDevice.memory reading).responder.respond memory request).1 := by
  cases hasked with
  | makeDirectory path =>
      simp only [WritableDevice.memory, Memory.responder]
      cases reading.locate path with
      | none => exact Memory.framed_missing hlimit (by simp [Request.operation])
      | some place =>
          simp only [Memory.makeDirectory]
          split
          · exact Request.framed_makeDirectory path hlimit
          · exact Memory.framed_missing hlimit (by simp [Request.operation])
          · exact Request.framed_refusal 16 hlimit (by simp [Request.operation]) rfl rfl
  | openFile path => exact Memory.storing_framed hlimit reading memory (.openFile path)
  | write chunk => exact Memory.storing_framed hlimit reading memory (.write chunk)
  | close handle => exact Memory.storing_framed hlimit reading memory (.close handle)

def crate : HostTree :=
  ⟨"host", [(["host", "d"], .directory), (["host", "d", "f"], .file [1, 2, 3]),
    (["host", "d", "e"], .directory)]⟩

theorem crate_wellFormed : crate.WellFormed := by
  apply HostTree.wellFormed_of_entries (by decide) (by decide)
  intro key hkey
  simp only [crate, List.map_cons, List.map_nil, List.mem_cons, List.not_mem_nil, or_false] at hkey
  rcases hkey with rfl | rfl | rfl
  · exact ⟨["host"], "d", rfl, rfl, by decide⟩
  · exact ⟨["host", "d"], "f", rfl, rfl, by decide⟩
  · exact ⟨["host", "d"], "e", rfl, rfl, by decide⟩

theorem crate_entries {rest : Location} {entry : HostEntry}
    (hentry : crate.get? (["host", "d"] ++ rest) = some entry) :
    rest = [] ∧ entry = .directory ∨ rest = ["f"] ∧ entry = .file [1, 2, 3] ∨
      rest = ["e"] ∧ entry = .directory := by
  have hmount : crate.mount <+: ["host", "d"] ++ rest := ⟨"d" :: rest, rfl⟩
  rw [HostTree.get?_below_mount hmount (by simp [HostTree.mount, crate]), crate] at hentry
  simp only [HostTree.lookup_cons_eq, List.lookup_nil, List.cons_append, List.nil_append,
    List.cons.injEq, true_and] at hentry
  split at hentry
  · exact .inl ⟨‹_›, (Option.some.inj hentry).symm⟩
  split at hentry
  · exact .inr (.inl ⟨‹_›, (Option.some.inj hentry).symm⟩)
  split at hentry
  · exact .inr (.inr ⟨‹_›, (Option.some.inj hentry).symm⟩)
  · cases hentry

def stocked : Memory where
  held place :=
    if place = [] then some .directory
    else if place = ["d"] then some .directory
    else if place = ["d", "f"] then some (.file [9, 9, 9, 9])
    else if place = ["d", "g"] then some (.file [8])
    else none
  cursor := none

end Client

/-- The file is replaced, in two chunks, the directory is made, and the other file stays. -/
theorem push_mirrors_crate :
    ∃ enough, ∀ steps, enough ≤ steps →
      let ran := (Session.fresh { writeChunkSize := 2 } Client.stocked Client.crate []).run
        (WritableDevice.memory .plain).responder.fileDevice
        (Client.push { writeChunkSize := 2 } steps "host" ⟨["d"]⟩ "/")
      ran.1 = .finished (.ok ()) ∧
        ran.2.device.held ["d", "f"] = some (.file [1, 2, 3]) ∧
        ran.2.device.held ["d", "e"] = some .directory ∧
        ran.2.device.held ["d", "g"] = some (.file [8]) := by
  have hreplaces : ∀ rest entry, Client.crate.get? (["host", "d"] ++ rest) = some entry →
      entry.Replaces (Client.stocked.held ("d" :: rest)) := by
    intro rest entry hentry
    rcases Client.crate_entries hentry with ⟨rfl, rfl⟩ | ⟨rfl, rfl⟩ | ⟨rfl, rfl⟩
    · exact .inr rfl
    · exact .inr ⟨[9, 9, 9, 9], rfl⟩
    · exact .inl rfl
  obtain ⟨requests, -, enough, hpush⟩ := push_mirrors (WritableDevice.memory .plain)
    { writeChunkSize := 2 } (by decide) (WritableDevice.memory .plain).responder.fileDevice
    (Responder.fileDevice_answersTo (Client.memory_framed (by decide) .plain))
    (Session.fresh { writeChunkSize := 2 } Client.stocked Client.crate [])
    (Session.fresh_ready { writeChunkSize := 2 } Client.stocked Client.crate) rfl
    Client.crate_wellFormed ⟨["d"]⟩ "d" ["host", "d"] .directory (by decide) (by decide) (by cbv)
    (by decide) "/" [] rfl rfl hreplaces
  refine ⟨enough, fun steps hsteps => ?_⟩
  obtain ⟨houtcome, hinside, houtside, -, -, -⟩ := hpush steps hsteps
  refine ⟨houtcome, hinside ["f"] _ rfl, hinside ["e"] _ rfl, houtside ["d", "g"] ?_⟩
  intro rest hrest
  cases hrest
  rfl

end FileConduit

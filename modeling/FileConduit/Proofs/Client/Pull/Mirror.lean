import FileConduit.Client.Transfer
import FileConduit.Proofs.Client.Fetching
import FileConduit.Proofs.Client.Pull.Contents
import FileConduit.Proofs.Device.Image
import FileConduit.Proofs.Path.HostName
import FileConduit.Proofs.Program.Loop
import FileConduit.Proofs.Session.Framing

/-!
# A pull mirrors the tree

With a device that can be read, the steps of a pull that begin with a node of the device put the
image of the node in its place on the host, and nothing else, before they go on with what else is
due.
-/

namespace FileConduit

open Program

namespace Client

variable {σ : Type} {device : ReadableDevice σ} {config : ClientConfig}

/-! ## One step -/

section

variable {path name : String} {place : Place} {directory : HostPath} {spot : Location}
  {visited : List String} {pending : List (String × HostPath)}

theorem children_eq (hstyle : config.namingStyle ≠ .windows) (source : String) (target : HostPath)
    {names : List String} {entries : Entries}
    (hnames : names.filter (!RemotePath.isTraversal ·) =
      entries.names.filter (!RemotePath.isTraversal ·))
    (hentries : ∀ name ∈ entries.names, ChildName name) :
    Pull.children config source target names =
      entries.names.map fun name => (RemotePath.join source name, target.child name) := by
  have hall : entries.names.filter (!RemotePath.isTraversal ·) = entries.names := by
    apply List.filter_eq_self.mpr
    intro name hname
    simp [(hentries name hname).not_traversal]
  rw [Pull.children, hnames, hall]
  apply List.map_congr_left
  intro name hname
  rw [HostName.sanitize_childName hstyle (hentries name hname)]

/-- A leaf is copied in one step. -/
theorem leaf_pulled (hread : 0 < config.maxReadSize.toNat) {about : Description}
    {kind : about.info.isDirectory = false} {contents : Bytes}
    (hlocate : device.locate path = some place)
    (hnode : device.root.find? place = some (.leaf about kind))
    (hfetched : device.fetched? path about = some contents) (hfits : HostTree.Fits name)
    {world : World σ} (hadmits : device.admits (device.opened world.device))
    (hfind : world.host.find directory = .ok (spot, .directory))
    (hvacant : world.host.get? (spot ++ [name]) = none) :
    ∃ requests after,
      Ends device.responder
        (Pull.step config ⟨visited, (path, directory.child name) :: pending⟩) world
        (.ok (some ⟨visited, pending⟩)) requests
        ⟨after, world.host.put (spot ++ [name]) (.file contents)⟩ ∧
      device.opened after = device.opened world.device := by
  obtain ⟨source, hsource, hcontents⟩ := Option.bind_eq_some_iff.mp hfetched
  obtain ⟨goal, target, hgoal, htarget, hregular, -⟩ := ReadableDevice.contents?_eq hcontents
  have hstop := Ends.stopIfCancelled device.responder world
  obtain ⟨first, hresolve, hfirst⟩ := resolve_ends hlocate hnode hsource world
  obtain ⟨second, hlook, hsecond⟩ := isDirectory_ends hgoal htarget { world with device := first }
  obtain ⟨requests, third, hget, hthird⟩ :=
    getContents_ends hread hcontents { world with device := second }
      (by rw [hsecond, hfirst]; exact hadmits)
  have hfile : target.about.info.isDirectory = false := by
    have hkind : target.about.info.kind = some .regular := by
      simpa [FileInfo.isRegular] using hregular
    simp [FileInfo.isDirectory, hkind]
  have hperform : world.host.perform (.write (directory.child name) contents) =
      (.ok (), world.host.put (spot ++ [name]) (.file contents)) := by
    simp only [HostTree.perform, HostTree.write_child hfits hfind hvacant]
  have hwrite : Ends device.responder (onHost (.write (directory.child name) contents))
      { world with device := third } (.ok ()) []
      ⟨third, world.host.put (spot ++ [name]) (.file contents)⟩ := .performed _ third hperform
  rw [hfile] at hlook
  exact ⟨_, third, hstop.bind (hresolve.bind (hlook.bind (hget.bind (hwrite.bind (.done _ _))))),
    hthird.trans (hsecond.trans hfirst)⟩

/-- A directory is entered in one step, if it has not been entered before. -/
theorem directory_pulled (hstyle : config.namingStyle ≠ .windows)
    (pending : List (String × HostPath)) {about : Description}
    {kind : about.info.isDirectory = true} {entries : Entries} {target : HostPath}
    (hlocate : device.locate path = some place)
    (hnode : device.root.find? place = some (.directory about kind entries))
    (hentries : ∀ name ∈ entries.names, ChildName name) (hnew : path ∉ visited)
    {world : World σ} {made : HostTree}
    (hmake : world.host.makeDirectories target.parts = (.ok (), made)) :
    ∃ requests after,
      Ends device.responder (Pull.step config ⟨visited, (path, target) :: pending⟩) world
        (.ok (some ⟨path :: visited, (entries.names.map fun name =>
          (RemotePath.join path name, target.child name)) ++ pending⟩)) requests
        ⟨after, made⟩ ∧
      device.opened after = device.opened world.device := by
  have hkind : about.info.kind = some .directory := by
    simpa [FileInfo.isDirectory] using kind
  have hsource : about.source? path = some path := by
    rw [Description.source?, if_neg (by simp [FileInfo.isSymlink, hkind])]
  have hstop := Ends.stopIfCancelled device.responder world
  obtain ⟨first, hresolve, hfirst⟩ := resolve_ends hlocate hnode hsource world
  obtain ⟨second, hlook, hsecond⟩ := isDirectory_ends hlocate hnode { world with device := first }
  obtain ⟨names, third, hrespond, hthird, hnames⟩ := device.lists second hlocate hnode kind
  have hmaking : Ends device.responder (onHost (.makeDirectories target))
      { world with device := second } (.ok ()) [] ⟨second, made⟩ :=
    .performed device.responder second hmake
  have hlist : Ends device.responder (listDirectory path) ⟨second, made⟩ (.ok names)
      [.readDirectory path] ⟨third, made⟩ := listDirectory_answered hrespond
  rw [show (Node.directory about kind entries).about.info.isDirectory = true from kind] at hlook
  have hqueue : Pull.children config path target names = entries.names.map fun name =>
      (RemotePath.join path name, target.child name) :=
    children_eq hstyle path target hnames hentries
  rw [← hqueue]
  exact ⟨_, third, hstop.bind (hresolve.bind (hlook.bind (hmaking.bind (by
    rw [if_neg hnew]
    exact hlist.bind (.done _ _))))), hthird.trans (hsecond.trans hfirst)⟩

end

/-! ## All steps for a node -/

def Unvisited (device : ReadableDevice σ) (visited : List String) (place : Place) : Prop :=
  ∀ seen ∈ visited, ∀ other, device.locate seen = some other → ¬ place <+: other

/-- A node that is due, to be copied to an entry of a directory where nothing is yet. -/
structure Due (device : ReadableDevice σ) (path : String) (place : Place) (node : Node)
    (spot : Location) (name : String) (visited : List String) (host : HostTree) : Prop where
  located : device.locate path = some place
  found : device.root.find? place = some node
  mirrorable : device.Mirrorable path node
  fits : HostTree.Fits name
  vacant : ∀ rest, host.get? (spot ++ name :: rest) = none
  unvisited : Unvisited device visited place

/-- What has become of a pull when what was due at and below some places has been copied. -/
structure Pulled (device : ReadableDevice σ) (spot : Location) (image : Place → Option HostEntry)
    (within : Place → Prop) (visited later : List String) (world final : World σ) : Prop where
  opened : device.opened final.device = device.opened world.device
  mount : final.host.mount = world.host.mount
  host : Overlaid world.host.get? final.host.get? spot image
  visited : ∀ seen ∈ later, seen ∈ visited ∨ ∃ other, device.locate seen = some other ∧ within other

/-- What is put where nothing was leaves all else in its place. -/
theorem extends_of_overlaid {before after : HostTree} {spot : Location}
    {image : Place → Option HostEntry} (hmount : after.mount = before.mount)
    (hoverlaid : Overlaid before.get? after.get? spot image)
    (hvacant : ∀ rest entry, image rest = some entry → before.get? (spot ++ rest) = none) :
    before.Extends after := by
  refine ⟨hmount, fun place entry hentry => ?_⟩
  rw [hoverlaid.outside place, hentry]
  rintro rest rfl
  cases hshown : image rest with
  | none => rfl
  | some shown =>
      rw [hvacant rest shown hshown] at hentry
      cases hentry

theorem put_overlaid {host : HostTree} {spot : Location} {name : String}
    (hvacant : host.get? (spot ++ [name]) = none) (entry : HostEntry) :
    Overlaid host.get? (host.put (spot ++ [name]) entry).get? (spot ++ [name]) (imageOf entry) := by
  apply Overlaid.of_put
  apply HostTree.get?_put
  · simp
  · intro hmount
    rw [hmount, HostTree.get?_mount] at hvacant
    cases hvacant

theorem made_find {host : HostTree} {directory : HostPath} {spot : Location} {name : String}
    (hfits : HostTree.Fits name) (hfind : host.find directory = .ok (spot, .directory))
    (hvacant : host.get? (spot ++ [name]) = none) :
    (host.put (spot ++ [name]) .directory).find (directory.child name) =
      .ok (spot ++ [name], .directory) := by
  have hput := put_overlaid hvacant .directory
  have hextends : host.Extends (host.put (spot ++ [name]) .directory) := by
    apply extends_of_overlaid (HostTree.mount_put ..) hput
    intro rest entry hentry
    cases rest with
    | nil => rwa [List.append_nil]
    | cons first rest => cases hentry
  have hmade : (host.put (spot ++ [name]) .directory).get? (spot ++ [name]) = some .directory := by
    have hinside := hput.inside [] .directory rfl
    rwa [List.append_nil] at hinside
  apply HostTree.find_eq _ hmade
  apply HostTree.locate_child hfits (hextends.find hfind)
  simp [hmade]

section

variable {path name : String} {place : Place} {node : Node} {spot : Location}
  {visited later : List String} {world final : World σ}

/-- What is due stays due while another entry of the same directory is copied. -/
theorem Due.sibling {other : String} {image : Place → Option HostEntry}
    (hdue : Due device path (place ++ [name]) node spot name visited world.host)
    (hpulled : Pulled device (spot ++ [other]) image (place ++ [other] <+: ·) visited later world
      final) (hne : other ≠ name) :
    Due device path (place ++ [name]) node spot name later final.host where
  located := hdue.located
  found := hdue.found
  mirrorable := hdue.mirrorable
  fits := hdue.fits
  vacant rest := by
    rw [hpulled.host.apart, hdue.vacant]
    exact not_below_other (Ne.symm hne) (below_child spot rest name)
  unvisited seen hseen reached hreached := by
    rcases hpulled.visited seen hseen with hvisited | ⟨found, hfound, hbelow⟩
    · exact hdue.unvisited seen hvisited reached hreached
    · rw [hfound] at hreached
      cases hreached
      exact not_below_other hne hbelow

/-- Once a directory has been entered, its entries are due. -/
theorem due_below {entry : String} {child : Node} {host : HostTree}
    (hlocate : device.locate path = some place) (hnode : device.root.find? place = some node)
    (hmirrorable : device.Mirrorable path node) (hunvisited : Unvisited device visited place)
    (hchild : node.entries.child? entry = some child)
    (hvacant : ∀ rest, host.get? (spot ++ entry :: rest) = none) :
    Due device (RemotePath.join path entry) (place ++ [entry]) child spot entry (path :: visited)
      host where
  located := by
    have hmem : entry ∈ node.entries.names :=
      (Entries.child?_isSome _ _).mp (by rw [hchild]; rfl)
    exact device.locate_join hlocate hnode hmem
  found := by rw [Node.find?_child hnode, hchild]
  mirrorable := (hmirrorable.child hchild).2
  fits := (hmirrorable.child hchild).1
  vacant := hvacant
  unvisited seen hseen reached hreached := by
    intro hbelow
    rcases List.mem_cons.mp hseen with rfl | hvisited
    · rw [hlocate] at hreached
      cases hreached
      have hlength := hbelow.length_le
      rw [List.length_append, List.length_singleton] at hlength
      omega
    · exact hunvisited seen hvisited reached hreached ((List.prefix_append _ _).trans hbelow)

/-- No path that has been visited is one of a place below which nothing has been visited. -/
theorem Unvisited.not_mem (hunvisited : Unvisited device visited place)
    (hlocate : device.locate path = some place) : path ∉ visited :=
  fun hseen => hunvisited path hseen place hlocate List.prefix_rfl

end

mutual

theorem node_pulled (hstyle : config.namingStyle ≠ .windows) (hread : 0 < config.maxReadSize.toNat)
    (node : Node) {path name : String} {place : Place} {directory : HostPath} {spot : Location}
    {visited : List String} (pending : List (String × HostPath)) {world : World σ}
    (hadmits : device.admits (device.opened world.device))
    (hdue : Due device path place node spot name visited world.host)
    (hfind : world.host.find directory = .ok (spot, .directory)) :
    ∃ requests later final,
      Loops device.responder (Pull.step config)
        ⟨visited, (path, directory.child name) :: pending⟩ world requests ⟨later, pending⟩ final ∧
      Pulled device (spot ++ [name]) (device.mirror path node) (place <+: ·) visited later world
        final := by
  have hvacant := hdue.vacant []
  match node with
  | .leaf about kind =>
      obtain ⟨contents, hfetched⟩ : ∃ contents, device.fetched? path about = some contents :=
        hdue.mirrorable.leaves [] about kind rfl
      obtain ⟨requests, after, hstep, hopened⟩ :=
        leaf_pulled hread hdue.located hdue.found hfetched hdue.fits hadmits hfind hvacant
      refine ⟨requests, visited, _, .of_step hstep, hopened, rfl, ?_, fun seen hseen => .inl hseen⟩
      rw [funext (device.mirror_leaf kind hfetched)]
      exact put_overlaid hvacant _
  | .directory about kind entries =>
      have hput := put_overlaid hvacant .directory
      have hbelow : ∀ entry child, entries.child? entry = some child →
          Due device (RemotePath.join path entry) (place ++ [entry]) child (spot ++ [name]) entry
            (path :: visited) (world.host.put (spot ++ [name]) .directory) := by
        intro entry child hchild
        apply due_below hdue.located hdue.found hdue.mirrorable hdue.unvisited hchild
        intro rest
        rw [hput.outside, List.append_assoc]
        · exact hdue.vacant (entry :: rest)
        · intro other hother
          rw [← List.append_cancel_left hother]
          rfl
      obtain ⟨first, after, hstep, hopened⟩ := directory_pulled hstyle pending hdue.located
        hdue.found hdue.mirrorable.names (hdue.unvisited.not_mem hdue.located)
        (HostTree.makeDirectories_child hdue.fits hfind hvacant)
      obtain ⟨rest, later, final, hloops, hpulled⟩ := entries_pulled hstyle hread entries pending
        ⟨after, _⟩ (hopened ▸ hadmits) hdue.mirrorable.valid hbelow
        (made_find hdue.fits hfind hvacant)
      refine ⟨_, later, final, .step hstep hloops, hpulled.opened.trans hopened, hpulled.mount,
        ?_, ?_⟩
      · exact hput.trans hpulled.host (device.mirror_directory path about kind entries)
      · intro seen hseen
        rcases hpulled.visited seen hseen with hvisited | ⟨other, hother, entry, -, hwithin⟩
        · rcases List.mem_cons.mp hvisited with rfl | hvisited
          · exact .inr ⟨place, hdue.located, List.prefix_rfl⟩
          · exact .inl hvisited
        · exact .inr ⟨other, hother, (List.prefix_append _ _).trans hwithin⟩

theorem entries_pulled (hstyle : config.namingStyle ≠ .windows)
    (hread : 0 < config.maxReadSize.toNat) (entries : Entries) {path : String} {place : Place}
    {target : HostPath} {spot : Location} {visited : List String}
    (pending : List (String × HostPath)) (world : World σ)
    (hadmits : device.admits (device.opened world.device)) (hvalid : entries.Valid)
    (hdue : ∀ name child, entries.child? name = some child →
      Due device (RemotePath.join path name) (place ++ [name]) child spot name visited world.host)
    (hfind : world.host.find target = .ok (spot, .directory)) :
    ∃ requests later final,
      Loops device.responder (Pull.step config)
        ⟨visited, (entries.names.map fun name =>
          (RemotePath.join path name, target.child name)) ++ pending⟩ world requests
        ⟨later, pending⟩ final ∧
      Pulled device spot (device.mirrorEntries path entries)
        (fun other => ∃ name ∈ entries.names, place ++ [name] <+: other) visited later world
        final := by
  match entries with
  | .nil =>
      refine ⟨[], visited, world, .refl _ _, rfl, rfl, ?_, fun seen hseen => .inl hseen⟩
      apply Overlaid.of_held
      intro rest entry hentry
      cases rest <;> cases hentry
  | .cons name node rest =>
      obtain ⟨-, hname, -, hrest⟩ := hvalid
      have hfirst := hdue name node (by simp [Entries.child?])
      obtain ⟨first, middle, reached, hloops, hpulled⟩ := node_pulled hstyle hread node
        ((rest.names.map fun name => (RemotePath.join path name, target.child name)) ++ pending)
        hadmits hfirst hfind
      have hothers : ∀ other child, rest.child? other = some child →
          Due device (RemotePath.join path other) (place ++ [other]) child spot other middle
            reached.host := by
        intro other child hchild
        have hne : name ≠ other := by
          rintro rfl
          exact hname ((Entries.child?_isSome rest name).mp (by rw [hchild]; rfl))
        have hbefore := hdue other child (by rw [Entries.child?, if_neg hne, hchild])
        exact hbefore.sibling hpulled hne
      have hextends : world.host.Extends reached.host := by
        apply extends_of_overlaid hpulled.mount hpulled.host
        intro below entry hentry
        rw [List.append_assoc]
        exact hfirst.vacant below
      obtain ⟨later, last, final, hlater, hdone⟩ := entries_pulled hstyle hread rest pending reached
        (hpulled.opened ▸ hadmits) hrest hothers (hextends.find hfind)
      refine ⟨_, last, final, hloops.trans hlater, hdone.opened.trans hpulled.opened,
        hdone.mount.trans hpulled.mount, ?_, ?_⟩
      · exact hpulled.host.of_child.trans hdone.host (device.mirrorEntries_cons path node hname)
      · intro seen hseen
        rcases hdone.visited seen hseen with hvisited | ⟨other, hother, entry, hentry, hwithin⟩
        · rcases hpulled.visited seen hvisited with hbefore | ⟨other, hother, hwithin⟩
          · exact .inl hbefore
          · exact .inr ⟨other, hother, name, List.mem_cons_self, hwithin⟩
        · exact .inr ⟨other, hother, entry, List.mem_cons_of_mem _ hentry, hwithin⟩

end

/-! ## A whole pull -/

end Client

inductive Request.Pulling (config : ClientConfig) : Request → Prop where
  | fetching {request : Request} (hfetching : request.Fetching config) : Pulling config request
  | readDirectory (path : String) : Pulling config (.readDirectory path)

namespace Client

variable {σ : Type} {device : ReadableDevice σ} {config : ClientConfig}

theorem pull_only (config : ClientConfig) (steps : Nat) (remote : String) (directory : HostPath) :
    Only (Request.Pulling config) [.steps, .capacity] (pull config steps remote directory) := by
  have hfetch : ∀ {α : Type} {program : Program α},
      Only (Request.Fetching config) [.capacity] program →
        Only (Request.Pulling config) [.steps, .capacity] program := fun honly =>
    honly.mono (fun _ => Request.Pulling.fetching) (List.subset_cons_self _ _)
  apply Only.repeatUntilNone List.mem_cons_self
  intro now
  unfold Pull.step
  cases now.pending with
  | nil => trivial
  | cons copy pending =>
      obtain ⟨source, target⟩ := copy
      refine Only.stopIfCancelled.bind fun _ =>
        (hfetch (resolve_only (.fileInfo source))).bind fun source =>
          (hfetch (isDirectory_only (.fileInfo source))).bind fun found => ?_
      cases found with
      | true =>
          refine (Only.onHost _).bind fun _ => ?_
          by_cases hvisited : source ∈ now.visited
          · rw [if_pos hvisited]
            trivial
          · rw [if_neg hvisited]
            exact (Only.request (.readDirectory source)).bind fun _ => trivial
      | false =>
          exact (hfetch (getContents_only config source)).bind fun contents =>
            (Only.onHost _).bind fun _ => trivial

/-- Where the copy of a path is put in a directory of the host: straight into it if the path has no
name, as the root has none. -/
def Pull.spot (config : ClientConfig) (remote : String) (spot : Location) : Location :=
  if RemotePath.basename remote = "" then spot
  else spot ++ [HostName.sanitize config.namingStyle (RemotePath.basename remote)]

theorem Pull.vacant_spot {remote : String} {spot : Location} {host : HostTree}
    {image : Place → Option HostEntry}
    (hempty : ∀ name rest, host.get? (spot ++ name :: rest) = none)
    (hshown : image [] ≠ none) {rest : Place} (hnone : image rest = none) :
    host.get? (Pull.spot config remote spot ++ rest) = none := by
  rw [Pull.spot]
  by_cases hname : RemotePath.basename remote = ""
  · rw [if_pos hname]
    cases rest with
    | nil => exact absurd hnone hshown
    | cons name rest => exact hempty name rest
  · rw [if_neg hname, List.append_assoc]
    exact hempty _ rest

/-- All steps of a pull from a node of the device into an empty directory. -/
theorem start_pulled (hstyle : config.namingStyle ≠ .windows) (hread : 0 < config.maxReadSize.toNat)
    {remote : String} {place : Place} {node : Node} {directory : HostPath} {spot : Location}
    (world : World σ) (hadmits : device.admits (device.opened world.device))
    (hlocate : device.locate remote = some place) (hnode : device.root.find? place = some node)
    (hmirrorable : device.Mirrorable remote node)
    (hroot : RemotePath.basename remote = "" → node.about.info.isDirectory = true)
    (hshort : (HostName.sanitize config.namingStyle (RemotePath.basename remote)).utf8ByteSize ≤
      HostTree.nameLimit)
    (hfind : world.host.find directory = .ok (spot, .directory))
    (hempty : ∀ name rest, world.host.get? (spot ++ name :: rest) = none) :
    ∃ requests later final,
      Loops device.responder (Pull.step config) (.start config remote directory) world requests
        ⟨later, []⟩ final ∧
      device.opened final.device = device.opened world.device ∧
      Overlaid world.host.get? final.host.get? (Pull.spot config remote spot)
        (device.mirror remote node) := by
  have hnone : Unvisited device [] place := by
    intro seen hseen
    cases hseen
  by_cases hname : RemotePath.basename remote = ""
  · rw [Pull.start, Pull.destination, Pull.spot, if_pos hname, if_pos hname]
    cases node with
    | leaf about kind =>
        have hkind := hroot hname
        rw [show (Node.leaf about kind).about.info.isDirectory = false from kind] at hkind
        cases hkind
    | directory about kind entries =>
        have hbelow : ∀ entry child, entries.child? entry = some child →
            Due device (RemotePath.join remote entry) (place ++ [entry]) child spot entry
              [remote] world.host := fun entry child hchild =>
          due_below hlocate hnode hmirrorable hnone hchild (hempty entry)
        obtain ⟨first, after, hstep, hopened⟩ := directory_pulled hstyle [] hlocate hnode
          hmirrorable.names (hnone.not_mem hlocate) (HostTree.makeDirectories_present hfind)
        obtain ⟨rest, later, final, hloops, hpulled⟩ := entries_pulled hstyle hread entries []
          ⟨after, world.host⟩ (hopened ▸ hadmits) hmirrorable.valid hbelow hfind
        refine ⟨_, later, final, .step hstep hloops, hpulled.opened.trans hopened, ?_⟩
        -- The directory itself is there already, and its entries are put into it.
        have hhere : Overlaid world.host.get? world.host.get? spot (imageOf .directory) := by
          apply Overlaid.of_held
          intro rest entry hentry
          cases rest with
          | nil =>
              cases hentry
              rw [List.append_nil]
              exact (HostTree.of_find hfind).2
          | cons name rest => cases hentry
        exact hhere.trans hpulled.host (device.mirror_directory remote about kind entries)
  · rw [Pull.start, Pull.destination, Pull.spot, if_neg hname, if_neg hname]
    have hdue : Due device remote place node spot
        (HostName.sanitize config.namingStyle (RemotePath.basename remote)) [] world.host := {
      located := hlocate
      found := hnode
      mirrorable := hmirrorable
      fits := ⟨HostName.childName_sanitize _ _, hshort⟩
      vacant := hempty _
      unvisited := hnone }
    obtain ⟨requests, later, final, hloops, hpulled⟩ :=
      node_pulled hstyle hread node [] hadmits hdue hfind
    exact ⟨requests, later, final, hloops, hpulled.opened, hpulled.host⟩

end Client

variable {σ : Type}

/-- With a device that can be read, a pull of a tree of directories, files, and links to files into
an empty directory of the host succeeds.  Then the copy looks as the tree does with each link
replaced by the file to which it leads, nothing has changed anywhere else, and all handles that were
opened are closed. -/
theorem pull_mirrors (device : ReadableDevice σ) (config : ClientConfig)
    (hstyle : config.namingStyle ≠ .windows) (hread : 0 < config.maxReadSize.toNat)
    (channel : Device σ) (hanswers : channel.AnswersTo config device.responder
      (Request.Pulling config))
    (session : Session σ) (hready : session.Ready config)
    (hadmits : device.admits (device.opened session.device)) (remote : String) (place : Place)
    (node : Node) (hlocate : device.locate remote = some place)
    (hnode : device.root.find? place = some node) (hmirrorable : device.Mirrorable remote node)
    (hroot : RemotePath.basename remote = "" → node.about.info.isDirectory = true)
    (hshort : (HostName.sanitize config.namingStyle (RemotePath.basename remote)).utf8ByteSize ≤
      HostTree.nameLimit)
    (directory : HostPath) (spot : Location)
    (hfind : session.host.find directory = .ok (spot, .directory))
    (hempty : ∀ name rest, session.host.get? (spot ++ name :: rest) = none) :
    let copy := Client.Pull.spot config remote spot
    (ChildName (RemotePath.basename remote) → copy = spot ++ [RemotePath.basename remote]) ∧
    ∃ enough, ∀ steps, enough ≤ steps →
      let ran := session.run channel (Client.pull config steps remote directory)
      ran.1 = .finished (.ok ()) ∧
        (∀ rest, ran.2.host.get? (copy ++ rest) = device.mirror remote node rest) ∧
        (∀ other, ¬ copy <+: other → ran.2.host.get? other = session.host.get? other) ∧
        device.opened ran.2.device = device.opened session.device := by
  intro copy
  constructor
  · intro hname
    show Client.Pull.spot config remote spot = _
    rw [Client.Pull.spot, if_neg hname.ne_empty, HostName.sanitize_childName hstyle hname]
  obtain ⟨requests, later, final, hloops, hopened, hoverlaid⟩ :=
    Client.start_pulled hstyle hread ⟨session.device, session.host⟩ hadmits hlocate hnode
      hmirrorable hroot hshort hfind hempty
  obtain ⟨enough, hends⟩ := hloops.ends (.done _ _)
  refine ⟨enough, fun steps hsteps => ?_⟩
  intro ran
  have hpull : Ends device.responder (Client.pull config steps remote directory)
    ⟨session.device, session.host⟩ (.ok ()) requests final := hends steps hsteps
  have hasked := (Client.pull_only config steps remote directory).ends hpull
  obtain ⟨houtcome, hplays⟩ := Session.run_ends_asked hanswers hready hpull hasked
  have hhost : ran.2.host = final.host := hplays.host
  refine ⟨houtcome, ?_, ?_, ?_⟩
  · intro rest
    rw [hhost]
    cases himage : device.mirror remote node rest with
    | some entry => exact hoverlaid.inside rest entry himage
    | none =>
        have hsame := hoverlaid.outside (copy ++ rest) fun other hother => by
          rwa [← List.append_cancel_left hother]
        rw [hsame]
        exact Client.Pull.vacant_spot hempty hmirrorable.shown himage
  · intro other hother
    rw [hhost]
    exact hoverlaid.apart hother
  · have hdevice : ran.2.device = final.device := hplays.device
    rw [hdevice]
    exact hopened

/-! ## A directory with a link -/

def Description.sized : Description :=
  ⟨⟨[("st_size", "3"), ("st_ifmt", "S_IFREG")]⟩, _, rfl⟩

def Node.shelf : Node :=
  .folder (.cons "f" (.leaf .sized rfl) (.cons "l" (.link "f") (.cons "e" (.folder .nil) .nil)))

def Node.shelved : Node :=
  .folder (.cons "d" .shelf .nil)

theorem Node.shelved_find? {place : Place} {node : Node}
    (hnode : Node.shelved.find? place = some node) :
    node = .shelved ∨ node = .shelf ∨ node = .leaf .sized rfl ∨ node = .link "f" ∨
      node = .folder .nil := by
  have hmem := Node.mem_nodes hnode
  simp only [shelved, shelf, folder, nodes, Entries.nodes, link, List.append_nil, List.cons_append,
    List.nil_append, List.mem_cons, List.not_mem_nil, or_false] at hmem
  exact hmem

theorem Node.shelved_valid : Node.shelved.Valid := by
  have hshelf : Node.shelf.Valid :=
    ⟨by decide, by decide, trivial, by decide, by decide, trivial, by decide, by decide, trivial,
      trivial⟩
  exact ⟨by decide, by decide, hshelf, trivial⟩

def ReadableDevice.shelved : ReadableDevice (Option Bytes) :=
  .singly .shelved Node.shelved_valid .plain (fun _ => [1, 2, 3]) (by
    intro place node hnode hregular
    rcases Node.shelved_find? hnode with rfl | rfl | rfl | rfl | rfl
    · cases hregular
    · cases hregular
    · exact ⟨3, rfl, rfl⟩
    · cases hregular
    · cases hregular)
    fun _ _ => by decide

namespace Client

theorem shelved_framed (state : Option Bytes) (request : Request)
    (hasked : request.Pulling {}) :
    request.Framed {} (ReadableDevice.shelved.responder.respond state request).1 := by
  have hrefused : ∀ request : Request, request.operation ≠ .removePath →
      request.Framed {} (.error (.status .objectNotFound)) := fun request hremove =>
    Request.framed_refusal 8 (by decide) hremove rfl rfl
  cases hasked with
  | readDirectory path =>
      simp only [ReadableDevice.shelved, ReadableDevice.singly, ReadableDevice.serveSingly]
      cases hfound : (PathReading.plain.locate path).bind Node.shelved.find? with
      | none => exact hrefused _ (by simp [Request.operation])
      | some node =>
          obtain ⟨place, -, hnode⟩ := Option.bind_eq_some_iff.mp hfound
          rcases Node.shelved_find? hnode with rfl | rfl | rfl | rfl | rfl
          · exact Request.carried_listing path (by decide) (by decide)
          · exact Request.carried_listing path (by decide) (by decide)
          · exact hrefused _ (by simp [Request.operation])
          · exact hrefused _ (by simp [Request.operation])
          · exact Request.carried_listing path (by decide) (by decide)
  | fetching hfetching =>
      cases hfetching with
      | fileInfo path =>
          simp only [ReadableDevice.shelved, ReadableDevice.singly, ReadableDevice.serveSingly]
          cases hfound : (PathReading.plain.locate path).bind Node.shelved.find? with
          | none => exact hrefused _ (by simp [Request.operation])
          | some node =>
              obtain ⟨place, -, hnode⟩ := Option.bind_eq_some_iff.mp hfound
              rcases Node.shelved_find? hnode with rfl | rfl | rfl | rfl | rfl
              all_goals exact Request.carried_fields path rfl (by decide) (by decide)
      | openFile path => exact Request.framed_handle path .readOnly ⟨1⟩ (by decide)
      | @read handle size hsize =>
          have hframed : ∀ data : Bytes, data.length ≤ size.toNat → data.length ≤ 1 →
              (Request.read handle size).Framed {} (.ok data) := by
            intro data hdata hone
            have hlimit : Header.size + 1 ≤ ({} : ClientConfig).maxFrameLength.toNat := by decide
            exact Request.framed_data handle hdata (by omega)
          simp only [ReadableDevice.shelved, ReadableDevice.singly, ReadableDevice.serveSingly]
          split
          · rename_i less byte rest hless
            exact hframed [byte] (by simp [hless]) (Nat.le_refl 1)
          · exact hframed [] (Nat.zero_le _) (Nat.zero_le 1)
      | close handle => exact Request.framed_close handle (by decide)

theorem shelf_mirrorable : ReadableDevice.shelved.Mirrorable "/d" .shelf where
  valid := Node.shelved_valid.2.2.1
  short := by
    intro place found name hfound hname
    have hbelow : Node.shelved.find? ("d" :: place) = some found := hfound
    rcases Node.shelved_find? hbelow with rfl | rfl | rfl | rfl | rfl
    all_goals
      simp only [Node.shelved, Node.shelf, Node.folder, Node.link, Node.entries, Entries.names,
        List.mem_cons, List.not_mem_nil, or_false] at hname
    · rw [hname]
      decide
    · rcases hname with rfl | rfl | rfl <;> decide
  leaves := by
    intro place about kind hfound
    have hpresent := (Node.mem_postOrder .shelf Node.shelved_valid.2.2.1 "/d" [] place).mpr
      ⟨place, rfl, by rw [hfound]; rfl⟩
    have hplace : place = ["f"] ∨ place = ["l"] ∨ place = ["e"] ∨ place = [] := by
      simpa [Node.shelf, Node.folder, Node.link, Node.postOrder, Entries.postOrder, exists_or]
        using hpresent
    rcases hplace with rfl | rfl | rfl | rfl
    · cases hfound
      exact ⟨[1, 2, 3], by decide⟩
    · cases hfound
      exact ⟨[1, 2, 3], by decide⟩
    · cases hfound
    · cases hfound

end Client

/-- The pull copies the file twice, the second time by its link, and the empty directory. -/
theorem pull_mirrors_shelf :
    ∃ enough, ∀ steps, enough ≤ steps →
      let ran := (Session.fresh {} none .withOut []).run
        ReadableDevice.shelved.responder.fileDevice (Client.pull {} steps "/d" ⟨["out"]⟩)
      ran.1 = .finished (.ok ()) ∧
        ran.2.host.get? ["host", "out", "d", "f"] = some (.file [1, 2, 3]) ∧
        ran.2.host.get? ["host", "out", "d", "l"] = some (.file [1, 2, 3]) ∧
        ran.2.host.get? ["host", "out", "d", "e"] = some .directory ∧
        ran.2.host.get? ["host", "out", "d", "e", "f"] = none := by
  have hempty : ∀ name rest, HostTree.withOut.get? (["host", "out"] ++ name :: rest) = none := by
    intro name rest
    rfl
  have hcopy : Client.Pull.spot {} "/d" ["host", "out"] = ["host", "out", "d"] := by decide
  obtain ⟨-, enough, hpull⟩ := pull_mirrors ReadableDevice.shelved {} (by decide) (by decide)
    ReadableDevice.shelved.responder.fileDevice
    (Responder.fileDevice_answersTo Client.shelved_framed) (Session.fresh {} none .withOut [])
    (Session.fresh_ready {} none .withOut) rfl "/d" ["d"] .shelf rfl rfl Client.shelf_mirrorable
    (fun hroot => rfl) (by decide) ⟨["out"]⟩ ["host", "out"] (by cbv) hempty
  refine ⟨enough, fun steps hsteps => ?_⟩
  obtain ⟨houtcome, himage, -, -⟩ := hpull steps hsteps
  rw [hcopy] at himage
  exact ⟨houtcome, (himage ["f"]).trans (by decide), (himage ["l"]).trans (by decide),
    (himage ["e"]).trans (by decide), (himage ["e", "f"]).trans (by decide)⟩

end FileConduit

import FileConduit.Client.Removal
import FileConduit.Proofs.Client.Path
import FileConduit.Proofs.Device.Removing
import FileConduit.Proofs.Session.Answering

/-!
# What a removal leaves

Removing a path from a device clears everything at and below it that does not stay, whatever the
tree, and reports the rest in post-order.  The induction is on the tree: a node is removed when
everything below it has been cleared and nothing at it has been touched.
-/

namespace FileConduit.Client

open Program RemovingDevice

theorem removeChildren_filter (removeTree : String → Program (List String)) (directory : String)
    (names : List String) :
    removeChildren removeTree directory names =
      removeChildren removeTree directory
        (names.filter fun name => !RemotePath.isTraversal name) := by
  induction names with
  | nil => rfl
  | cons name names ih =>
      by_cases hname : RemotePath.isTraversal name = true
      · rw [removeChildren, if_pos hname, List.filter_cons_of_neg (by simpa using hname), ih]
      · rw [List.filter_cons_of_pos (by simpa using hname)]
        simp only [removeChildren, if_neg hname, ih]

structure Verdict (device : RemovingDevice) (path : String) (place : Place) (force : Bool)
    (left : List String) (result : Except ClientError (List String)) : Prop where
  nothing : left = [] → result = .ok []
  forced : force = true → result = .ok left
  /-- Only the path itself is left. -/
  alone : force = false → left = [path] →
    ∃ code, device.refusal place = some code ∧ result = .error (.reply (.status code))
  several : force = false → left ≠ [] → left ≠ [path] → result = .error (.removeFailed left)

section

variable {device : RemovingDevice} {host : HostTree} {path : String} {place : Place}
  {gone : List Place} {node : Node} {force : Bool}

theorem removeOne_ends (host : HostTree) (force : Bool) {code : StatusCode} {after : List Place}
    (hrespond : device.responder.respond gone (.remove path) = (.ok code, after)) :
    Ends device.responder (removeOne path force) ⟨gone, host⟩
      (if code.isSuccess then .ok true
        else if force then .ok false
        else .error (.reply (.status code))) [.remove path] ⟨after, host⟩ := by
  have hrequest : Ends device.responder (request (.remove path)) ⟨gone, host⟩ (.ok code)
      [.remove path] ⟨after, host⟩ := .call hrespond (.done _ _)
  refine hrequest.bind ?_
  split
  · exact .done _ _
  · split
    · exact .done _ _
    · exact .done _ _

theorem respond_remove (hlocate : device.locate path = some place)
    (hnode : device.root.find? place = some node) (hgone : place ∉ gone) :
    device.responder.respond gone (.remove path) =
      (.ok (device.removal gone place node).1, (device.removal gone place node).2) := by
  simp only [responder, node?_eq hlocate hgone hnode]

theorem respond_fileInfo (hlocate : device.locate path = some place)
    (hnode : device.root.find? place = some node) (hgone : place ∉ gone) :
    device.responder.respond gone (.fileInfo path) = (.ok node.about.fields, gone) := by
  simp only [responder, node?_eq hlocate hgone hnode]

/-- What one request does once everything below a node has been cleared. -/
theorem removeOne_cleared (host : HostTree) (force : Bool)
    (hlocate : device.locate path = some place)
    (hnode : device.root.find? place = some node) (hintact : Intact place gone) :
    ∃ result, Ends device.responder (removeOne path force)
        ⟨device.cleared (node.entries.postOrder path place) gone, host⟩ result [.remove path]
        ⟨device.cleared (node.postOrder path place) gone, host⟩ ∧
      (device.stays place = false → result = .ok true) ∧
      (device.stays place = true → force = true → result = .ok false) ∧
      (device.stays place = true → force = false → ∃ code : Refusal,
        result = .error (.reply (.status code)) ∧
        ((∀ name ∈ node.entries.names, device.stays (place ++ [name]) = false) →
          device.refusal place = some code)) := by
  have hgone := not_mem_cleared_entries path hnode hintact
  have hrespond := respond_remove hlocate hnode hgone
  rw [Node.postOrder_eq path place node, cleared_append]
  cases hstays : device.stays place with
  | false =>
      rw [removal_of_not_stays path hnode hintact hstays] at hrespond
      refine ⟨.ok true, ?_, by simp, by simp, by simp⟩
      have hcleared : device.cleared [(place, path)]
          (device.cleared (node.entries.postOrder path place) gone) =
            place :: device.cleared (node.entries.postOrder path place) gone := by
        simp [cleared, removed, hstays]
      rw [hcleared]
      exact removeOne_ends host force hrespond
  | true =>
      obtain ⟨code, hremoval, hown⟩ := removal_of_stays path hnode hintact hstays
      rw [hremoval] at hrespond
      have hends := removeOne_ends host force hrespond
      have hcleared : device.cleared [(place, path)]
          (device.cleared (node.entries.postOrder path place) gone) =
            device.cleared (node.entries.postOrder path place) gone := by
        simp [cleared, removed, hstays]
      rw [hcleared]
      simp only [code.2, Bool.false_eq_true, if_false] at hends
      refine ⟨_, hends, by simp, fun _ hforce => by rw [if_pos hforce], fun _ hforce => ?_⟩
      exact ⟨code, by simp [hforce], hown⟩

/-! ## Once the entries of a directory are cleared -/

theorem left_postOrder :
    device.left (node.postOrder path place) =
      device.left (node.entries.postOrder path place) ++
        if device.stays place then [path] else [] := by
  rw [Node.postOrder_eq, left_append]
  cases hstays : device.stays place <;> simp [left, hstays]

theorem left_entries_of_not_stays (path : String) (hnode : device.root.find? place = some node)
    (hstays : device.stays place = false) :
    device.left (node.entries.postOrder path place) = [] := by
  have hvalid := (device.valid.find? hnode).entries
  rw [left, List.map_eq_nil_iff, List.filter_eq_nil_iff]
  rintro ⟨other, spelled⟩ hentry hbelow
  obtain ⟨name, rest, child, -, hother, -⟩ :=
    (Entries.mem_postOrder node.entries hvalid path place other).mp ⟨spelled, hentry⟩
  have hplace : device.stays place = true := by
    refine stays_of_prefix ?_ hbelow
    rw [hother]
    exact List.prefix_append place (name :: rest)
  rw [hstays] at hplace
  cases hplace

theorem not_stays_of_left_entries (hnode : device.root.find? place = some node)
    (hleft : device.left (node.entries.postOrder path place) = []) :
    ∀ name ∈ node.entries.names, device.stays (place ++ [name]) = false := by
  intro name hname
  have hvalid := (device.valid.find? hnode).entries
  obtain ⟨child, hchild⟩ :=
    Option.isSome_iff_exists.mp ((Entries.child?_isSome node.entries name).mpr hname)
  obtain ⟨spelled, hentry⟩ := (Entries.mem_postOrder node.entries hvalid path place _).mpr
    ⟨name, [], child, hchild, rfl, rfl⟩
  rw [left, List.map_eq_nil_iff, List.filter_eq_nil_iff] at hleft
  simpa using hleft _ hentry

/-- A leaf is removed like a directory of which nothing is left. -/
theorem removeLeaf_eq (path : String) (force : Bool) :
    (do if ← removeOne path force then return [] else return [path] : Program (List String)) =
      removeEmptied path force [] := by
  unfold removeEmptied
  refine congrArg (removeOne path force).andThen (funext fun result => ?_)
  rcases result with error | removed
  · rfl
  · cases removed <;> rfl

/-- The last request for a directory, once its entries have been cleared. -/
theorem removeEmptied_ends (host : HostTree) (force : Bool)
    (hlocate : device.locate path = some place)
    (hnode : device.root.find? place = some node) (hintact : Intact place gone) :
    ∃ result requests,
      Verdict device path place force (device.left (node.postOrder path place)) result ∧
      Ends device.responder
        (removeEmptied path force (device.left (node.entries.postOrder path place)))
        ⟨device.cleared (node.entries.postOrder path place) gone, host⟩ result requests
        ⟨device.cleared (node.postOrder path place) gone, host⟩ := by
  obtain ⟨answer, hone, hgone, hforced, hraised⟩ :=
    removeOne_cleared host force hlocate hnode hintact
  rw [left_postOrder]
  cases hstays : device.stays place with
  | false =>
      have hleft := left_entries_of_not_stays path hnode hstays
      cases hgone hstays
      rw [hleft]
      exact ⟨.ok [], _, ⟨fun _ => rfl, fun _ => rfl, by simp, by simp⟩, hone.andThen (.done _ _)⟩
  | true =>
      cases force with
      | true =>
          cases hforced hstays rfl
          exact ⟨.ok (device.left (node.entries.postOrder path place) ++ [path]), _,
            ⟨by simp, fun _ => rfl, by simp, by simp⟩, hone.andThen (.done _ _)⟩
      | false =>
          obtain ⟨code, hanswer, hown⟩ := hraised hstays rfl
          cases hanswer
          cases hleft : device.left (node.entries.postOrder path place) with
          | nil =>
              have hcode := hown (not_stays_of_left_entries hnode hleft)
              exact ⟨.error (.reply (.status code)), _,
                ⟨by simp, by simp, fun _ _ => ⟨code, hcode, rfl⟩, by simp⟩,
                hone.andThen (.done _ _)⟩
          | cons first rest =>
              exact ⟨.error (.removeFailed (first :: rest ++ [path])), _,
                ⟨by simp, by simp, by simp, fun _ _ _ => rfl⟩, hone.andThen (.done _ _)⟩

theorem respond_readDirectory {about : Description} {kind : about.info.isDirectory = true}
    {entries : Entries} (hlocate : device.locate path = some place)
    (hnode : device.root.find? place = some (.directory about kind entries))
    (hintact : Intact place gone) :
    device.responder.respond gone (.readDirectory path) =
      (.ok (device.listing entries.names), gone) := by
  have hpresent := present_of_intact (.directory about kind entries) hintact
  simp only [responder, node?_eq hlocate hintact.not_mem hnode, hpresent, Node.about, kind, if_true]
  rfl

/-! ## The whole tree -/

theorem intact_cleared {name other : String} {child : Node}
    (hintact : Intact (place ++ [other]) gone) (hvalid : child.Valid) (hne : other ≠ name) :
    Intact (place ++ [other]) (device.cleared (child.postOrder path (place ++ [name])) gone) := by
  intro removed hremoved hunder
  simp only [cleared, List.mem_append, List.mem_reverse, mem_removed] at hremoved
  rcases hremoved with ⟨hplace, -⟩ | hgone
  · obtain ⟨rest, hrest, -⟩ :=
      (Node.mem_postOrder child hvalid path (place ++ [name]) removed).mp hplace
    rw [hrest, List.append_assoc, List.prefix_append_right_inj] at hunder
    exact hne (List.cons_prefix_cons.mp hunder).1
  · exact hintact removed hgone hunder

mutual

/-- Removing a node clears it and everything below it, except what stays. -/
theorem removeTree_ends (host : HostTree) (force : Bool) (node : Node) {path : String}
    {place : Place} {gone : List Place} {depth : Nat}
    (hlocate : device.locate path = some place)
    (hnode : device.root.find? place = some node) (hintact : Intact place gone)
    (hdepth : node.height < depth) :
    ∃ result requests,
      Verdict device path place force (device.left (node.postOrder path place)) result ∧
      Ends device.responder (removeTree depth path force) ⟨gone, host⟩ result requests
        ⟨device.cleared (node.postOrder path place) gone, host⟩ := by
  obtain ⟨depth, rfl⟩ : ∃ lower, depth = lower + 1 := ⟨depth - 1, by omega⟩
  have hstat : Ends device.responder (stat path) ⟨gone, host⟩ (.ok (seen node.about))
      [.fileInfo path] ⟨gone, host⟩ :=
    stat_described (respond_fileInfo hlocate hnode hintact.not_mem)
  obtain ⟨result, requests, hverdict, hlast⟩ :=
    removeEmptied_ends host force hlocate hnode hintact
  match node with
  | .leaf about kind =>
      refine ⟨result, [Request.fileInfo path] ++ requests, hverdict, hstat.andThen ?_⟩
      simp only [describesDirectory_seen, Node.about, kind, Bool.false_eq_true, if_false]
      rw [removeLeaf_eq]
      exact hlast
  | .directory about kind entries =>
      have hlist : Ends device.responder (listDirectory path) ⟨gone, host⟩
          (.ok (device.listing entries.names)) [.readDirectory path] ⟨gone, host⟩ :=
        listDirectory_answered (respond_readDirectory hlocate hnode hintact)
      have hvalid : entries.Valid := device.valid.find? hnode
      have hnames : ∀ name ∈ entries.names, ChildName name := fun name hname => by
        obtain ⟨child, hchild⟩ :=
          Option.isSome_iff_exists.mp ((entries.child?_isSome name).mpr hname)
        exact (hvalid.child hchild).1
      have hbelow : ∀ name child, entries.child? name = some child →
          device.root.find? (place ++ [name]) = some child := fun name child hchild => by
        rw [Node.find?_child hnode name]
        exact hchild
      have huntouched : ∀ name ∈ entries.names, Intact (place ++ [name]) gone :=
        fun name _ => hintact.child name
      have hheight : entries.height ≤ depth := by
        simp only [Node.height] at hdepth
        omega
      obtain ⟨asked, hchildren⟩ :=
        removeChildren_ends host entries hlocate hvalid hbelow huntouched hheight
      refine ⟨result, [Request.fileInfo path] ++
        ([Request.readDirectory path] ++ (asked ++ requests)), hverdict, hstat.andThen ?_⟩
      simp only [describesDirectory_seen, Node.about, kind, if_true]
      refine hlist.bind ?_
      rw [removeChildren_filter, device.listing_filter entries.names hnames]
      exact hchildren.bind hlast

theorem removeChildren_ends (host : HostTree) (entries : Entries) {path : String} {place : Place}
    {gone : List Place} {depth : Nat} (hlocate : device.locate path = some place)
    (hvalid : entries.Valid)
    (hbelow : ∀ name child, entries.child? name = some child →
      device.root.find? (place ++ [name]) = some child)
    (huntouched : ∀ name ∈ entries.names, Intact (place ++ [name]) gone)
    (hheight : entries.height ≤ depth) :
    ∃ requests, Ends device.responder
      (removeChildren (removeTree depth · true) path entries.names) ⟨gone, host⟩
      (.ok (device.left (entries.postOrder path place))) requests
      ⟨device.cleared (entries.postOrder path place) gone, host⟩ := by
  match entries with
  | .nil => exact ⟨[], .done _ _⟩
  | .cons name node rest =>
      obtain ⟨hname, hnew, -, hrest⟩ := hvalid
      have hnode : device.root.find? (place ++ [name]) = some node :=
        hbelow name node (by simp [Entries.child?])
      have hchild := RemovingDevice.locate_child hlocate hnode
      have hintact := huntouched name (by simp [Entries.names])
      simp only [Entries.height] at hheight
      have hlater : ∀ other ∈ rest.names, Intact (place ++ [other])
          (device.cleared (node.postOrder (RemotePath.join path name) (place ++ [name])) gone) :=
        fun other hother => intact_cleared (huntouched other (by simp [Entries.names, hother]))
          (device.valid.find? hnode) fun heq => hnew (heq ▸ hother)
      have hfound : ∀ other child, rest.child? other = some child →
          device.root.find? (place ++ [other]) = some child := fun other child hother => by
        refine hbelow other child ?_
        rw [Entries.child?, if_neg]
        · exact hother
        · rintro rfl
          exact hnew ((rest.child?_isSome name).mp (by rw [hother]; rfl))
      have hlow : rest.height ≤ depth := by omega
      obtain ⟨asked, hothers⟩ :=
        removeChildren_ends host rest hlocate hrest hfound hlater hlow
      have hdirectory : Ends device.responder (isDirectory (RemotePath.join path name)) ⟨gone, host⟩
          (.ok node.about.info.isDirectory) [.fileInfo (RemotePath.join path name)] ⟨gone, host⟩ :=
        isDirectory_described (respond_fileInfo hchild hnode hintact.not_mem)
      simp only [Entries.names, Entries.postOrder, left_append, cleared_append, removeChildren,
        hname.not_traversal, Bool.false_eq_true, if_false]
      match node with
      | .leaf about kind =>
          obtain ⟨answer, hone, hgone, hkept, -⟩ :=
            removeOne_cleared host true hchild hnode hintact
          refine ⟨[Request.fileInfo (RemotePath.join path name)] ++
            ([Request.remove (RemotePath.join path name)] ++ (asked ++ [])), hdirectory.andThen ?_⟩
          simp only [Node.about, kind]
          cases hstays : device.stays (place ++ [name]) with
          | false =>
              cases hgone hstays
              have hleft : device.left (Node.postOrder (RemotePath.join path name) (place ++ [name])
                  (.leaf about kind)) = [] := by simp [left, Node.postOrder, hstays]
              rw [hleft]
              exact hone.bind (hothers.bind (.done _ _))
          | true =>
              cases hkept hstays rfl
              have hleft : device.left (Node.postOrder (RemotePath.join path name) (place ++ [name])
                  (.leaf about kind)) = [RemotePath.join path name] := by
                simp [left, Node.postOrder, hstays]
              rw [hleft]
              exact hone.bind (hothers.bind (.done _ _))
      | .directory about kind entries =>
          have hlower : (Node.directory about kind entries).height < depth := by omega
          obtain ⟨result, requests, hverdict, htree⟩ :=
            removeTree_ends host true (.directory about kind entries) hchild hnode hintact hlower
          cases hverdict.forced rfl
          refine ⟨[Request.fileInfo (RemotePath.join path name)] ++ (requests ++ (asked ++ [])),
            hdirectory.andThen ?_⟩
          simp only [Node.about, kind]
          exact htree.andThen (hothers.bind (.done _ _))

end

/-! ## Nothing to remove -/

theorem removeTree_absent (host : HostTree) (depth : Nat) (force : Bool)
    (habsent : device.node? gone path = none) :
    Ends device.responder (removeTree (depth + 1) path force) ⟨gone, host⟩
      (if force then .ok [] else .error (.reply (.status (device.missing path))))
      (if force then [.fileInfo path] else [.fileInfo path, .remove path]) ⟨gone, host⟩ := by
  have hinfo : device.responder.respond gone (.fileInfo path) =
      (.error (.status (device.absent path)), gone) := by simp only [responder, habsent]
  have hremove : device.responder.respond gone (.remove path) =
      (.ok (device.missing path).1, gone) := by simp only [responder, habsent]
  obtain ⟨error, hnotFound, hstat⟩ : ∃ error, error.isNotFound = true ∧
      Ends device.responder (stat path) ⟨gone, host⟩ (.error error) [.fileInfo path]
        ⟨gone, host⟩ := stat_absent (device.absent path).2 hinfo
  cases force with
  | true =>
      show Ends _ _ _ _ ([Request.fileInfo path] ++ []) _
      refine hstat.andThen ?_
      simp only [hnotFound, Bool.not_true, Bool.false_eq_true, if_false, if_true]
      exact .done _ _
  | false =>
      have hone := removeOne_ends host false hremove
      simp only [(device.missing path).2, Bool.false_eq_true, if_false] at hone
      show Ends _ _ _ _ ([Request.fileInfo path] ++ ([Request.remove path] ++ [])) _
      refine hstat.andThen ?_
      simp only [hnotFound, Bool.not_true, Bool.false_eq_true, if_false]
      exact hone.bind_error

end

/-! ## Runs -/

section

variable {device : RemovingDevice} {path : String} {place : Place} {node : Node}

/-- What has been cleared at and below a node is what does not stay. -/
theorem not_mem_cleared_iff (path : String) (hnode : device.root.find? place = some node)
    {other : Place} (hother : (device.root.find? other).isSome = true) :
    other ∉ device.cleared (node.postOrder path place) [] ↔
      (place <+: other → device.stays other = true) := by
  have hplace := Node.mem_postOrder node (device.valid.find? hnode) path place other
  simp only [cleared, List.append_nil, List.mem_reverse, mem_removed, hplace, not_and,
    Bool.not_eq_false]
  constructor
  · rintro hstays ⟨rest, rfl⟩
    refine hstays ⟨rest, rfl, ?_⟩
    rwa [Node.find?_append, hnode] at hother
  · rintro hstays ⟨rest, rfl, -⟩
    exact hstays (List.prefix_append place rest)

theorem left_eq_filter (hnode : device.root.find? place = some node) :
    ((node.postOrder path place).filter fun entry =>
      entry.1 ∉ device.cleared (node.postOrder path place) []).map Prod.snd =
        device.left (node.postOrder path place) := by
  refine congrArg (List.map Prod.snd) (List.filter_congr fun entry hentry => ?_)
  obtain ⟨rest, hrest, hfound⟩ := (Node.mem_postOrder node (device.valid.find? hnode) path place
    entry.1).mp ⟨entry.2, hentry⟩
  have hother : (device.root.find? entry.1).isSome = true := by
    rw [hrest, Node.find?_append, hnode]
    exact hfound
  have hunder : place <+: entry.1 := hrest ▸ List.prefix_append place rest
  have hiff := not_mem_cleared_iff path hnode hother
  cases hstays : device.stays entry.1 <;> simp [hiff, hunder, hstays]

end

end FileConduit.Client

namespace FileConduit

/-- Removing a path leaves, of what is at and below it, the nodes that the device refuses to
remove and those above them, and nothing else is touched.  The left-over paths are reported in
post-order.  A path that names nothing is not removed if forced, and otherwise its removal is
tried once. -/
theorem removal_exact (tree : RemovingDevice) (config : ClientConfig) (device : Device (List Place))
    (hanswers : device.Answers config tree.responder) (session : Session (List Place))
    (hready : Session.Ready config session) (hwhole : session.device = []) (path : String)
    (force : Bool) (spare : Nat) :
    let run := session.run device (Client.removeTree (tree.root.height + 1 + spare) path force)
    let gone := run.2.device
    match tree.node? [] path with
    | some (place, node) =>
        (∀ other, (tree.root.find? other).isSome = true →
          (other ∉ gone ↔ (place <+: other → ∃ kept, other <+: kept ∧
            (tree.root.find? kept).isSome = true ∧ (tree.refusal kept).isSome = true))) ∧
        ∃ result, run.1 = .finished result ∧
          Client.Verdict tree path place force
            (((node.postOrder path place).filter fun entry => entry.1 ∉ gone).map Prod.snd) result
    | none =>
        gone = [] ∧
        run.1 = .finished
          (if force then .ok [] else .error (.reply (.status (tree.missing path)))) ∧
        run.2.sentFrames = session.sentFrames ++ Request.frames session.packetNumber
          (if force then [.fileInfo path] else [.fileInfo path, .remove path]) := by
  intro run gone
  cases hfound : tree.node? [] path with
  | none =>
      have hends := Client.removeTree_absent session.host (tree.root.height + spare) force hfound
      rw [Nat.add_right_comm, ← hwhole] at hends
      obtain ⟨houtcome, hplays⟩ := Session.run_ends hanswers hready hends
      exact ⟨hplays.device.trans hwhole, houtcome, hplays.sent⟩
  | some found =>
      obtain ⟨place, node⟩ := found
      obtain ⟨hlocate, hnode⟩ := RemovingDevice.eq_of_node? hfound
      have hintact : RemovingDevice.Intact place [] := fun other hother => by cases hother
      have hheight : node.height < tree.root.height + 1 + spare := by
        have hlow := Node.height_find? hnode
        omega
      obtain ⟨result, requests, hverdict, hends⟩ :=
        Client.removeTree_ends session.host force node hlocate hnode hintact hheight
      have hworld : (⟨[], session.host⟩ : World (List Place)) = ⟨session.device, session.host⟩ := by
        rw [hwhole]
      rw [hworld] at hends
      obtain ⟨houtcome, hplays⟩ := Session.run_ends hanswers hready hends
      have hgone : gone = tree.cleared (node.postOrder path place) [] := hplays.device
      refine ⟨fun other hother => ?_, result, houtcome, ?_⟩
      · rw [hgone, Client.not_mem_cleared_iff path hnode hother, RemovingDevice.stays_iff]
      · rw [hgone, Client.left_eq_filter hnode]
        exact hverdict

/-! ## A file that cannot be removed -/

namespace Client

/-- A root with two files, of which the device refuses to remove the first. -/
def stuckRoot : Node :=
  .folder (.cons "f" .file (.cons "g" .file .nil))

theorem stuckRoot_valid : stuckRoot.Valid :=
  ⟨by decide, by decide, trivial, by decide, by decide, trivial, trivial⟩

def stuck : RemovingDevice where
  root := stuckRoot
  valid := stuckRoot_valid
  locate := PathReading.plain.locate
  locate_join := PathReading.plain.locate_entry stuckRoot_valid
  refusal place := if place = ["f"] then some ⟨.permissionDenied, rfl⟩ else none
  nonEmpty _ := ⟨.directoryNotEmpty, rfl⟩
  missing _ := ⟨.objectNotFound, rfl⟩
  absent _ := ⟨.objectNotFound, .inr rfl⟩
  listing names := names
  listing_filter names hnames := by
    refine List.filter_eq_self.mpr fun name hname => ?_
    rw [(hnames name hname).not_traversal]
    rfl

theorem file_isDirectory : Node.file.about.info.isDirectory = false := rfl

theorem stuck_isDirectory : stuckRoot.about.info.isDirectory = true := rfl

theorem stuck_listing (names : List String) : stuck.listing names = names := rfl

theorem stuck_find? {place : Place} {node : Node} (hnode : stuck.root.find? place = some node) :
    node = stuckRoot ∨ node = Node.file := by
  have hmem := Node.mem_nodes hnode
  simp only [stuck, stuckRoot, Node.folder, Node.nodes, Entries.nodes, Node.file, List.append_nil,
    List.cons_append, List.nil_append, List.mem_cons, List.not_mem_nil, or_false, or_self] at hmem
  exact hmem

theorem stuck_present (gone : List Place) (place : Place) :
    RemovingDevice.present gone place stuckRoot ∈ [[], ["f"], ["g"], ["f", "g"]] := by
  show List.filter _ ["f", "g"] ∈ _
  simp only [List.filter_cons, List.filter_nil]
  split
  · split <;> simp
  · split <;> simp

theorem stuck_removal (gone : List Place) (place : Place) (node : Node) :
    ∃ number, (stuck.removal gone place node).1 = .ofNumber number := by
  unfold RemovingDevice.removal
  split
  · exact ⟨33, rfl⟩
  · split
    · rename_i code hrefusal
      simp only [stuck] at hrefusal
      split at hrefusal
      · cases hrefusal
        exact ⟨10, rfl⟩
      · cases hrefusal
    · exact ⟨0, rfl⟩

theorem stuck_carried (gone : List Place) (request : Request) :
    request.Carried {} (stuck.responder.respond gone request).1 := by
  cases request with
  | fileInfo path =>
      cases hfound : stuck.node? gone path with
      | none =>
          simp only [RemovingDevice.responder, hfound]
          exact Request.carried_refusal 8 (by decide) (by simp [Request.operation]) rfl rfl
      | some found =>
          obtain ⟨place, node⟩ := found
          simp only [RemovingDevice.responder, hfound]
          rcases stuck_find? (RemovingDevice.eq_of_node? hfound).2 with rfl | rfl
          · exact Request.carried_fields path rfl (by decide) (by decide)
          · exact Request.carried_fields path rfl (by decide) (by decide)
  | readDirectory path =>
      cases hfound : stuck.node? gone path with
      | none =>
          simp only [RemovingDevice.responder, hfound]
          exact Request.carried_refusal 8 (by decide) (by simp [Request.operation]) rfl rfl
      | some found =>
          obtain ⟨place, node⟩ := found
          simp only [RemovingDevice.responder, hfound]
          rcases stuck_find? (RemovingDevice.eq_of_node? hfound).2 with rfl | rfl
          · simp only [stuck_isDirectory, if_true, stuck_listing]
            have hnames := stuck_present gone place
            generalize RemovingDevice.present gone place stuckRoot = names at hnames ⊢
            apply Request.carried_listing path
            · revert names
              decide
            · revert names
              decide
          · simp only [file_isDirectory, Bool.false_eq_true, if_false]
            exact Request.carried_refusal 7 (by decide) (by simp [Request.operation]) rfl rfl
  | remove path =>
      cases hfound : stuck.node? gone path with
      | none =>
          simp only [RemovingDevice.responder, hfound]
          exact Request.carried_removal 8 path (by decide) rfl
      | some found =>
          obtain ⟨place, node⟩ := found
          obtain ⟨number, hcode⟩ := stuck_removal gone place node
          simp only [RemovingDevice.responder, hfound]
          exact Request.carried_removal number path (by decide) hcode
  | _ => exact Request.carried_refusal 15 (by decide) (by simp [Request.operation]) rfl rfl

end Client

/-- The first file stays, and its removal fails with the status by which the device refuses it.
When the root is removed, the second file goes, and what is left is reported from below: as the
result if forced, else as a failure. -/
theorem removal_exact_stuck :
    let start := Session.fresh {} [] (.empty "host") []
    let device := Client.stuck.responder.device
    let single := start.run device (Client.removeTree 2 "/f" false)
    (["f"] ∉ single.2.device ∧
      single.1 = .finished (.error (.reply (.status .permissionDenied)))) ∧
    ∀ force,
      let whole := start.run device (Client.removeTree 2 "/" force)
      (["f"] ∉ whole.2.device ∧ [] ∉ whole.2.device ∧ ["g"] ∈ whole.2.device) ∧
      whole.1 = .finished
        (if force then .ok ["/f", "/"] else .error (.removeFailed ["/f", "/"])) := by
  have hexact := removal_exact Client.stuck {} Client.stuck.responder.device
    (Responder.device_answers Client.stuck_carried) (Session.fresh {} [] (.empty "host") [])
    (Session.fresh_ready {} [] (.empty "host")) rfl
  constructor
  · have hfile := hexact "/f" false 0
    have hnode : Client.stuck.node? [] "/f" = some (["f"], Node.file) := rfl
    simp only [hnode] at hfile
    obtain ⟨hremains, result, hrun, hverdict⟩ := hfile
    have hkept := (hremains ["f"] rfl).mpr fun _ => ⟨["f"], List.prefix_rfl, rfl, rfl⟩
    obtain ⟨code, hcode, hresult⟩ := hverdict.alone rfl (by
      simp only [Node.file, Node.postOrder, List.filter_cons, List.filter_nil, hkept,
        not_false_eq_true, decide_true, if_true, List.map_cons, List.map_nil])
    cases hcode
    rw [hresult] at hrun
    exact ⟨hkept, hrun⟩
  · intro force
    have hroot := hexact "/" force 0
    have hnode : Client.stuck.node? [] "/" = some ([], Client.stuckRoot) := rfl
    rw [show Client.stuck.root.height + 1 + 0 = 2 from rfl] at hroot
    simp only [hnode] at hroot
    obtain ⟨hremains, result, hrun, hverdict⟩ := hroot
    have hfirst := (hremains ["f"] rfl).mpr fun _ => ⟨["f"], List.prefix_rfl, rfl, rfl⟩
    have habove := (hremains [] rfl).mpr fun _ => ⟨["f"], List.nil_prefix, rfl, rfl⟩
    have hsecond := mt (hremains ["g"] rfl).mp fun hkept => by
      obtain ⟨kept, hunder, -, hrefusal⟩ := hkept List.nil_prefix
      simp only [Client.stuck] at hrefusal
      split at hrefusal
      · rename_i hrefused
        rw [hrefused] at hunder
        exact absurd hunder (by decide)
      · cases hrefusal
    rw [Classical.not_not] at hsecond
    have horder : Client.stuckRoot.postOrder "/" [] =
        [(["f"], "/f"), (["g"], "/g"), ([], "/")] := by decide
    simp only [horder, List.filter_cons, List.filter_nil, hfirst, habove, hsecond,
      not_false_eq_true, not_true_eq_false, decide_true, decide_false, Bool.false_eq_true, if_true,
      if_false, List.map_cons, List.map_nil] at hverdict
    refine ⟨⟨hfirst, habove, hsecond⟩, hrun.trans (congrArg _ ?_)⟩
    cases force with
    | true => exact hverdict.forced rfl
    | false => exact hverdict.several rfl (by decide) (by decide)

end FileConduit

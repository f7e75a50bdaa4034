import FileConduit.Proofs.Client.Pull.Mirror
import FileConduit.Proofs.Client.Pull.Once
import FileConduit.Proofs.Path.Entry

/-!
# A pull without end

A link in a directory that leads to `.` gives the directory a longer spelling every time that it is
followed.  A pull has visited none of them before, so it enters the directory over and over, each
time one directory deeper on the host, until the host refuses.
-/

namespace FileConduit

open Program

open Client (Pull linked)

/-! ## Entering a directory -/

/-- A directory that has not been visited under its spelling is entered. -/
theorem FileServer.enter_ends {σ : Type} {server : FileServer σ} (config : ClientConfig)
    {visited : List String} {path source : String} {target : HostPath}
    (rest : List (String × HostPath)) {entries : Entries} {world : World σ} {made : HostTree}
    (hsource : server.resolved path = some source)
    (hdirectory : server.directory? source = some entries) (hnew : source ∉ visited)
    (hmade : world.host.perform (.makeDirectories target) = (.ok (), made)) :
    ∃ requests, Ends server.responder (Pull.step config ⟨visited, (path, target) :: rest⟩) world
      (.ok (some ⟨source :: visited,
        Pull.children config source target (server.listing entries.names) ++ rest⟩)) requests
      ⟨world.device, made⟩ := by
  obtain ⟨result, hresolve, hresolved⟩ := server.resolve_ends path world
  obtain ⟨found, hlook, hfound⟩ := server.isDirectory_ends source world
  obtain rfl := (hresolved source).mpr hsource
  obtain rfl := hfound.mpr (by rw [hdirectory]; rfl)
  have hmaking : Ends server.responder (onHost (.makeDirectories target)) world (.ok ()) []
      ⟨world.device, made⟩ := .performed server.responder world.device hmade
  have hlist : Ends server.responder (Client.listDirectory source) ⟨world.device, made⟩
      (.ok (server.listing entries.names)) [.readDirectory source] ⟨world.device, made⟩ :=
    FileServer.listDirectory_ends hdirectory
  exact ⟨_, (Ends.stopIfCancelled server.responder world).bind
    (hresolve.bind (hlook.bind (hmaking.bind (by
      rw [if_neg hnew]
      exact hlist.bind (.done _ _)))))⟩

/-! ## The spellings of the directory -/

namespace Client

theorem pathParts_join {path name : String} (hlast : path.toList.getLast? ≠ some '/')
    (hslash : '/' ∉ name.toList) :
    pathParts (RemotePath.join path name) = pathParts path ++ [name] := by
  have hslashed : ("/" : String).toList ++ name.toList = '/' :: name.toList := rfl
  rw [RemotePath.join, if_neg hlast, pathParts, String.toList_append, String.toList_append,
    List.append_assoc, hslashed, Text.pieces_append, Text.pieces_of_not_mem hslash]
  simp [pathParts]

/-- The directory as it is spelled after the link has been followed so many times. -/
def circled : Nat → String
  | 0 => "/d"
  | turns + 1 => RemotePath.join (circled turns) "."

theorem circled_last (turns : Nat) : (circled turns).toList.getLast? ≠ some '/' := by
  cases turns with
  | zero => decide
  | succ turns =>
      rw [circled, RemotePath.join]
      split <;> simp [String.toList_append]

theorem pathParts_circled (turns : Nat) :
    pathParts (circled turns) = ["", "d"] ++ List.replicate turns "." := by
  induction turns with
  | zero => decide
  | succ turns ih =>
      rw [circled, pathParts_join (circled_last turns) (by decide), ih, List.append_assoc,
        ← List.replicate_succ']

theorem length_circled (turns : Nat) : (circled turns).length < (circled (turns + 1)).length := by
  rw [circled, RemotePath.join, if_neg (circled_last turns)]
  simp only [String.length_append, show ("/" : String).length = 1 from rfl]
  omega

/-- The link leads to the next spelling. -/
theorem resolveLink_circled (turns : Nat) :
    RemotePath.resolveLink (RemotePath.join (circled turns) "l") "." = circled (turns + 1) := by
  apply RemotePath.resolveLink_join _ (by decide) (by decide) (by decide)
  rintro ⟨front, hfront⟩
  apply circled_last turns
  rw [← hfront]
  simp

/-! ## What the device makes of them -/

theorem walk_circled (jump : Place → List String → Option Place) (turns : Nat)
    (rest : List String) :
    (linkedRoot ".").walk jump [] (["", "d"] ++ List.replicate turns "." ++ rest) =
      (linkedRoot ".").walk jump ["d"] rest := by
  have hdots : (linkedRoot ".").walk jump ["d"] (List.replicate turns "." ++ rest) =
      (linkedRoot ".").walk jump ["d"] rest := by
    induction turns with
    | zero => rfl
    | succ turns ih => exact ih
  exact hdots

theorem directory?_circled (turns : Nat) :
    (linked ".").directory? (circled turns) = some (.cons "l" (.link ".") .nil) := by
  have hne : circled turns ≠ "" := by
    intro hempty
    have hparts := pathParts_circled turns
    rw [hempty] at hparts
    cases hparts
  have hlocate : (linked ".").locate (circled turns) = some ["d"] := by
    show (linkedRoot ".").locate (circled turns) = _
    have hwalk := walk_circled ((linkedRoot ".").follow 39) turns []
    rw [List.append_nil] at hwalk
    rw [Node.locate, if_neg hne, pathParts_circled, Node.follow]
    exact hwalk
  rw [FileServer.directory?, FileServer.node?, hlocate]
  rfl

theorem resolved_circled (turns : Nat) :
    (linked ".").resolved (RemotePath.join (circled turns) "l") = some (circled (turns + 1)) := by
  have hlocate : (linked ".").locate (RemotePath.join (circled turns) "l") = some ["d", "l"] := by
    show (linkedRoot ".").locate (RemotePath.join (circled turns) "l") = _
    rw [Node.locate, if_neg (RemotePath.join_ne_empty _ _),
      pathParts_join (circled_last turns) (by decide), pathParts_circled, Node.follow,
      walk_circled]
    rfl
  rw [FileServer.resolved, FileServer.node?, hlocate, ← resolveLink_circled turns]
  rfl

/-! ## The pull -/

/-- A pull that is about to enter the directory again, with room for it on the host. -/
structure Circling (pull : Pull) (world : World Unit) (turns : Nat) (path : String)
    (above : HostPath) (spot : Location) (name : String) : Prop where
  pending : pull.pending = [(path, above.child name)]
  resolved : (linked ".").resolved path = some (circled turns)
  shorter : ∀ seen ∈ pull.visited, seen.length < (circled turns).length
  found : world.host.find above = .ok (spot, .directory)
  fits : HostTree.Fits name
  vacant : ∀ rest, world.host.get? (spot ++ name :: rest) = none

/-- It enters the directory, and is about to enter it again. -/
theorem Circling.step {pull : Pull} {world : World Unit} {turns : Nat} {path : String}
    {above : HostPath} {spot : Location} {name : String}
    (hcircling : Circling pull world turns path above spot name) :
    ∃ next requests final, Ends (linked ".").responder (Pull.step {} pull) world
        (.ok (some next)) requests final ∧
      Circling next final (turns + 1) (RemotePath.join (circled turns) "l") (above.child name)
        (spot ++ [name]) "l" := by
  obtain ⟨visited, pending⟩ := pull
  obtain rfl := hcircling.pending
  have hvacant := hcircling.vacant []
  have hnew : circled turns ∉ visited :=
    fun hseen => Nat.lt_irrefl _ (hcircling.shorter _ hseen)
  have hmade := HostTree.makeDirectories_child hcircling.fits hcircling.found hvacant
  obtain ⟨requests, hends⟩ := FileServer.enter_ends {} [] hcircling.resolved
    (directory?_circled turns) hnew hmade
  refine ⟨_, requests, _, hends, rfl, resolved_circled turns, fun seen hseen => ?_,
    made_find hcircling.fits hcircling.found hvacant, by decide, fun rest => ?_⟩
  · rcases List.mem_cons.mp hseen with rfl | hearlier
    · exact length_circled turns
    · exact Nat.lt_trans (hcircling.shorter seen hearlier) (length_circled turns)
  · rw [(put_overlaid hvacant .directory).outside]
    · rw [List.append_assoc]
      exact hcircling.vacant ("l" :: rest)
    · intro below hbelow
      rw [← List.append_cancel_left hbelow]
      rfl

end Client

/-- The device reads paths as usual, its link leads to the directory that holds it, and the host
never refuses; but in however many steps, the pull does not come to an end. -/
theorem pull_unending_linked (steps : Nat) :
    ((Session.fresh {} () Client.receivingHost []).run (linked ".").responder.device
      (Client.pull {} steps "/d" ⟨["out"]⟩)).1 = .halted .steps := by
  have hanswers : (linked ".").responder.device.Answers {} (linked ".").responder :=
    Responder.device_answers (Client.linked_carried fun path =>
      Request.carried_fields path rfl (by decide) (by decide))
  have hrun := Session.run_plays hanswers (Client.pull {} steps "/d" ⟨["out"]⟩)
    (Session.fresh {} () Client.receivingHost []) (Session.fresh_ready {} () Client.receivingHost)
  rw [hrun.1]
  refine play_repeatUntilNone_endless (fun pull world =>
      ∃ turns path above spot name, Client.Circling pull world turns path above spot name)
    ?_ steps _ _ ⟨0, "/d", ⟨["out"]⟩, ["host", "out"], "d", rfl, rfl, ?_, ?_, by decide, ?_⟩
  · rintro now world ⟨turns, path, above, spot, name, hcircling⟩
    obtain ⟨next, requests, final, hends, hnext⟩ := hcircling.step
    exact ⟨next, requests, final, hends, _, _, _, _, _, hnext⟩
  · exact fun seen hseen => (List.not_mem_nil hseen).elim
  · cbv
  · exact fun rest => rfl

end FileConduit

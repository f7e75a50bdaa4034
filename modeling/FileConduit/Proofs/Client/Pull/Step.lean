import FileConduit.Client.Transfer
import FileConduit.Proofs.Client.Fetching
import FileConduit.Proofs.Device.Serving
import FileConduit.Proofs.Session.Answering

/-!
# The steps of a pull

A step of a pull takes up the next path that is due, follows it one link, and either copies a
file or enters a directory.  It lists a directory only when it has not come to it before under
the same spelling.
-/

namespace FileConduit

open Program

namespace FileServer

variable {σ : Type} {server : FileServer σ} {path source : String} {world : World σ}

/-- The path that the client goes on with, one link followed. -/
def resolved (server : FileServer σ) (path : String) : Option String :=
  (server.node? path).bind fun node =>
    match Client.seen node.about with
    | none => some path
    | some info =>
        if info.isSymlink then info.linkTarget.map (RemotePath.resolveLink path) else some path

theorem stat_named {node : Node} (hnode : server.node? path = some node) (world : World σ) :
    Ends server.responder (Client.stat path) world (.ok (Client.seen node.about))
      [.fileInfo path] world :=
  Client.stat_described (by simp only [responder, hnode])

theorem stat_unnamed (hnode : server.node? path = none) (world : World σ) :
    ∃ error, Ends server.responder (Client.stat path) world (.error error) [.fileInfo path]
      world := by
  have hrespond : server.responder.respond world.device (.fileInfo path) =
      (.error (server.absent path), world.device) := by simp only [responder, hnode]
  exact Client.stat_refused hrespond

theorem resolve_ends (server : FileServer σ) (path : String) (world : World σ) :
    ∃ result, Ends server.responder (Client.resolve path) world result [.fileInfo path] world ∧
      ∀ source, result = .ok source ↔ server.resolved path = some source := by
  cases hnode : server.node? path with
  | none =>
      obtain ⟨error, hstat⟩ := stat_unnamed hnode world
      exact ⟨.error error, hstat.bind_error, by simp [resolved, hnode]⟩
  | some node =>
      have hstat := stat_named hnode world
      cases hseen : Client.seen node.about with
      | none =>
          rw [hseen] at hstat
          exact ⟨.ok path, hstat.bind (.done _ _), by simp [resolved, hnode, hseen]⟩
      | some info =>
          rw [hseen] at hstat
          by_cases hlink : info.isSymlink = true
          · cases htarget : info.linkTarget with
            | none =>
                refine ⟨.error
                    (.refused .objectNotFound (path ++ " is a symlink without a LinkTarget")),
                  hstat.bind ?_, by simp [resolved, hnode, hseen, hlink, htarget]⟩
                simp only [hlink, htarget, if_true]
                exact .done _ _
            | some target =>
                refine ⟨.ok (RemotePath.resolveLink path target), hstat.bind ?_, by
                  simp [resolved, hnode, hseen, hlink, htarget]⟩
                simp only [hlink, htarget, if_true]
                exact .done _ _
          · refine ⟨.ok path, hstat.bind ?_, by simp [resolved, hnode, hseen, hlink]⟩
            simp only [hlink]
            exact .done _ _

theorem isDirectory_ends (server : FileServer σ) (path : String) (world : World σ) :
    ∃ result, Ends server.responder (Client.isDirectory path) world result [.fileInfo path] world ∧
      (result = .ok true ↔ (server.directory? path).isSome = true) := by
  cases hnode : server.node? path with
  | none =>
      obtain ⟨error, hstat⟩ := stat_unnamed hnode world
      exact ⟨.error error, hstat.bind_error, by simp [directory?, hnode]⟩
  | some node =>
      have hends : Ends server.responder (Client.isDirectory path) world
          (.ok node.about.info.isDirectory) [.fileInfo path] world :=
        Client.isDirectory_described (by simp only [responder, hnode])
      refine ⟨_, hends, ?_⟩
      cases node with
      | leaf about kind => simp [directory?, hnode, Node.about, kind]
      | directory about kind entries => simp [directory?, hnode, Node.about, kind]

theorem listDirectory_ends {entries : Entries}
    (hdirectory : server.directory? path = some entries) :
    Ends server.responder (Client.listDirectory path) world (.ok (server.listing entries.names))
      [.readDirectory path] world := by
  obtain ⟨about, kind, hnode⟩ := directory?_eq hdirectory
  exact Client.listDirectory_answered (by simp only [responder, hnode])

end FileServer

/-! ## One step -/

def listedPaths (requests : List Request) : List String :=
  requests.filterMap fun request =>
    match request with
    | .readDirectory path => some path
    | _ => none

theorem listedPaths_append (first rest : List Request) :
    listedPaths (first ++ rest) = listedPaths first ++ listedPaths rest := by
  simp [listedPaths]

/-- To fetch the contents of a file lists nothing. -/
theorem listedPaths_of_fetching {config : ClientConfig} {requests : List Request}
    (hrequests : ∀ request ∈ requests, request.Fetching config) : listedPaths requests = [] := by
  refine List.filterMap_eq_nil_iff.mpr fun request hrequest => ?_
  cases hrequests request hrequest <;> rfl

open Client (Pull)

section

variable {σ : Type} {server : FileServer σ} {config : ClientConfig}

/-- The ways in which a step of a pull can go: what it lists, and how it ends. -/
inductive Stepped (server : FileServer σ) (config : ClientConfig) (pull : Pull) :
    List String → Outcome (Option Pull) → Prop where
  | finished (hpending : pull.pending = []) : Stepped server config pull [] (.finished (.ok none))
  | failed (error : ClientError) : Stepped server config pull [] (.finished (.error error))
  /-- A file is stated to be longer than any buffer. -/
  | halted : Stepped server config pull [] (.halted .capacity)
  /-- A file is copied, or a directory has been entered before. -/
  | passed {path : String} {target : HostPath} {rest : List (String × HostPath)}
      (hpending : pull.pending = (path, target) :: rest)
      (hdone : ∀ source, server.resolved path = some source →
        (server.directory? source).isSome = true → source ∈ pull.visited) :
      Stepped server config pull [] (.finished (.ok (some { pull with pending := rest })))
  /-- A directory is entered. -/
  | entered {path source : String} {target : HostPath} {rest : List (String × HostPath)}
      {entries : Entries} (hpending : pull.pending = (path, target) :: rest)
      (hsource : server.resolved path = some source)
      (hdirectory : server.directory? source = some entries) (hnew : source ∉ pull.visited) :
      Stepped server config pull [source] (.finished (.ok (some {
        visited := source :: pull.visited
        pending := Pull.children config source target (server.listing entries.names) ++ rest })))

def PlaysStep (server : FileServer σ) (config : ClientConfig) (pull : Pull)
    (program : Program (Option Pull)) (world : World σ) : Prop :=
  Stepped server config pull (listedPaths (program.play server.responder world).requests)
    (program.play server.responder world).outcome

namespace PlaysStep

variable {pull : Pull} {world middle : World σ} {α : Type} {program : Program α} {value : α}
  {requests : List Request}

theorem of_ends {program : Program (Option Pull)} {result : Except ClientError (Option Pull)}
    {final : World σ} (hends : Ends server.responder program world result requests final)
    (hstepped : Stepped server config pull (listedPaths requests) (.finished result)) :
    PlaysStep server config pull program world := by
  unfold Ends at hends
  rw [PlaysStep, hends]
  exact hstepped

/-- What comes before the step proper lists nothing. -/
theorem bind (hfirst : Ends server.responder program world (.ok value) requests middle)
    (hlisted : listedPaths requests = []) {next : α → Program (Option Pull)}
    (hnext : PlaysStep server config pull (next value) middle) :
    PlaysStep server config pull (program >>= next) world := by
  rw [PlaysStep, hfirst.play_bind next, Play.requests_after, Play.outcome_after, listedPaths_append,
    hlisted]
  exact hnext

theorem bind_error {error : ClientError} {next : α → Program (Option Pull)}
    (hfirst : Ends server.responder program world (.error error) requests middle)
    (hlisted : listedPaths requests = []) :
    PlaysStep server config pull (program >>= next) world := by
  refine of_ends hfirst.bind_error ?_
  rw [List.append_nil, hlisted]
  exact .failed error

theorem bind_halted (hplay : program.play server.responder world =
      ⟨.halted .capacity, requests, middle⟩) (hlisted : listedPaths requests = [])
    (next : α → Program (Option Pull)) :
    PlaysStep server config pull (program >>= next) world := by
  have hhalts : (program >>= next).play server.responder world =
      ⟨.halted .capacity, requests, middle⟩ := by
    show (program.andThen _).play server.responder world = _
    rw [play_andThen, hplay]
  rw [PlaysStep, hhalts, hlisted]
  exact .halted

end PlaysStep

theorem enter_stepped (config : ClientConfig) {pull : Pull} {path source : String}
    {target : HostPath} {rest : List (String × HostPath)} {entries : Entries}
    (hpending : pull.pending = (path, target) :: rest)
    (hsource : server.resolved path = some source)
    (hdirectory : server.directory? source = some entries) (world : World σ) :
    PlaysStep server config pull (do
      onHost (.makeDirectories target)
      if source ∈ pull.visited then return some { pull with pending := rest }
      else
        let names ← Client.listDirectory source
        return some {
          visited := source :: pull.visited
          pending := Pull.children config source target names ++ rest }) world := by
  cases hmade : world.host.perform (.makeDirectories target) with
  | mk made tree =>
      have hmake := Ends.onHost server.responder hmade
      cases made with
      | error fault => exact .bind_error hmake rfl
      | ok made =>
          refine .bind hmake rfl ?_
          by_cases hvisited : source ∈ pull.visited
          · rw [if_pos hvisited]
            refine .of_ends (.done _ _) (.passed hpending fun other hother _ => ?_)
            rw [hsource] at hother
            cases hother
            exact hvisited
          · rw [if_neg hvisited]
            exact .of_ends ((FileServer.listDirectory_ends hdirectory).bind (.done _ _))
              (.entered hpending hsource hdirectory hvisited)

theorem copy_stepped (config : ClientConfig) {pull : Pull} {path source : String}
    {target : HostPath} {rest : List (String × HostPath)}
    (hpending : pull.pending = (path, target) :: rest)
    (hsource : server.resolved path = some source)
    (hdirectory : (server.directory? source).isSome = false) (world : World σ) :
    PlaysStep server config pull (do
      let contents ← Client.getContents config source
      onHost (.write target (contents.getD []))
      return some { pull with pending := rest }) world := by
  have honly := Client.getContents_only config source
  have hlisted := listedPaths_of_fetching (honly.requests_play server.responder world)
  cases hplay : (Client.getContents config source).play server.responder world with
  | mk outcome requests reached =>
      rw [hplay] at hlisted
      have houtcome := honly.outcome_play server.responder world
      rw [hplay] at houtcome
      rcases houtcome with ⟨copied, rfl⟩ | ⟨cause, hcause, rfl⟩
      · have hcopy : Ends server.responder (Client.getContents config source) world copied requests
            reached := hplay
        cases copied with
        | error error => exact .bind_error hcopy hlisted
        | ok contents =>
            refine .bind hcopy hlisted ?_
            cases hwritten : reached.host.perform (.write target (contents.getD [])) with
            | mk written tree =>
                have hwrite := Ends.onHost server.responder hwritten
                cases written with
                | error fault => exact .bind_error hwrite rfl
                | ok written =>
                    refine .bind hwrite rfl (.of_ends (.done _ _) (.passed hpending ?_))
                    intro other hother hisDirectory
                    rw [hsource] at hother
                    cases hother
                    rw [hdirectory] at hisDirectory
                    cases hisDirectory
      · obtain rfl := List.mem_singleton.mp hcause
        exact .bind_halted hplay hlisted _

theorem step_stepped (server : FileServer σ) (config : ClientConfig) (pull : Pull)
    (world : World σ) : PlaysStep server config pull (Pull.step config pull) world := by
  unfold Pull.step
  cases hpending : pull.pending with
  | nil => exact .of_ends (.done _ _) (.finished hpending)
  | cons copy rest =>
      obtain ⟨path, target⟩ := copy
      refine .bind (.stopIfCancelled server.responder world) rfl ?_
      obtain ⟨source, hresolve, hsource⟩ := server.resolve_ends path world
      cases source with
      | error error => exact .bind_error hresolve rfl
      | ok source =>
          refine .bind hresolve rfl ?_
          have hresolved := (hsource source).mp rfl
          obtain ⟨found, hfind, hfound⟩ := server.isDirectory_ends source world
          cases found with
          | error error => exact .bind_error hfind rfl
          | ok found =>
              refine .bind hfind rfl ?_
              cases hdirectory : server.directory? source with
              | none =>
                  have hnot : found = false := by
                    rw [hdirectory] at hfound
                    simpa using hfound
                  rw [hnot]
                  exact copy_stepped config hpending hresolved (by rw [hdirectory]; rfl) world
              | some entries =>
                  have hyes : found = true := by
                    rw [hdirectory] at hfound
                    simpa using hfound
                  rw [hyes]
                  exact enter_stepped config hpending hresolved hdirectory world

end

end FileConduit

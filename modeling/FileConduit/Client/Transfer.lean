import FileConduit.Client.Path

/-!
# Copies between device and host

Both directions keep a list of copies to make, the next one first.  A directory puts the copies
of what is in it in front of the list; one that has been visited is not entered again.
-/

namespace FileConduit.Client

open Program

/-! ## From the device to the host -/

structure Pull where
  /-- Directories whose children have been queued, by their resolved paths. -/
  visited : List String
  pending : List (String × HostPath)
  deriving Repr

namespace Pull

/-- The place of a copy.  The copy of the root goes straight into the given directory. -/
def destination (config : ClientConfig) (remote : String) (directory : HostPath) : HostPath :=
  if RemotePath.basename remote = "" then directory
  else directory.child (HostName.sanitize config.namingStyle (RemotePath.basename remote))

def start (config : ClientConfig) (remote : String) (directory : HostPath) : Pull where
  visited := []
  pending := [(remote, destination config remote directory)]

def children (config : ClientConfig) (source : String) (target : HostPath)
    (names : List String) : List (String × HostPath) :=
  (names.filter fun name => !RemotePath.isTraversal name).map fun name =>
    (RemotePath.join source name, target.child (HostName.sanitize config.namingStyle name))

/-- Makes one copy.  Links are followed one hop; no contents are written as none. -/
def step (config : ClientConfig) (pull : Pull) : Program (Option Pull) :=
  match pull.pending with
  | [] => done (.ok none)
  | (source, target) :: pending => do
      stopIfCancelled
      let source ← resolve source
      if ← isDirectory source then
        onHost (.makeDirectories target)
        if source ∈ pull.visited then return some { pull with pending }
        else
          let names ← listDirectory source
          return some {
            visited := source :: pull.visited
            pending := children config source target names ++ pending }
      else
        let contents ← getContents config source
        onHost (.write target (contents.getD []))
        return some { pull with pending }

end Pull

/-- Copies a file or tree of the device into a directory of the host, in at most so many
steps. -/
def pull (config : ClientConfig) (steps : Nat) (remote : String) (directory : HostPath) :
    Program Unit :=
  repeatUntilNone (Pull.step config) steps (.start config remote directory)

/-! ## From the host to the device -/

structure Push where
  /-- Directories of the host that have been entered, by their places. -/
  visited : List Location
  pending : List (HostPath × String)
  deriving Repr

namespace Push

def start (origin : HostPath) (name directory : String) : Push where
  visited := []
  pending := [(origin, RemotePath.join directory name)]

/-- The copies of the entries of a directory, in the order of their names. -/
def children (source : HostPath) (target : String) (names : List String) :
    List (HostPath × String) :=
  (names.mergeSort fun first second => first ≤ second).map fun name =>
    (source.child name, RemotePath.join target name)

def ensureDirectory (path : String) : Program Unit :=
  (makeDirectory path).andThen fun result =>
    match result with
    | .ok () => done (.ok ())
    | .error error =>
        if error.code? = some .objectExists then done (.ok ()) else fail error

def step (config : ClientConfig) (push : Push) : Program (Option Push) :=
  match push.pending with
  | [] => done (.ok none)
  | (source, target) :: pending => do
      stopIfCancelled
      if ← onHost (.isDirectory source) then
        let place ← onHost (.realPlace source)
        if place ∈ push.visited then return some { push with pending }
        else
          ensureDirectory target
          let names ← onHost (.names source)
          return some {
            visited := place :: push.visited
            pending := children source target names ++ pending }
      else
        let contents ← onHost (.read source)
        setContents config target contents
        return some { push with pending }

end Push

/-- Copies a file or tree of the host, whose mounted directory has the given name, into a directory
of the device, in at most so many steps.  Names of the host are texts here, so that none is refused
for its bytes. -/
def push (config : ClientConfig) (steps : Nat) (mount : String) (origin : HostPath)
    (directory : String) : Program Unit :=
  match origin.name? mount with
  | none => fail (.unnamed origin)
  | some name => repeatUntilNone (Push.step config) steps (.start origin name directory)

end FileConduit.Client

import FileConduit.Client.Path

/-!
# Walks and listings

A walk goes through a tree directory by directory, each before those below it, in the order of
the listings.  It keeps the directories that wait to be visited, the next one first, so that
nothing is asked of the device before it is wanted.  A listing gives the paths that a walk
finds, the root first.
-/

namespace FileConduit.Client

open Program

structure WalkEntry where
  directory : String
  /-- Names of the directories in it, in listing order. -/
  directories : List String
  /-- Names of everything else in it, in listing order. -/
  files : List String
  /-- Levels below the root of the walk. -/
  depth : Nat
  deriving DecidableEq, Repr, Inhabited

inductive Sorting where
  | directory
  | file
  | skipped
  deriving DecidableEq, Repr

/-- Sorts an entry by its description; one without a kind is skipped. -/
def sortInfo : Option FileInfo → Sorting
  | none => .skipped
  | some info =>
      match info.kind with
      | none => .skipped
      | some .directory => .directory
      | some _ => .file

/-- Sorts the names of a directory, in order.  One that is gone by now is skipped. -/
def sortNames (directory : String) : List String → Program (List (String × Sorting))
  | [] => done (.ok [])
  | name :: names =>
      if RemotePath.isTraversal name then sortNames directory names
      else
        (stat (RemotePath.join directory name)).andThen fun result =>
          match result with
          | .ok info => do
              let rest ← sortNames directory names
              return (name, sortInfo info) :: rest
          | .error error =>
              if error.isNotFound then sortNames directory names else fail error

def namesSorted (sorting : Sorting) (names : List (String × Sorting)) : List String :=
  names.filterMap fun (name, found) => if found = sorting then some name else none

def visit (directory : String) (depth : Nat) : Program WalkEntry := do
  let names ← listDirectory directory
  let sorted ← sortNames directory names
  return ⟨directory, namesSorted .directory sorted, namesSorted .file sorted, depth⟩

/-- Directories that wait to be visited, with their depths. -/
abbrev Pending := List (String × Nat)

def WalkEntry.below (entry : WalkEntry) : Pending :=
  entry.directories.map fun name => (RemotePath.join entry.directory name, entry.depth + 1)

def WalkEntry.paths (entry : WalkEntry) : List String :=
  (entry.directories ++ entry.files).map (RemotePath.join entry.directory)

def descends (bound : Option Nat) (depth : Nat) : Bool :=
  match bound with
  | none => true
  | some bound => depth + 1 < bound

def after (bound : Option Nat) (entry : WalkEntry) (pending : Pending) : Pending :=
  if descends bound entry.depth then entry.below ++ pending else pending

def walk (path : String) : Pending :=
  [(path, 0)]

def walkNext (bound : Option Nat) : Pending → Program (Option (WalkEntry × Pending))
  | [] => done (.ok none)
  | (directory, depth) :: pending => do
      let entry ← visit directory depth
      return some (entry, after bound entry pending)

/-- A listing under way: paths found but not yet given, and the walk behind them. -/
structure Listing where
  ready : List String
  pending : Pending
  deriving DecidableEq, Repr, Inhabited

def list (path : String) (bound : Option Nat) : Listing where
  ready := [path]
  pending := if bound = some 0 then [] else walk path

/-- Goes on with a walk until it finds a path.  A directory with nothing in it has nothing
below it either. -/
def listPending (bound : Option Nat) : Pending → Program (Option (String × Listing))
  | [] => done (.ok none)
  | (directory, depth) :: pending => do
      let entry ← visit directory depth
      match entry.paths with
      | [] => listPending bound pending
      | path :: ready => return some (path, ⟨ready, after bound entry pending⟩)

def listNext (bound : Option Nat) (listing : Listing) : Program (Option (String × Listing)) :=
  match listing.ready with
  | path :: ready => done (.ok (some (path, { listing with ready })))
  | [] => listPending bound listing.pending

end FileConduit.Client

import FileConduit.Error

/-!
# The host's files

A file system as far as the client sees it: directories, files and symbolic links below one
mounted directory.  Paths are followed as POSIX says: each part must be looked up in a
directory, `..` leads to the directory above, and a link is replaced by its target, at most
forty times.  Outside the mounted directory nothing can be seen, so that an absolute link
leads nowhere.  Every name is a text: a host with names of other bytes is outside the model.
-/

namespace FileConduit

inductive HostEntry where
  | directory
  | file (contents : Bytes)
  | link (target : String)
  deriving DecidableEq, Repr, Inhabited

/-- A place in the host's files: the names on the way down from the directory that holds the
mounted one. -/
abbrev Location := List String

/-- The host's files, by place.  The mounted directory is always there. -/
structure HostTree where
  mountName : String
  entries : List (Location × HostEntry)
  deriving DecidableEq, Repr, Inhabited

namespace HostTree

def empty (mountName : String) : HostTree :=
  ⟨mountName, []⟩

def mount (tree : HostTree) : Location :=
  [tree.mountName]

def get? (tree : HostTree) (place : Location) : Option HostEntry :=
  if place = [] ∨ place = tree.mount then some .directory else tree.entries.lookup place

def put (tree : HostTree) (place : Location) (entry : HostEntry) : HostTree :=
  { tree with entries := tree.entries.filter (fun other => other.1 ≠ place) ++ [(place, entry)] }

def linkLimit : Nat := 40

def nameLimit : Nat := 255

/-- Follows the parts of a path from a place.  The last part need not exist; if it is a link,
it is followed only if so asked or if something stands behind it. -/
def follow (tree : HostTree) (last : Bool) (links : Nat) (place : Location) :
    List String → Except HostFault Location
  | [] => .ok place
  | part :: rest =>
      match tree.get? place with
      | none => .error .notFound
      | some (.file _) | some (.link _) => .error .notADirectory
      | some .directory =>
          if HostPath.isIdle part then follow tree last links place rest
          else if part = ".." then follow tree last links place.dropLast rest
          else if nameLimit < part.utf8ByteSize then .error .nameTooLong
          else
            match tree.get? (place ++ [part]) with
            | some (.link target) =>
                if rest = [] ∧ !last then .ok (place ++ [part])
                else if target.toList.head? = some '/' then .error .notFound
                else
                  match links with
                  | 0 => .error .linkLoop
                  | links + 1 =>
                      follow tree last links place ((HostPath.ofText target).parts ++ rest)
            | _ => follow tree last links (place ++ [part]) rest
termination_by parts => (links, parts.length)

def locate (tree : HostTree) (path : HostPath) : Except HostFault Location :=
  follow tree true linkLimit tree.mount path.parts

def find (tree : HostTree) (path : HostPath) : Except HostFault (Location × HostEntry) := do
  let place ← tree.locate path
  match tree.get? place with
  | some entry => .ok (place, entry)
  | none => .error .notFound

def isDirectory (tree : HostTree) (path : HostPath) : Except HostFault Bool := do
  let (_, entry) ← tree.find path
  return entry == .directory

def read (tree : HostTree) (path : HostPath) : Except HostFault Bytes := do
  let (_, entry) ← tree.find path
  match entry with
  | .file contents => .ok contents
  | _ => .error .isADirectory

def names (tree : HostTree) (path : HostPath) : Except HostFault (List String) := do
  let (place, entry) ← tree.find path
  match entry with
  | .directory =>
      return tree.entries.filterMap fun other =>
        if other.1.dropLast = place then other.1.getLast? else none
  | _ => .error .notADirectory

def realPlace (tree : HostTree) (path : HostPath) : Except HostFault Location := do
  let (place, _) ← tree.find path
  return place

def trimEnd (parts : List String) : List String :=
  (parts.reverse.dropWhile (· == "")).reverse

def holder (tree : HostTree) (parts : List String) : Except HostFault Location :=
  follow tree true linkLimit tree.mount (parts.dropLast ++ ["."])

/-- Writes a file, over what it held before if it exists.  A path that ends in a slash names a
directory. -/
def write (tree : HostTree) (path : HostPath) (contents : Bytes) : Except HostFault HostTree :=
  if path.parts.getLast? = some "" then do
    let _ ← tree.holder (trimEnd path.parts)
    .error .isADirectory
  else do
    let place ← tree.locate path
    match tree.get? place with
    | some .directory => .error .isADirectory
    | _ => .ok (tree.put place (.file contents))

def makeDirectory (tree : HostTree) (path : HostPath) : Except HostFault HostTree :=
  match (trimEnd path.parts).getLast? with
  | none => .error .alreadyExists
  | some name => do
      let holder ← tree.holder (trimEnd path.parts)
      if name = "." ∨ name = ".." then .error .alreadyExists
      else if nameLimit < name.utf8ByteSize then .error .nameTooLong
      else
        match tree.get? (holder ++ [name]) with
        | some _ => .error .alreadyExists
        | none => .ok (tree.put (holder ++ [name]) .directory)

/-- The path of the directory above, as far as the text of a path tells. -/
def above (parts : List String) : List String :=
  ((parts.reverse.dropWhile HostPath.isIdle).drop 1).reverse

theorem length_above_lt {parts : List String} (hparts : parts ≠ []) :
    (above parts).length < parts.length := by
  have hdrop := (List.dropWhile_sublist HostPath.isIdle (l := parts.reverse)).length_le
  have hpos := List.length_pos_iff.mpr hparts
  simp only [above, List.length_reverse, List.length_drop] at *
  omega

/-- Accepts a directory that is there already. -/
def orPresent (tree : HostTree) (path : HostPath) (fault : HostFault) : Except HostFault Unit :=
  match tree.isDirectory path with
  | .ok true => .ok ()
  | _ => .error fault

/-- Makes a directory and those above it that do not exist.  What was made above stays, even
if the directory itself cannot be made. -/
def makeDirectories (tree : HostTree) (parts : List String) :
    Except HostFault Unit × HostTree :=
  match tree.makeDirectory ⟨parts⟩ with
  | .ok made => (.ok (), made)
  | .error .notFound =>
      if _hparts : parts = [] then (.error .notFound, tree)
      else
        match makeDirectories tree (above parts) with
        | (.error fault, tree) => (.error fault, tree)
        | (.ok (), tree) =>
            match tree.makeDirectory ⟨parts⟩ with
            | .ok made => (.ok (), made)
            | .error fault => (tree.orPresent ⟨parts⟩ fault, tree)
  | .error fault => (tree.orPresent ⟨parts⟩ fault, tree)
termination_by parts.length
decreasing_by exact length_above_lt _hparts

def makeLink (tree : HostTree) (path : HostPath) (target : String) : Except HostFault HostTree := do
  let place ← follow tree false linkLimit tree.mount path.parts
  match tree.get? place with
  | some _ => .error .alreadyExists
  | none => .ok (tree.put place (.link target))

def contents (tree : HostTree) : List (String × HostEntry) :=
  tree.entries.filterMap fun (place, entry) =>
    match place with
    | root :: inner =>
        if root = tree.mountName then some (String.intercalate "/" inner, entry) else none
    | [] => none

end HostTree

inductive HostAction where
  | isDirectory (path : HostPath)
  | read (path : HostPath)
  | write (path : HostPath) (contents : Bytes)
  | makeDirectories (path : HostPath)
  | names (path : HostPath)
  | realPlace (path : HostPath)
  deriving DecidableEq, Repr

namespace HostAction

@[reducible] def Answer : HostAction → Type
  | isDirectory _ => Bool
  | read _ => Bytes
  | write _ _ => Unit
  | makeDirectories _ => Unit
  | names _ => List String
  | realPlace _ => Location

end HostAction

def HostTree.perform (tree : HostTree) :
    (action : HostAction) → Except HostFault action.Answer × HostTree
  | .isDirectory path => (tree.isDirectory path, tree)
  | .read path => (tree.read path, tree)
  | .names path => (tree.names path, tree)
  | .realPlace path => (tree.realPlace path, tree)
  | .write path contents =>
      match tree.write path contents with
      | .ok written => (.ok (), written)
      | .error fault => (.error fault, tree)
  | .makeDirectories path => tree.makeDirectories path.parts

end FileConduit

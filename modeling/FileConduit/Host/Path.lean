import FileConduit.Path.Remote
import FileConduit.Wire.StringList

/-!
# Paths on the host

A path below the place where the host's files are mounted, as the text between its slashes.
It is kept as it was given: empty parts, `.` and `..` mean something only when it is followed.
-/

namespace FileConduit

structure HostPath where
  /-- What stands between the slashes. -/
  parts : List String
  deriving DecidableEq, Repr, Inhabited

namespace HostPath

def ofText (text : String) : HostPath :=
  ⟨(Text.pieces '/' text.toList).map String.ofList⟩

def child (path : HostPath) (name : String) : HostPath :=
  ⟨path.parts ++ [name]⟩

/-- Whether a part leads nowhere else. -/
def isIdle (part : String) : Bool :=
  part == "" || part == "."

/-- The name that a path ends in, if need be that of the mounted directory; none when it ends in
a step upwards. -/
def name? (path : HostPath) (mount : String) : Option String :=
  match (path.parts.filter fun part => !isIdle part).getLast? with
  | none => some mount
  | some last => if last = ".." then none else some last

/-- A path as it was given, the mounted directory written `<host>`. -/
def display (path : HostPath) : String :=
  "<host>/" ++ String.intercalate "/" path.parts

end HostPath

end FileConduit

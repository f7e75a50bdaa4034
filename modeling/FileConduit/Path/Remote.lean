/-!
# Paths on the device

A path is text with `/` between its components; slashes at its end do not count.  Nothing here
normalises a path: `.` and `..` inside it are left to the device.
-/

namespace FileConduit

namespace RemotePath

/-- Whether a directory entry names no child. -/
def isTraversal (name : String) : Bool :=
  name == "." || name == ".." || name == ""

def trimSlashes (path : List Char) : List Char :=
  (path.reverse.dropWhile (· == '/')).reverse

def afterLastSlash (path : List Char) : List Char :=
  (path.reverse.takeWhile (· != '/')).reverse

/-- What precedes the last slash; nothing when there is none. -/
def beforeLastSlash (path : List Char) : List Char :=
  ((path.reverse.dropWhile (· != '/')).drop 1).reverse

/-- The path of an entry of a directory, with one slash between them. -/
def join (directory name : String) : String :=
  if directory.toList.getLast? = some '/' then directory ++ name
  else directory ++ "/" ++ name

/-- The directory that holds a path; empty for a bare name. -/
def parent (path : String) : String :=
  let trimmed := trimSlashes path.toList
  if '/' ∈ trimmed then
    match beforeLastSlash trimmed with
    | [] => "/"
    | directory => String.ofList directory
  else if path.toList.head? = some '/' then "/"
  else ""

/-- The last component of a path; empty for the root. -/
def basename (path : String) : String :=
  String.ofList (afterLastSlash (trimSlashes path.toList))

/-- Where a symbolic link leads.  A relative target is taken from the directory of the link. -/
def resolveLink (link target : String) : String :=
  if target.toList.head? = some '/' then target
  else if parent link = "" then target
  else join (parent link) target

end RemotePath

end FileConduit

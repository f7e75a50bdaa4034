import FileConduit.Client.File
import FileConduit.FileInfo

/-!
# Paths

Operations that name a file by its path, and the whole contents of a file.
-/

namespace FileConduit.Client

open Program

/-- The description of a path; none when the device returns no fields.  The device reports a
read error for a path that does not exist. -/
def stat (path : String) : Program (Option FileInfo) :=
  .call (.fileInfo path) fun answer =>
    match answer with
    | .error (.reply (.status .readError)) => fail (.fileNotFound path)
    | .error error => fail error
    | .ok info =>
        if info.isEmpty then done (.ok none)
        else
          match FileInfo.ofDictionary info with
          | .ok info => done (.ok (some info))
          | .error error => fail error

def pathExists (path : String) : Program Bool :=
  (stat path).andThen fun result =>
    match result with
    | .ok _ => done (.ok true)
    | .error error => if error.isNotFound then done (.ok false) else fail error

def describesDirectory : Option FileInfo → Bool
  | some info => info.isDirectory
  | none => false

def isDirectory (path : String) : Program Bool := do
  let info ← stat path
  return describesDirectory info

/-- Where a path leads if it is a symbolic link; another link there is not followed. -/
def resolve (path : String) : Program String := do
  match ← stat path with
  | none => return path
  | some info =>
      if info.isSymlink then
        match info.linkTarget with
        | some target => return RemotePath.resolveLink path target
        | none => fail (.refused .objectNotFound (path ++ " is a symlink without a LinkTarget"))
      else return path

/-- The entries of a directory, `.` and `..` included. -/
def listDirectory (path : String) : Program (List String) :=
  request (.readDirectory path)

def makeDirectory (path : String) : Program Unit :=
  request (.makeDirectory path)

def rename (source destination : String) : Program Unit :=
  request (.rename source destination)

def makeLink (kind : LinkKind) (target link : String) : Program Unit :=
  request (.makeLink kind target link)

def deviceInfo : Program InfoDictionary :=
  request .deviceInfo

/-- Runs a program on an open file and closes it, whatever the outcome.  A failure of the
program counts before one of closing. -/
def thenClose (handle : Handle) (program : Program α) : Program α :=
  program.andThen fun result =>
    (close handle).andThen fun closed =>
      match result, closed with
      | .error error, _ => fail error
      | .ok _, .error error => fail error
      | .ok value, .ok () => done (.ok value)

def regularSize (path : String) (info : Option FileInfo) : Except ClientError UInt64 :=
  match info.bind FileInfo.kind with
  | none => .error (.refused .objectNotFound "couldn't find st_ifmt in file info")
  | some .regular =>
      match info.bind FileInfo.size with
      | some size => .ok size
      | none => .error (.refused .objectNotFound "couldn't find st_size in file info")
  | some _ => .error (.refused .invalidArgument (path ++ " isn't a file"))

/-- Reads so many bytes of an open file and closes it.  The device may state a size that no buffer
can have; then nothing is read and the handle stays open. -/
def readAll (config : ClientConfig) (handle : Handle) (size : UInt64) : Program Bytes :=
  if Bytes.maxLength < size.toNat then halted .capacity
  else thenClose handle (read config handle size.toNat)

/-- The contents of a file of the given size; none when the device hands out no handle. -/
def openContents (config : ClientConfig) (path : String) (size : UInt64) :
    Program (Option Bytes) := do
  let handle ← openFile path .readOnly
  if handle.isNull then return none
  else
    let contents ← readAll config handle size
    return some contents

/-- The contents of a regular file, one link followed.  The host counts lengths in words of 64 bits,
so that every size is a length, and none is refused as too large for one. -/
def getContents (config : ClientConfig) (path : String) : Program (Option Bytes) := do
  let path ← resolve path
  let info ← stat path
  let size ← ofResult (regularSize path info)
  openContents config path size

/-- Replaces the contents of a file, which is made if it does not exist. -/
def setContents (config : ClientConfig) (path : String) (data : Bytes) : Program Unit := do
  let handle ← openFile path .writeOnly
  if handle.isNull then fail (.refused .openFailed "Failed to open file for writing")
  else thenClose handle (write config handle data)

end FileConduit.Client

import FileConduit.Error
import FileConduit.Text.Blank
import FileConduit.Text.Decimal
import FileConduit.Time
import FileConduit.Wire.InfoDictionary

/-!
# File info

The device describes a file by a dictionary of texts.  `FileInfo.ofDictionary` reads the keys
that the client knows; a number that cannot be read is an error, and of several the first in
the order size, blocks, links, modification time, birth time is reported.
-/

namespace FileConduit

inductive FileKind where
  | regular
  | directory
  | symlink
  | characterDevice
  | blockDevice
  | fifo
  | socket
  /-- A kind that the client does not know, as the device spells it. -/
  | other (spelling : String)
  deriving DecidableEq, Repr, Inhabited

namespace FileKind

def spelling : FileKind → String
  | regular => "S_IFREG"
  | directory => "S_IFDIR"
  | symlink => "S_IFLNK"
  | characterDevice => "S_IFCHR"
  | blockDevice => "S_IFBLK"
  | fifo => "S_IFIFO"
  | socket => "S_IFSOCK"
  | other spelling => spelling

def known : List FileKind :=
  [regular, directory, symlink, characterDevice, blockDevice, fifo, socket]

def ofSpelling (text : String) : FileKind :=
  (known.find? fun kind => kind.spelling == text).getD (other text)

end FileKind

structure FileInfo where
  kind : Option FileKind
  size : Option UInt64
  blocks : Option UInt64
  links : Option UInt64
  modified : Option Timestamp
  born : Option Timestamp
  linkTarget : Option String
  deriving DecidableEq, Repr, Inhabited

namespace FileInfo

def field (info : InfoDictionary) (key : String) (read : List Char → Option α) :
    Except ClientError (Option α) :=
  match info.get? key with
  | none => .ok none
  | some value =>
      match read (Text.trim value.toList) with
      | some number => .ok (some number)
      | none => .error (.invalidInfoValue key value)

/-- Reads nanoseconds since the start of 1970. -/
def timestamp? (text : List Char) : Option Timestamp :=
  (Decimal.signed? text).map .ofNanoseconds

def ofDictionary (info : InfoDictionary) : Except ClientError FileInfo := do
  let size ← field info "st_size" Decimal.word?
  let blocks ← field info "st_blocks" Decimal.word?
  let links ← field info "st_nlink" Decimal.word?
  let modified ← field info "st_mtime" timestamp?
  let born ← field info "st_birthtime" timestamp?
  return {
    kind := (info.get? "st_ifmt").map .ofSpelling
    size, blocks, links, modified, born
    linkTarget := info.get? "LinkTarget" }

def isDirectory (info : FileInfo) : Bool :=
  info.kind == some .directory

def isRegular (info : FileInfo) : Bool :=
  info.kind == some .regular

def isSymlink (info : FileInfo) : Bool :=
  info.kind == some .symlink

end FileInfo

end FileConduit

import FileConduit.Wire.Word

/-!
# Operations

What a frame is for.  The protocol numbers its operations; the numbers that it names have
a constructor each, and any other number is kept as it came, so that no information is lost
when a frame is read and written again.
-/

namespace FileConduit

inductive Operation where
  | invalid
  | status
  | data
  | readDirectory
  | readFile
  | writeFile
  | writePart
  | truncate
  | removePath
  | makeDirectory
  | fileInfo
  | deviceInfo
  | writeFileAtomically
  | fileOpen
  | fileOpenResult
  | fileRead
  | fileWrite
  | fileSeek
  | fileTell
  | fileTellResult
  | fileClose
  | fileSetSize
  | connectionInfo
  | setConnectionOptions
  | renamePath
  | setFileSystemBlockSize
  | setSocketBlockSize
  | fileLock
  | makeLink
  | setFileTime
  /-- A number that the protocol does not name. -/
  | other (number : UInt64)
  deriving DecidableEq, Repr, Inhabited

namespace Operation

def number : Operation → UInt64
  | invalid => 0x00
  | status => 0x01
  | data => 0x02
  | readDirectory => 0x03
  | readFile => 0x04
  | writeFile => 0x05
  | writePart => 0x06
  | truncate => 0x07
  | removePath => 0x08
  | makeDirectory => 0x09
  | fileInfo => 0x0a
  | deviceInfo => 0x0b
  | writeFileAtomically => 0x0c
  | fileOpen => 0x0d
  | fileOpenResult => 0x0e
  | fileRead => 0x0f
  | fileWrite => 0x10
  | fileSeek => 0x11
  | fileTell => 0x12
  | fileTellResult => 0x13
  | fileClose => 0x14
  | fileSetSize => 0x15
  | connectionInfo => 0x16
  | setConnectionOptions => 0x17
  | renamePath => 0x18
  | setFileSystemBlockSize => 0x19
  | setSocketBlockSize => 0x1a
  | fileLock => 0x1b
  | makeLink => 0x1c
  | setFileTime => 0x1e
  | other number => number

def ofNumber (number : UInt64) : Operation :=
  match number.toNat with
  | 0x00 => invalid
  | 0x01 => status
  | 0x02 => data
  | 0x03 => readDirectory
  | 0x04 => readFile
  | 0x05 => writeFile
  | 0x06 => writePart
  | 0x07 => truncate
  | 0x08 => removePath
  | 0x09 => makeDirectory
  | 0x0a => fileInfo
  | 0x0b => deviceInfo
  | 0x0c => writeFileAtomically
  | 0x0d => fileOpen
  | 0x0e => fileOpenResult
  | 0x0f => fileRead
  | 0x10 => fileWrite
  | 0x11 => fileSeek
  | 0x12 => fileTell
  | 0x13 => fileTellResult
  | 0x14 => fileClose
  | 0x15 => fileSetSize
  | 0x16 => connectionInfo
  | 0x17 => setConnectionOptions
  | 0x18 => renamePath
  | 0x19 => setFileSystemBlockSize
  | 0x1a => setSocketBlockSize
  | 0x1b => fileLock
  | 0x1c => makeLink
  | 0x1e => setFileTime
  | _ => other number

def name : Operation → String
  | invalid => "Invalid"
  | status => "Status"
  | data => "Data"
  | readDirectory => "ReadDir"
  | readFile => "ReadFile"
  | writeFile => "WriteFile"
  | writePart => "WritePart"
  | truncate => "Truncate"
  | removePath => "RemovePath"
  | makeDirectory => "MakeDir"
  | fileInfo => "GetFileInfo"
  | deviceInfo => "GetDeviceInfo"
  | writeFileAtomically => "WriteFileAtom"
  | fileOpen => "FileOpen"
  | fileOpenResult => "FileOpenResult"
  | fileRead => "FileRead"
  | fileWrite => "FileWrite"
  | fileSeek => "FileSeek"
  | fileTell => "FileTell"
  | fileTellResult => "FileTellResult"
  | fileClose => "FileClose"
  | fileSetSize => "FileSetSize"
  | connectionInfo => "GetConInfo"
  | setConnectionOptions => "SetConOptions"
  | renamePath => "RenamePath"
  | setFileSystemBlockSize => "SetFsBlockSize"
  | setSocketBlockSize => "SetSocketBlockSize"
  | fileLock => "FileLock"
  | makeLink => "MakeLink"
  | setFileTime => "SetFileTime"
  | other number => s!"Other({number})"

/-- The operations that the protocol names, in the order of their numbers. -/
def named : List Operation :=
  [invalid, status, data, readDirectory, readFile, writeFile, writePart, truncate, removePath,
    makeDirectory, fileInfo, deviceInfo, writeFileAtomically, fileOpen, fileOpenResult, fileRead,
    fileWrite, fileSeek, fileTell, fileTellResult, fileClose, fileSetSize, connectionInfo,
    setConnectionOptions, renamePath, setFileSystemBlockSize, setSocketBlockSize, fileLock,
    makeLink, setFileTime]

def ofName? (text : String) : Option Operation :=
  named.find? fun operation => operation.name == text

/-- Reading a number and writing it again changes nothing. -/
@[simp] theorem number_ofNumber (number : UInt64) : (ofNumber number).number = number := by
  unfold ofNumber
  split <;> simp only [Operation.number]
  all_goals
    rename_i hvalue
    rw [← UInt64.toNat_inj, hvalue]
    rfl

end Operation

end FileConduit

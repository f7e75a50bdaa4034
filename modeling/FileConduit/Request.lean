import FileConduit.Access
import FileConduit.Wire.Frame
import FileConduit.Wire.StringList

/-!
# Requests

What the client asks of the device.  The payload of a request is made of little-endian words
and terminated strings; its length is also computed without building it, since the header
that goes first states it.
-/

namespace FileConduit

structure WriteChunk where
  handle : Handle
  data : Bytes
  /-- Length of all frames of the logical write together. -/
  entireLength : UInt64
  deriving DecidableEq, Repr, Inhabited

inductive Request where
  | openFile (path : String) (mode : OpenMode)
  | close (handle : Handle)
  | read (handle : Handle) (size : UInt64)
  | write (chunk : WriteChunk)
  | lock (handle : Handle) (mode : LockMode)
  | seek (handle : Handle) (parameters : SeekParameters)
  | tell (handle : Handle)
  | resize (handle : Handle) (size : UInt64)
  | remove (path : String)
  | fileInfo (path : String)
  | readDirectory (path : String)
  | makeDirectory (path : String)
  | rename (source destination : String)
  | makeLink (kind : LinkKind) (target link : String)
  | deviceInfo
  deriving DecidableEq, Repr, Inhabited

namespace Request

def operation : Request → Operation
  | openFile .. => .fileOpen
  | close .. => .fileClose
  | read .. => .fileRead
  | write .. => .fileWrite
  | lock .. => .fileLock
  | seek .. => .fileSeek
  | tell .. => .fileTell
  | resize .. => .fileSetSize
  | remove .. => .removePath
  | fileInfo .. => .fileInfo
  | readDirectory .. => .readDirectory
  | makeDirectory .. => .makeDirectory
  | rename .. => .renamePath
  | makeLink .. => .makeLink
  | deviceInfo => .deviceInfo

def payload : Request → Bytes
  | openFile path mode => Word.littleEndian mode.number ++ StringList.terminated path
  | close handle | tell handle => Word.littleEndian handle.number
  | read handle size | resize handle size =>
      Word.littleEndian handle.number ++ Word.littleEndian size
  | write chunk => Word.littleEndian chunk.handle.number ++ chunk.data
  | lock handle mode => Word.littleEndian handle.number ++ Word.littleEndian mode.number
  | seek handle parameters =>
      Word.littleEndian handle.number ++ Word.littleEndian parameters.whence ++
        Word.littleEndian parameters.offset.toUInt64
  | remove path | fileInfo path | readDirectory path | makeDirectory path =>
      StringList.terminated path
  | rename source destination =>
      StringList.terminated source ++ StringList.terminated destination
  | makeLink kind target link =>
      Word.littleEndian kind.number ++ StringList.terminated target ++ StringList.terminated link
  | deviceInfo => []

def payloadLength : Request → Nat
  | openFile path _ => Word.size + StringList.terminatedLength path
  | close _ | tell _ => Word.size
  | read .. | lock .. | resize .. => 2 * Word.size
  | seek .. => 3 * Word.size
  | write chunk => Word.size + chunk.data.length
  | remove path | fileInfo path | readDirectory path | makeDirectory path =>
      StringList.terminatedLength path
  | rename source destination =>
      StringList.terminatedLength source + StringList.terminatedLength destination
  | makeLink _ target link =>
      Word.size + StringList.terminatedLength target + StringList.terminatedLength link
  | deviceInfo => 0

def frameLength (request : Request) : Nat :=
  Header.size + request.payloadLength

/-- The header of a request.  Only a chunk of a write is part of a longer packet. -/
def header (request : Request) (packetNumber : UInt64) : Header :=
  let single :=
    Header.single (UInt64.ofNat request.payloadLength) packetNumber request.operation
  match request with
  | write chunk => { single with entireLength := chunk.entireLength }
  | _ => single

def frame (request : Request) (packetNumber : UInt64) : Frame where
  header := request.header packetNumber
  payload := request.payload

/-- The frames of a run of requests, numbered from the given packet number. -/
def frames (packetNumber : UInt64) : List Request → List Frame
  | [] => []
  | request :: requests => request.frame packetNumber :: frames (packetNumber + 1) requests

end Request

end FileConduit

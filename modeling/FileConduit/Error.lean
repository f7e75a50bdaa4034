import FileConduit.Host.Path
import FileConduit.Status
import FileConduit.Text.Quoted
import FileConduit.Wire.Header

/-!
# Failures

Every way in which an operation of the client can fail, by cause, with the wording of each in
one place.  Failures of one stage have a type of their own: `FramingError` for the byte
stream, `ReplyError` for a frame whose contents do not answer its request, `ChannelFault` for
the channel and `HostFault` for the host's file system.
-/

namespace FileConduit

inductive FaultKind where
  | notFound
  | permissionDenied
  | connectionRefused
  | connectionReset
  | connectionAborted
  | notConnected
  | brokenPipe
  | alreadyExists
  | wouldBlock
  | notADirectory
  | isADirectory
  | fileSystemLoop
  | invalidInput
  | invalidData
  | timedOut
  | writeZero
  | invalidFileName
  | interrupted
  | unexpectedEnd
  | other
  deriving DecidableEq, Repr, Inhabited

namespace FaultKind

def name : FaultKind → String
  | notFound => "NotFound"
  | permissionDenied => "PermissionDenied"
  | connectionRefused => "ConnectionRefused"
  | connectionReset => "ConnectionReset"
  | connectionAborted => "ConnectionAborted"
  | notConnected => "NotConnected"
  | brokenPipe => "BrokenPipe"
  | alreadyExists => "AlreadyExists"
  | wouldBlock => "WouldBlock"
  | notADirectory => "NotADirectory"
  | isADirectory => "IsADirectory"
  | fileSystemLoop => "FilesystemLoop"
  | invalidInput => "InvalidInput"
  | invalidData => "InvalidData"
  | timedOut => "TimedOut"
  | writeZero => "WriteZero"
  | invalidFileName => "InvalidFilename"
  | interrupted => "Interrupted"
  | unexpectedEnd => "UnexpectedEof"
  | other => "Other"

def all : List FaultKind :=
  [notFound, permissionDenied, connectionRefused, connectionReset, connectionAborted,
    notConnected, brokenPipe, alreadyExists, wouldBlock, notADirectory, isADirectory,
    fileSystemLoop, invalidInput, invalidData, timedOut, writeZero, invalidFileName, interrupted,
    unexpectedEnd, other]

def ofName? (text : String) : Option FaultKind :=
  all.find? fun kind => kind.name == text

end FaultKind

structure ChannelFault where
  kind : FaultKind
  text : String
  deriving DecidableEq, Repr, Inhabited

namespace ChannelFault

def endInsideFrame : ChannelFault :=
  ⟨.other, "bytes remaining on stream"⟩

def nothingWritten : ChannelFault :=
  ⟨.writeZero, "failed to write frame to transport"⟩

end ChannelFault

inductive HostFault where
  | notFound
  | alreadyExists
  | isADirectory
  | notADirectory
  | linkLoop
  | nameTooLong
  deriving DecidableEq, Repr, Inhabited

namespace HostFault

def kind : HostFault → FaultKind
  | notFound => .notFound
  | alreadyExists => .alreadyExists
  | isADirectory => .isADirectory
  | notADirectory => .notADirectory
  | linkLoop => .fileSystemLoop
  | nameTooLong => .invalidFileName

end HostFault

inductive ReplyError where
  | unexpectedOperation (expected received : Operation)
  /-- A payload of the wrong length, or longer than was asked for. -/
  | payloadSize (operation : Operation) (size : Nat)
  /-- An info dictionary with a key that has no value. -/
  | unbalancedInfo (entries : Nat)
  | invalidUtf8
  /-- The device refused the request. -/
  | status (code : StatusCode)
  deriving DecidableEq, Repr, Inhabited

inductive ClientError where
  | channel (fault : ChannelFault)
  | host (fault : HostFault)
  | framing (error : FramingError)
  | reply (error : ReplyError)
  /-- A field of a file's info that is not the number it should be. -/
  | invalidInfoValue (key value : String)
  /-- A refusal by the client itself. -/
  | refused (code : StatusCode) (explanation : String)
  | fileNotFound (path : String)
  | endOfStream (expected received : Nat)
  | removeFailed (paths : List String)
  | cancelled
  | timeout
  | connectionClosed
  /-- An earlier round trip broke off, so replies no longer match requests. -/
  | desynchronized
  | settings (explanation : String)
  /-- A host path that ends in no name to give the copy. -/
  | unnamed (path : HostPath)
  deriving DecidableEq, Repr, Inhabited

def FramingError.message : FramingError → String
  | badMagic => "Mismatch in magic bytes for AFC header"
  | truncatedHeader length =>
      s!"Expected more bytes in AFC header than received (length {length})"
  | oversizedFrame length => s!"Packet too large: {length} bytes"

def ReplyError.message : ReplyError → String
  | unexpectedOperation expected received =>
      s!"Unexpected operation in reply: expected {expected.name}, received {received.name}"
  | payloadSize operation size =>
      s!"Unexpected payload size for {operation.name}: {size} bytes"
  | unbalancedInfo entries =>
      s!"Received data not balanced, unable to parse to dictionary ({entries} entries)"
  | invalidUtf8 => "Invalid UTF-8 in reply payload"
  | status code => s!"AFC status error: {code.name}"

namespace ClientError

/-- The wording of a failure.  A fault of the host names only its kind, since the rest of its
text is the host's. -/
def message : ClientError → String
  | channel fault => "I/O error: " ++ fault.text
  | host fault => "I/O error: " ++ fault.kind.name
  | framing error => error.message
  | reply error => error.message
  | invalidInfoValue key value => "Invalid value for " ++ key ++ ": " ++ Text.quote value
  | refused code explanation => s!"AFC error {code.name}: " ++ explanation
  | fileNotFound path => "File not found: " ++ path
  | endOfStream expected received =>
      s!"Unexpected end of stream: expected {expected} bytes, received {received}"
  | removeFailed paths => "Failed to delete paths: " ++ String.intercalate ", " paths
  | cancelled => "Operation cancelled"
  | timeout => "Timed out waiting for reply"
  | connectionClosed => "Connection closed"
  | desynchronized =>
      "Connection abandoned mid round trip; responses can no longer be correlated"
  | settings explanation => "Configuration error: " ++ explanation
  | unnamed path => "Configuration error: " ++ path.display ++ " has no file name"

def code? : ClientError → Option StatusCode
  | reply (.status code) => some code
  | reply (.unexpectedOperation _ _) => some .operationHeaderInvalid
  | reply (.payloadSize _ _) => some .operationHeaderInvalid
  | refused code _ => some code
  | fileNotFound _ => some .objectNotFound
  | _ => none

def isNotFound (error : ClientError) : Bool :=
  error.code? == some .objectNotFound

/-- Whether a failure breaks a round trip off, so that later replies can no longer be told
apart. -/
def breaksOff : ClientError → Bool
  | channel _ | framing _ | connectionClosed | timeout => true
  | _ => false

end ClientError

end FileConduit

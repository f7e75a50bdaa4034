/-!
# Status codes

How the device reports the outcome of a request.  Codes that the protocol names have a
constructor each; any other code keeps its number.  One code, `openFailed`, is raised by the
client alone and never travels.
-/

namespace FileConduit

inductive StatusCode where
  | success
  | unknown
  | operationHeaderInvalid
  | noResources
  | readError
  | writeError
  | unknownPacketType
  | invalidArgument
  | objectNotFound
  | objectIsDirectory
  | permissionDenied
  | serviceNotConnected
  | operationTimeout
  | tooMuchData
  | endOfData
  | operationNotSupported
  | objectExists
  | objectBusy
  | noSpaceLeft
  | operationWouldBlock
  | inputOutput
  | operationInterrupted
  | operationInProgress
  | internal
  | multiplexer
  | noMemory
  | notEnoughData
  | directoryNotEmpty
  | signedTypeUnsupported
  /-- The device handed out no usable handle. -/
  | openFailed
  /-- A number that the protocol does not name. -/
  | unrecognized (number : UInt64)
  deriving DecidableEq, Repr, Inhabited

namespace StatusCode

def ofNumber (number : UInt64) : StatusCode :=
  match number.toNat with
  | 0 => success
  | 1 => unknown
  | 2 => operationHeaderInvalid
  | 3 => noResources
  | 4 => readError
  | 5 => writeError
  | 6 => unknownPacketType
  | 7 => invalidArgument
  | 8 => objectNotFound
  | 9 => objectIsDirectory
  | 10 => permissionDenied
  | 11 => serviceNotConnected
  | 12 => operationTimeout
  | 13 => tooMuchData
  | 14 => endOfData
  | 15 => operationNotSupported
  | 16 => objectExists
  | 17 => objectBusy
  | 18 => noSpaceLeft
  | 19 => operationWouldBlock
  | 20 => inputOutput
  | 21 => operationInterrupted
  | 22 => operationInProgress
  | 23 => internal
  | 30 => multiplexer
  | 31 => noMemory
  | 32 => notEnoughData
  | 33 => directoryNotEmpty
  | 0xffffffffffffffff => signedTypeUnsupported
  | _ => unrecognized number

/-- The number that stands for a code on the wire, if it travels at all. -/
def number? : StatusCode → Option UInt64
  | success => some 0
  | unknown => some 1
  | operationHeaderInvalid => some 2
  | noResources => some 3
  | readError => some 4
  | writeError => some 5
  | unknownPacketType => some 6
  | invalidArgument => some 7
  | objectNotFound => some 8
  | objectIsDirectory => some 9
  | permissionDenied => some 10
  | serviceNotConnected => some 11
  | operationTimeout => some 12
  | tooMuchData => some 13
  | endOfData => some 14
  | operationNotSupported => some 15
  | objectExists => some 16
  | objectBusy => some 17
  | noSpaceLeft => some 18
  | operationWouldBlock => some 19
  | inputOutput => some 20
  | operationInterrupted => some 21
  | operationInProgress => some 22
  | internal => some 23
  | multiplexer => some 30
  | noMemory => some 31
  | notEnoughData => some 32
  | directoryNotEmpty => some 33
  | signedTypeUnsupported => some 0xffffffffffffffff
  | openFailed => none
  | unrecognized number => some number

def name : StatusCode → String
  | success => "Success"
  | unknown => "UnknownError"
  | operationHeaderInvalid => "OperationHeaderInvalid"
  | noResources => "NoResources"
  | readError => "ReadError"
  | writeError => "WriteError"
  | unknownPacketType => "UnknownPacketType"
  | invalidArgument => "InvalidArg"
  | objectNotFound => "ObjectNotFound"
  | objectIsDirectory => "ObjectIsDirectory"
  | permissionDenied => "PermissionDenied"
  | serviceNotConnected => "ServiceNotConnected"
  | operationTimeout => "OperationTimeout"
  | tooMuchData => "TooMuchData"
  | endOfData => "EndOfData"
  | operationNotSupported => "OperationNotSupported"
  | objectExists => "ObjectExists"
  | objectBusy => "ObjectBusy"
  | noSpaceLeft => "NoSpaceLeft"
  | operationWouldBlock => "OperationWouldBlock"
  | inputOutput => "IoError"
  | operationInterrupted => "OperationInterrupted"
  | operationInProgress => "OperationInProgress"
  | internal => "InternalError"
  | multiplexer => "MuxError"
  | noMemory => "NoMemory"
  | notEnoughData => "NotEnoughData"
  | directoryNotEmpty => "DirNotEmpty"
  | signedTypeUnsupported => "ForceSignedTypeUnsupported"
  | openFailed => "OpenFailed"
  | unrecognized number => s!"Unrecognized({number})"

def named : List StatusCode :=
  [success, unknown, operationHeaderInvalid, noResources, readError, writeError,
    unknownPacketType, invalidArgument, objectNotFound, objectIsDirectory, permissionDenied,
    serviceNotConnected, operationTimeout, tooMuchData, endOfData, operationNotSupported,
    objectExists, objectBusy, noSpaceLeft, operationWouldBlock, inputOutput,
    operationInterrupted, operationInProgress, internal, multiplexer, noMemory, notEnoughData,
    directoryNotEmpty, signedTypeUnsupported, openFailed]

def ofName? (text : String) : Option StatusCode :=
  named.find? fun code => code.name == text

def isSuccess (code : StatusCode) : Bool :=
  code == success

/-- Reading a number and writing it again changes nothing. -/
@[simp] theorem number?_ofNumber (number : UInt64) : (ofNumber number).number? = some number := by
  unfold ofNumber
  split <;> simp only [StatusCode.number?, Option.some.injEq]
  all_goals
    rename_i hvalue
    rw [← UInt64.toNat_inj, hvalue]
    rfl

end StatusCode

end FileConduit

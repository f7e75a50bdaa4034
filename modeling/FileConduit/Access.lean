import FileConduit.Error

/-!
# Ways to reach a file

Handles of open files, the modes in which a file is opened or locked, the kinds of link, and
the origins of a seek, each with its number on the wire.
-/

namespace FileConduit

/-- An open file, by the number that the device gave it. -/
structure Handle where
  number : UInt64
  deriving DecidableEq, Repr, Inhabited

namespace Handle

/-- The handle that stands for no file. -/
def isNull (handle : Handle) : Bool :=
  handle.number == 0

def display (handle : Handle) : String :=
  s!"#{handle.number}"

end Handle

inductive OpenMode where
  | readOnly
  | readWrite
  | writeOnly
  | writeRead
  | append
  | readAppend
  deriving DecidableEq, Repr, Inhabited

def OpenMode.number : OpenMode → UInt64
  | readOnly => 1
  | readWrite => 2
  | writeOnly => 3
  | writeRead => 4
  | append => 5
  | readAppend => 6

inductive LockMode where
  | shared
  | exclusive
  | unlock
  deriving DecidableEq, Repr, Inhabited

namespace LockMode

/-- The flag that makes a lock fail instead of waiting. -/
def nonBlocking : UInt64 := 4

def number : LockMode → UInt64
  | shared => 1 ||| nonBlocking
  | exclusive => 2 ||| nonBlocking
  | unlock => 8 ||| nonBlocking

end LockMode

inductive LinkKind where
  | hard
  | symbolic
  deriving DecidableEq, Repr, Inhabited

def LinkKind.number : LinkKind → UInt64
  | hard => 1
  | symbolic => 2

inductive ByteOrder where
  | little
  | big
  deriving DecidableEq, Repr, Inhabited

inductive SeekTarget where
  | fromStart (offset : UInt64)
  | fromCurrent (offset : Int64)
  | fromEnd (offset : Int64)
  deriving DecidableEq, Repr, Inhabited

structure SeekParameters where
  whence : UInt64
  offset : Int64
  deriving DecidableEq, Repr, Inhabited

namespace SeekTarget

/-- The wire form of a seek.  Offsets travel signed, so one from the start may be too large. -/
def parameters : SeekTarget → Except ClientError SeekParameters
  | fromStart offset =>
      if offset.toNat < UInt64.size / 2 then .ok ⟨0, offset.toInt64⟩
      else .error (.refused .invalidArgument s!"seek offset {offset} too large")
  | fromCurrent offset => .ok ⟨1, offset⟩
  | fromEnd offset => .ok ⟨2, offset⟩

end SeekTarget

end FileConduit

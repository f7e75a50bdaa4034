import FileConduit.Wire.Operation

/-!
# Frame headers

A frame opens with forty bytes: the magic, then four little-endian words.  Reading checks, in
this order, that forty bytes are there, that they open with the magic, and that the frame's
own length covers at least its header.
-/

namespace FileConduit

inductive FramingError where
  | badMagic
  /-- Fewer bytes than a header has, either present or claimed. -/
  | truncatedHeader (length : UInt64)
  /-- A frame longer than the receiver admits. -/
  | oversizedFrame (length : UInt64)
  deriving DecidableEq, Repr, Inhabited

structure Header where
  /-- Length of the logical packet that the frame belongs to. -/
  entireLength : UInt64
  /-- Length of this frame, header included. -/
  thisLength : UInt64
  packetNumber : UInt64
  operation : Operation
  deriving DecidableEq, Repr, Inhabited

namespace Header

def size : Nat := 40

def magic : Bytes :=
  Word.bigEndian 0x434641364C504141

/-- The header of a packet made of one frame with a payload of the given length. -/
def single (payloadLength packetNumber : UInt64) (operation : Operation) : Header where
  entireLength := UInt64.ofNat size + payloadLength
  thisLength := UInt64.ofNat size + payloadLength
  packetNumber := packetNumber
  operation := operation

def payloadLength (header : Header) : Nat :=
  header.thisLength.toNat - size

def encode (header : Header) : Bytes :=
  magic ++ Word.littleEndian header.entireLength ++ Word.littleEndian header.thisLength ++
    Word.littleEndian header.packetNumber ++ Word.littleEndian header.operation.number

def field (bytes : Bytes) (offset : Nat) : UInt64 :=
  Word.ofLittleEndian ((bytes.drop offset).take Word.size)

def decode (bytes : Bytes) : Except FramingError Header :=
  if bytes.length < size then
    .error (.truncatedHeader (UInt64.ofNat bytes.length))
  else if bytes.take Word.size ≠ magic then
    .error .badMagic
  else if (field bytes 16).toNat < size then
    .error (.truncatedHeader (field bytes 16))
  else
    .ok {
      entireLength := field bytes 8
      thisLength := field bytes 16
      packetNumber := field bytes 24
      operation := .ofNumber (field bytes 32) }

@[simp] theorem length_encode (header : Header) : header.encode.length = size := by
  simp [encode, magic, size]

end Header

end FileConduit

import FileConduit.Request

/-!
# Chunked writes

A logical write travels as frames that hold at most a given number of data bytes each.  Every
frame states the length of all of them together.
-/

namespace FileConduit.WriteChunk

/-- Cuts data into pieces of the given size; the last piece may be shorter. -/
def split (size : Nat) (data : Bytes) : List Bytes :=
  if _h : size = 0 ∨ data.length = 0 then []
  else data.take size :: split size (data.drop size)
termination_by data.length
decreasing_by
  simp only [List.length_drop]
  omega

def count (size length : Nat) : Nat :=
  (length + size - 1) / size

def entireLengthOf (size length : Nat) : Nat :=
  (Header.size + Word.size) * count size length + length

/-- The chunks of a logical write, in order.  A chunk holds at least one byte. -/
def ofData (handle : Handle) (size : Nat) (data : Bytes) :
    Except ClientError (List WriteChunk) :=
  if size = 0 then
    .error (.refused .invalidArgument "write chunk size must be greater than zero")
  else
    .ok ((split size data).map fun piece =>
      ⟨handle, piece, UInt64.ofNat (entireLengthOf size data.length)⟩)

end FileConduit.WriteChunk

import FileConduit.Wire.Header

/-!
# Frames

A frame is a header and a payload.  `Frame.next` takes one frame off the front of the bytes
received so far, or says that more bytes are needed, or why no frame can follow; a refusal
takes no bytes.  `Frame.drain` repeats it until it stops.
-/

namespace FileConduit

structure Frame where
  header : Header
  payload : Bytes
  deriving DecidableEq, Repr, Inhabited

namespace Frame

def operation (frame : Frame) : Operation :=
  frame.header.operation

def length (frame : Frame) : UInt64 :=
  frame.header.thisLength

def encode (frame : Frame) : Bytes :=
  frame.header.encode ++ frame.payload

/-- A frame that is a packet of its own. -/
def single (operation : Operation) (payload : Bytes) (packetNumber : UInt64) : Frame where
  header := .single (UInt64.ofNat payload.length) packetNumber operation
  payload := payload

inductive Next where
  /-- No complete frame yet. -/
  | wait
  /-- A frame and the bytes behind it. -/
  | frame (frame : Frame) (rest : Bytes)
  /-- No frame can follow. -/
  | refused (error : FramingError)
  deriving Repr

/-- Takes a frame of at most `limit` bytes off the front of a buffer.  Room for what has not come
yet is not a matter of the model: buffers grow as needed, and a limit beyond `Bytes.maxLength` is
one that no buffer reaches. -/
def next (limit : UInt64) (buffer : Bytes) : Next :=
  if buffer.length < Header.size then .wait
  else
    match Header.decode (buffer.take Header.size) with
    | .error error => .refused error
    | .ok header =>
        if limit < header.thisLength then .refused (.oversizedFrame header.thisLength)
        else if buffer.length < header.thisLength.toNat then .wait
        else
          let taken := buffer.take header.thisLength.toNat
          .frame ⟨header, taken.drop Header.size⟩ (buffer.drop header.thisLength.toNat)

/-- A header that was read states a length of at least its own. -/
theorem size_le_of_decode {bytes : Bytes} {header : Header}
    (hdecode : Header.decode bytes = .ok header) : Header.size ≤ header.thisLength.toNat := by
  unfold Header.decode at hdecode
  split at hdecode
  · contradiction
  · split at hdecode
    · contradiction
    · split at hdecode
      · contradiction
      · cases hdecode
        simpa using ‹¬ _ < Header.size›

/-- Taking a frame leaves fewer bytes. -/
theorem length_rest_lt {limit : UInt64} {buffer rest : Bytes} {frame : Frame}
    (hnext : next limit buffer = .frame frame rest) : rest.length < buffer.length := by
  unfold next at hnext
  split at hnext
  · contradiction
  · split at hnext
    · contradiction
    · rename_i hsize _ header hdecode
      have hheader := size_le_of_decode hdecode
      split at hnext
      · contradiction
      · split at hnext
        · contradiction
        · cases hnext
          simp only [List.length_drop, Header.size] at *
          omega

structure Drained where
  frames : List Frame
  error : Option FramingError
  /-- Bytes not taken. -/
  rest : Bytes
  deriving Repr

/-- Takes frames off a buffer until none is complete or none can follow. -/
def drain (limit : UInt64) (buffer : Bytes) : Drained :=
  match _hnext : next limit buffer with
  | .wait => ⟨[], none, buffer⟩
  | .refused error => ⟨[], some error, buffer⟩
  | .frame frame rest =>
      let drained := drain limit rest
      { drained with frames := frame :: drained.frames }
termination_by buffer.length
decreasing_by exact length_rest_lt _hnext

/-- Drains a buffer after each of the pieces that are added to it. -/
def drainPieces (limit : UInt64) (buffer : Bytes) : List Bytes → List Drained
  | [] => []
  | piece :: pieces =>
      let drained := drain limit (buffer ++ piece)
      drained :: drainPieces limit drained.rest pieces

end Frame

end FileConduit

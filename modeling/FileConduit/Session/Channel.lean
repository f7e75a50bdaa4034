import FileConduit.Error
import FileConduit.Settings
import FileConduit.Wire.Frame

/-!
# The receiving side of a channel

What comes from the device is a sequence of arrivals: bytes, pauses, faults, and the end of the
stream.  Time passes only while the receiver waits; a pause begins when the receiver reaches
it.  `Inbox.receive` waits for one frame, until it is complete, until something breaks, or until
the time for it has run out.
-/

namespace FileConduit

inductive Arrival where
  | bytes (data : Bytes)
  /-- Nothing comes for so long. -/
  | pause (span : Duration)
  /-- Reading fails once. -/
  | fault (fault : ChannelFault)
  /-- The end of the stream. -/
  | closed
  deriving DecidableEq, Repr, Inhabited

/-- A point of virtual time, in microseconds from the start of a session. -/
abbrev Moment := Nat

/-- What has come and what will come, and what the time is. -/
structure Inbox where
  /-- Bytes read but not yet cut into frames. -/
  buffer : Bytes := []
  /-- What will be read, in order. -/
  arrivals : List Arrival := []
  clock : Moment := 0
  deriving DecidableEq, Repr, Inhabited

inductive Receipt where
  | frame (frame : Frame)
  /-- The stream cannot be cut into frames any further. -/
  | malformed (error : FramingError)
  /-- Reading failed. -/
  | faulted (fault : ChannelFault)
  /-- The stream ended between frames. -/
  | closed
  /-- No frame came before the deadline. -/
  | late
  /-- The caller gave up before. -/
  | abandoned
  deriving Repr

/-- How long a receiver waits.  The caller may give up before the deadline; if both fall
together, the deadline counts. -/
structure Patience where
  deadline : Moment
  givesUp : Option Moment
  deriving DecidableEq, Repr

namespace Patience

def lasts (patience : Patience) (moment : Moment) : Bool :=
  moment ≤ patience.deadline &&
    match patience.givesUp with
    | none => true
    | some limit => moment ≤ limit

def silence (patience : Patience) : Receipt × Moment :=
  match patience.givesUp with
  | none => (.late, patience.deadline)
  | some limit =>
      if patience.deadline ≤ limit then (.late, patience.deadline) else (.abandoned, limit)

end Patience

namespace Inbox

def queue (inbox : Inbox) (arrivals : List Arrival) : Inbox :=
  { inbox with arrivals := inbox.arrivals ++ arrivals }

/-- Waits for a frame.  Bytes are read only while no frame is complete. -/
def receiveFrom (limit : UInt64) (patience : Patience) (buffer : Bytes) (clock : Moment)
    (arrivals : List Arrival) : Receipt × Inbox :=
  match Frame.next limit buffer with
  | .frame frame rest => (.frame frame, ⟨rest, arrivals, clock⟩)
  | .refused error => (.malformed error, ⟨buffer, arrivals, clock⟩)
  | .wait =>
      match arrivals with
      | [] => (patience.silence.1, ⟨buffer, [], patience.silence.2⟩)
      | .bytes data :: later => receiveFrom limit patience (buffer ++ data) clock later
      | .pause span :: later =>
          if patience.lasts (clock + span.microseconds) then
            receiveFrom limit patience buffer (clock + span.microseconds) later
          else (patience.silence.1, ⟨buffer, .pause span :: later, patience.silence.2⟩)
      | .fault fault :: later => (.faulted fault, ⟨buffer, later, clock⟩)
      | .closed :: later =>
          (if buffer.isEmpty then .closed else .faulted .endInsideFrame,
            ⟨buffer, .closed :: later, clock⟩)
termination_by structural arrivals

def receive (limit : UInt64) (patience : Patience) (inbox : Inbox) : Receipt × Inbox :=
  receiveFrom limit patience inbox.buffer inbox.clock inbox.arrivals

end Inbox

end FileConduit

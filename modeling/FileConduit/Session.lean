import FileConduit.Metrics
import FileConduit.Program
import FileConduit.Session.Device

/-!
# Sessions

A session runs programs against a device, one round trip at a time.  Replies carry no sign of
the request that they answer, so a round trip that breaks off leaves the session
desynchronized, and from then on every request fails without being sent.  While a request is
under way the session counts as desynchronized already, so that giving up leaves it so.
-/

namespace FileConduit

inductive Traffic where
  | sent (frame : Frame)
  | received (frame : Frame)
  deriving DecidableEq, Repr

/-- The state of a client between two round trips. -/
structure Session (σ : Type) where
  config : ClientConfig
  device : σ
  host : HostTree
  inbox : Inbox := {}
  /-- Number of the next frame to be sent. -/
  packetNumber : UInt64 := 0
  desynchronized : Bool := false
  cancelled : Bool := false
  metrics : Metrics := .zero
  /-- When the caller gives up, if at all. -/
  givesUp : Option Moment := none
  /-- The frames that have crossed the channel, in order. -/
  traffic : List Traffic := []

namespace Session

variable {σ : Type}

def count (session : Session σ) (event : Metrics.Event) : Session σ :=
  { session with metrics := session.metrics.count event }

def observe (session : Session σ) (answer : Except ReplyError α) : Session σ :=
  match answer with
  | .ok _ => session
  | .error (.status _) => session.count .statusError
  | .error _ => session.count .protocolError

/-- Marks the start of a round trip and numbers its frame. -/
def opened (session : Session σ) : Session σ :=
  { session with
    desynchronized := true
    packetNumber := session.packetNumber + 1 }

def sent (session : Session σ) (frame : Frame) (cancels : Bool) (arrivals : List Arrival) :
    Session σ :=
  { session with
    inbox := session.inbox.queue arrivals
    cancelled := session.cancelled || cancels
    metrics := session.metrics.count (.frameSent frame.length)
    traffic := session.traffic ++ [.sent frame] }

def received (session : Session σ) (frame : Frame) : Session σ :=
  { session with
    desynchronized := false
    metrics := session.metrics.count (.frameReceived frame.length)
    traffic := session.traffic ++ [.received frame] }

def patience (session : Session σ) : Patience where
  deadline := session.inbox.clock + session.config.responseTimeout.microseconds
  givesUp := session.givesUp

/-- Waits for the reply to a request that has gone out.  Gives none if the caller gives up. -/
def awaitReply (session : Session σ) : Option (Except ClientError Frame) × Session σ :=
  let (receipt, inbox) := session.inbox.receive session.config.maxFrameLength session.patience
  let session := { session with inbox }
  match receipt with
  | .frame frame => (some (.ok frame), session.received frame)
  | .malformed error => (some (.error (.framing error)), session.count .protocolError)
  | .faulted fault => (some (.error (.channel fault)), session.count .protocolError)
  | .closed => (some (.error .connectionClosed), session)
  | .late => (some (.error .timeout), session.count .roundTripAbandoned)
  | .abandoned => (none, session)

def exchange (device : Device σ) (request : Request) (session : Session σ) :
    Option (Except ClientError Frame) × Session σ :=
  if session.desynchronized then (some (.error .desynchronized), session)
  else
    let frame := request.frame session.packetNumber
    let (reaction, state) := device.react session.device request
    let session := { session.opened with device := state }
    match reaction with
    | .refused fault => (some (.error (.channel fault)), session)
    | .taken cancels arrivals => (session.sent frame cancels arrivals).awaitReply

def call (device : Device σ) (request : Request) (session : Session σ) :
    Option (Except ClientError request.Answer) × Session σ :=
  if session.cancelled then (some (.error .cancelled), session)
  else
    match session.exchange device request with
    | (none, session) => (none, session)
    | (some (.error error), session) => (some (.error error), session)
    | (some (.ok reply), session) =>
        let answer := request.answer session.config.tellByteOrder reply
        match answer with
        | .ok value => (some (.ok value), session)
        | .error error => (some (.error (.reply error)), session.observe answer)

def run (device : Device σ) : Program α → Session σ → Outcome α × Session σ
  | .done result, session => (.finished result, session)
  | .halted cause, session => (.halted cause, session)
  | .checkpoint next, session => run device (next session.cancelled) session
  | .call request next, session =>
      match session.call device request with
      | (none, session) => (.abandoned, session)
      | (some answer, session) => run device (next answer) session
  | .host action next, session =>
      let (answer, host) := session.host.perform action
      run device (next answer) { session with host }

def cancel (session : Session σ) : Session σ :=
  { session with cancelled := true }

/-- Runs a program that the caller gives up after a span of time, if one is given. -/
def runFor (device : Device σ) (span : Option Duration) (program : Program α)
    (session : Session σ) : Outcome α × Session σ :=
  let givesUp := span.map fun span => session.inbox.clock + span.microseconds
  let (outcome, session) := run device program { session with givesUp }
  (outcome, { session with givesUp := none })

def sentFrames (session : Session σ) : List Frame :=
  session.traffic.filterMap fun traffic =>
    match traffic with
    | .sent frame => some frame
    | .received _ => none

end Session

end FileConduit

import FileConduit.Request
import FileConduit.Wire.InfoDictionary

/-!
# Answers

What a reply says to its request.  A reply of the expected operation is read; a status in its
place is the device's refusal, unless it reports success, which is no answer either.  A request
that expects a status alone fails on any but success, except a removal, whose status is a
value for the caller to look at.
-/

namespace FileConduit

namespace Reply

def statusOf (payload : Bytes) : Except ReplyError StatusCode :=
  if payload.length = Word.size then .ok (.ofNumber (Word.ofLittleEndian payload))
  else .error (.payloadSize .status payload.length)

def expect (expected : Operation) (reply : Frame) : Except ReplyError Bytes :=
  if reply.operation = expected then .ok reply.payload
  else if reply.operation = .status then
    match statusOf reply.payload with
    | .error error => .error error
    | .ok code =>
        if code.isSuccess then .error (.unexpectedOperation expected reply.operation)
        else .error (.status code)
  else .error (.unexpectedOperation expected reply.operation)

def word (expected : Operation) (reply : Frame) : Except ReplyError Bytes := do
  let payload ← expect expected reply
  if payload.length = Word.size then .ok payload
  else .error (.payloadSize expected payload.length)

def status (reply : Frame) : Except ReplyError StatusCode := do
  let payload ← expect .status reply
  statusOf payload

def success (reply : Frame) : Except ReplyError Unit := do
  let code ← status reply
  if code.isSuccess then .ok () else .error (.status code)

def handle (reply : Frame) : Except ReplyError Handle := do
  let payload ← word .fileOpenResult reply
  return ⟨Word.ofLittleEndian payload⟩

/-- At most as many bytes of data as were asked for. -/
def data (asked : Nat) (reply : Frame) : Except ReplyError Bytes := do
  let payload ← expect .data reply
  if asked < payload.length then .error (.payloadSize .data payload.length)
  else .ok payload

def position (order : ByteOrder) (reply : Frame) : Except ReplyError UInt64 := do
  let payload ← word .fileTellResult reply
  match order with
  | .little => return Word.ofLittleEndian payload
  | .big => return Word.ofBigEndian payload

def parseStrings (payload : Bytes) : Except ReplyError (List String) :=
  match StringList.decode? payload with
  | some strings => .ok strings
  | none => .error .invalidUtf8

def parseInfo (payload : Bytes) : Except ReplyError InfoDictionary := do
  let strings ← parseStrings payload
  match InfoDictionary.ofStrings? strings with
  | some info => .ok info
  | none => .error (.unbalancedInfo strings.length)

def strings (reply : Frame) : Except ReplyError (List String) := do
  let payload ← expect .data reply
  parseStrings payload

def info (reply : Frame) : Except ReplyError InfoDictionary := do
  let payload ← expect .data reply
  parseInfo payload

end Reply

def Buffer.fill (buffer data : Bytes) : Bytes :=
  data ++ buffer.drop data.length

/-- Puts the data of a reply at the front of a buffer and counts it; a reply that is no answer
leaves the buffer alone. -/
def Reply.fill (buffer : Bytes) (reply : Frame) : Except ReplyError Nat × Bytes :=
  match Reply.data buffer.length reply with
  | .ok data => (.ok data.length, Buffer.fill buffer data)
  | .error error => (.error error, buffer)

namespace Request

@[reducible] def Answer : Request → Type
  | openFile .. => Handle
  | read .. => Bytes
  | tell .. => UInt64
  | remove .. => StatusCode
  | fileInfo .. => InfoDictionary
  | deviceInfo => InfoDictionary
  | readDirectory .. => List String
  | close .. => Unit
  | write .. => Unit
  | lock .. => Unit
  | seek .. => Unit
  | resize .. => Unit
  | makeDirectory .. => Unit
  | rename .. => Unit
  | makeLink .. => Unit

def answer (order : ByteOrder) : (request : Request) → Frame → Except ReplyError request.Answer
  | openFile .., reply => Reply.handle reply
  | read _ size, reply => Reply.data size.toNat reply
  | tell .., reply => Reply.position order reply
  | remove .., reply => Reply.status reply
  | fileInfo .., reply => Reply.info reply
  | deviceInfo, reply => Reply.info reply
  | readDirectory .., reply => Reply.strings reply
  | close .., reply => Reply.success reply
  | write .., reply => Reply.success reply
  | lock .., reply => Reply.success reply
  | seek .., reply => Reply.success reply
  | resize .., reply => Reply.success reply
  | makeDirectory .., reply => Reply.success reply
  | rename .., reply => Reply.success reply
  | makeLink .., reply => Reply.success reply

end Request

end FileConduit

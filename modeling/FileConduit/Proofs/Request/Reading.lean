import FileConduit.Proofs.Request.Frames

/-!
# Requests read back

What the other end of the channel can make of the frames of requests.  A frame tells its request
with all fields, as long as no string of it holds a NUL.
-/

namespace FileConduit

namespace Word

def taken (bytes : Bytes) : UInt64 × Bytes :=
  (ofLittleEndian (bytes.take size), bytes.drop size)

/-- The one of some things that has a number on the wire. -/
def denoted? {α : Type} (number : α → UInt64) (members : List α) (word : UInt64) : Option α :=
  members.find? fun member => number member == word

@[simp] theorem taken_append (word : UInt64) (rest : Bytes) :
    taken (littleEndian word ++ rest) = (word, rest) := by
  have hlength : (littleEndian word).length = size := length_littleEndian word
  rw [taken, List.take_left' hlength, List.drop_left' hlength, ofLittleEndian_littleEndian]

@[simp] theorem taken_littleEndian (word : UInt64) : taken (littleEndian word) = (word, []) := by
  have htaken := taken_append word []
  rwa [List.append_nil] at htaken

end Word

def OpenMode.ofNumber? : UInt64 → Option OpenMode :=
  Word.denoted? number [readOnly, readWrite, writeOnly, writeRead, append, readAppend]

def LockMode.ofNumber? : UInt64 → Option LockMode :=
  Word.denoted? number [shared, exclusive, unlock]

def LinkKind.ofNumber? : UInt64 → Option LinkKind :=
  Word.denoted? number [hard, symbolic]

@[simp] theorem OpenMode.ofNumber?_number (mode : OpenMode) :
    ofNumber? mode.number = some mode := by
  cases mode <;> rfl

@[simp] theorem LockMode.ofNumber?_number (mode : LockMode) :
    ofNumber? mode.number = some mode := by
  cases mode <;> rfl

@[simp] theorem LinkKind.ofNumber?_number (kind : LinkKind) :
    ofNumber? kind.number = some kind := by
  cases kind <;> rfl

namespace StringList

def one? (bytes : Bytes) : Option String :=
  match decode? bytes with
  | some [text] => some text
  | _ => none

def two? (bytes : Bytes) : Option (String × String) :=
  match decode? bytes with
  | some [first, second] => some (first, second)
  | _ => none

theorem one?_terminated {text : String} (htext : '\x00' ∉ text.toList) :
    one? (terminated text) = some text := by
  have hdecode : decode? (encode [text]) = some [text] :=
    decode?_of_encode (by simpa using htext)
  rw [encode, List.flatMap_singleton] at hdecode
  rw [one?, hdecode]

theorem two?_terminated {first second : String} (hfirst : '\x00' ∉ first.toList)
    (hsecond : '\x00' ∉ second.toList) :
    two? (terminated first ++ terminated second) = some (first, second) := by
  have hdecode : decode? (encode [first, second]) = some [first, second] :=
    decode?_of_encode (by simp [hfirst, hsecond])
  rw [encode, List.flatMap_cons, List.flatMap_singleton] at hdecode
  rw [two?, hdecode]

end StringList

def Frame.request? (frame : Frame) : Option Request :=
  let (word, rest) := Word.taken frame.payload
  let (second, more) := Word.taken rest
  match frame.operation with
  | .fileOpen => do
      return .openFile (← StringList.one? rest) (← OpenMode.ofNumber? word)
  | .fileClose => some (.close ⟨word⟩)
  | .fileRead => some (.read ⟨word⟩ second)
  | .fileWrite => some (.write ⟨⟨word⟩, rest, frame.header.entireLength⟩)
  | .fileLock => (LockMode.ofNumber? second).map (.lock ⟨word⟩)
  | .fileSeek => some (.seek ⟨word⟩ ⟨second, (Word.taken more).1.toInt64⟩)
  | .fileTell => some (.tell ⟨word⟩)
  | .fileSetSize => some (.resize ⟨word⟩ second)
  | .removePath => (StringList.one? frame.payload).map .remove
  | .fileInfo => (StringList.one? frame.payload).map .fileInfo
  | .readDirectory => (StringList.one? frame.payload).map .readDirectory
  | .makeDirectory => (StringList.one? frame.payload).map .makeDirectory
  | .renamePath => (StringList.two? frame.payload).map fun (source, destination) =>
      .rename source destination
  | .makeLink => do
      let (target, link) ← StringList.two? rest
      return .makeLink (← LinkKind.ofNumber? word) target link
  | .deviceInfo => some .deviceInfo
  | _ => none

namespace Request

def texts : Request → List String
  | openFile path _ | remove path | fileInfo path | readDirectory path | makeDirectory path =>
      [path]
  | rename first second | makeLink _ first second => [first, second]
  | _ => []

/-- A request is read back from its frame, if no string of it holds a NUL. -/
theorem request?_frame (request : Request) (number : UInt64)
    (htexts : ∀ text ∈ request.texts, '\x00' ∉ text.toList) :
    (request.frame number).request? = some request := by
  cases request with
  | write chunk =>
      simp only [Frame.request?, frame, Frame.operation, operation_header, operation, payload,
        Word.taken_append]
      rfl
  | openFile path mode =>
      have hpath := StringList.one?_terminated (htexts path List.mem_cons_self)
      simp [Frame.request?, frame, Frame.operation, operation, payload, hpath]
  | remove path | fileInfo path | readDirectory path | makeDirectory path =>
      have hpath := StringList.one?_terminated (htexts path List.mem_cons_self)
      simp [Frame.request?, frame, Frame.operation, operation, payload, hpath]
  | rename first second =>
      have hpaths := StringList.two?_terminated (htexts first (by simp [texts]))
        (htexts second (by simp [texts]))
      simp [Frame.request?, frame, Frame.operation, operation, payload, hpaths]
  | makeLink kind first second =>
      have hpaths := StringList.two?_terminated (htexts first (by simp [texts]))
        (htexts second (by simp [texts]))
      simp [Frame.request?, frame, Frame.operation, operation, payload, hpaths]
  | _ => simp [Frame.request?, frame, Frame.operation, operation, payload]

theorem map_request?_frames (requests : List Request) :
    ∀ number : UInt64, (∀ request ∈ requests, ∀ text ∈ request.texts, '\x00' ∉ text.toList) →
      (frames number requests).map Frame.request? = requests.map some := by
  induction requests with
  | nil => exact fun number htexts => rfl
  | cons request requests ih =>
      intro number htexts
      obtain ⟨hfirst, hrest⟩ := List.forall_mem_cons.mp htexts
      rw [frames, List.map_cons, List.map_cons, request?_frame request number hfirst,
        ih (number + 1) hrest]

/-- Frames of requests with the same bytes are the same. -/
theorem frame_eq_of_encode {first second : Request} {number : UInt64}
    (hbytes : (first.frame number).encode = (second.frame number).encode) :
    first.frame number = second.frame number := by
  have hlengths : (first.header number).encode.length = (second.header number).encode.length := by
    rw [Header.length_encode, Header.length_encode]
  obtain ⟨hheaders, hpayloads⟩ := List.append_inj hbytes hlengths
  have hheader : first.header number = second.header number :=
    Header.eq_of_encode (ofNumber_header first number) (ofNumber_header second number) hheaders
  rw [frame, frame, hheader]
  exact congrArg (Frame.mk _) hpayloads

/-- Requests without NULs in their strings are the same if their frames are. -/
theorem eq_of_encode_frame {first second : Request} {number : UInt64}
    (hfirst : ∀ text ∈ first.texts, '\x00' ∉ text.toList)
    (hsecond : ∀ text ∈ second.texts, '\x00' ∉ text.toList)
    (hbytes : (first.frame number).encode = (second.frame number).encode) : first = second := by
  have hread : some first = some second := by
    calc
      some first = (first.frame number).request? := (request?_frame first number hfirst).symm
      _ = (second.frame number).request? := by rw [frame_eq_of_encode hbytes]
      _ = some second := request?_frame second number hsecond
  exact Option.some.inj hread

end Request

structure Frame.Carries (frame : Frame) (number : UInt64) (request : Request) : Prop where
  packetNumber : frame.header.packetNumber = number
  operation : frame.operation = request.operation
  payload : frame.payload = request.payload
  length : frame.length.toNat = request.frameLength
  /-- The length that is computed beforehand is that of the bytes that are written. -/
  emitted : request.frameLength = Header.size + frame.payload.length
  /-- Only a chunk of a write is part of a longer packet. -/
  entireLength : frame.header.entireLength =
    match request with
    | .write chunk => chunk.entireLength
    | _ => frame.length

namespace Request

variable {request : Request} {limit : UInt64}

theorem carries_frame (number : UInt64) (hlimit : request.frameLength ≤ limit.toNat) :
    (request.frame number).Carries number request where
  packetNumber := packetNumber_header request number
  operation := operation_header request number
  payload := rfl
  length := toNat_thisLength number hlimit
  emitted := by
    rw [frameLength, ← length_payload]
    rfl
  entireLength := by
    cases request <;> rfl

/-- Requests that one end numbers from the start and sends one after another reach the other end as
one frame each, with nothing left over; and what has no NUL in its strings is told by its frame, so
it is read back with all of its fields. -/
theorem requests_recovered {requests : List Request}
    (hlimit : ∀ request ∈ requests, request.frameLength ≤ limit.toNat) :
    (∃ received : List Frame,
      Frame.drain limit ((frames 0 requests).flatMap Frame.encode) = ⟨received, none, []⟩ ∧
      received.length = requests.length ∧
      (∀ (i : Nat) (request : Request), requests[i]? = some request →
        ∃ frame, received[i]? = some frame ∧ frame.Carries (UInt64.ofNat i) request) ∧
      ((∀ request ∈ requests, ∀ text ∈ request.texts, '\x00' ∉ text.toList) →
        received.map Frame.request? = requests.map some)) ∧
    ∀ (number : UInt64) (first second : Request),
      (∀ text ∈ first.texts, '\x00' ∉ text.toList) →
      (∀ text ∈ second.texts, '\x00' ∉ text.toList) →
      (first.frame number).encode = (second.frame number).encode → first = second := by
  refine ⟨⟨frames 0 requests, drain_frames 0 hlimit, length_frames 0 requests, ?_, ?_⟩, ?_⟩
  · intro i request hrequest
    have hframe : (frames 0 requests)[i]? = some (request.frame (UInt64.ofNat i)) := by
      rw [getElem?_frames, hrequest, Option.map_some, UInt64.zero_add]
    have hmem := List.mem_of_getElem? hrequest
    exact ⟨_, hframe, carries_frame _ (hlimit request hmem)⟩
  · exact map_request?_frames requests 0
  · exact fun number first second hfirst hsecond => eq_of_encode_frame hfirst hsecond

/-- Requests of several kinds, with a chunk of a longer write among them. -/
def several : List Request :=
  [.deviceInfo, .openFile "/f" .writeOnly, .seek ⟨2⟩ ⟨1, -5⟩, .write ⟨⟨2⟩, [0, 1], 100⟩,
    .lock ⟨2⟩ .exclusive, .rename "/f" "/g", .makeLink .symbolic "/g" "/h"]

theorem several_recovered :
    (∃ received : List Frame,
      Frame.drain 64 ((frames 0 several).flatMap Frame.encode) = ⟨received, none, []⟩ ∧
      received.map Frame.request? = several.map some) ∧
    ((seek ⟨2⟩ ⟨1, -5⟩).frame 2).encode ≠ ((seek ⟨2⟩ ⟨1, 5⟩).frame 2).encode := by
  have hlimit : ∀ request ∈ several, request.frameLength ≤ (64 : UInt64).toNat := by decide
  have htexts : ∀ request ∈ several, ∀ text ∈ request.texts, '\x00' ∉ text.toList := by decide
  obtain ⟨⟨received, hdrain, -, -, hread⟩, hinjective⟩ := requests_recovered hlimit
  refine ⟨⟨received, hdrain, hread htexts⟩, fun hbytes => ?_⟩
  exact absurd (hinjective 2 _ _ (by simp [texts]) (by simp [texts]) hbytes) (by decide)

end Request

end FileConduit

import FileConduit.Proofs.Request.Refusal

/-!
# What a status says in reply to a request

A status other than success makes an operation fail that is made of the request, with the number
of the status; a read error in reply to a request for the fields of a path means that there is no
such path.  A status of success is no answer where something else is expected.
-/

namespace FileConduit

structure Frame.IsStatus (frame : Frame) (number : UInt64) : Prop where
  operation : frame.operation = .status
  payload : frame.payload = Word.littleEndian number

namespace Frame.IsStatus

variable {frame : Frame} {number : UInt64}

theorem statusOf (hstatus : frame.IsStatus number) :
    Reply.statusOf frame.payload = .ok (.ofNumber number) := by
  have hlength : (Word.littleEndian number).length = Word.size := Word.length_littleEndian number
  rw [Reply.statusOf, hstatus.payload, if_pos hlength, Word.ofLittleEndian_littleEndian]

theorem status (hstatus : frame.IsStatus number) :
    Reply.status frame = .ok (.ofNumber number) := by
  rw [Reply.status, Reply.expect, if_pos hstatus.operation]
  exact hstatus.statusOf

theorem refusal? (hstatus : frame.IsStatus number) (hnumber : number ≠ 0) :
    frame.refusal? = some (.ofNumber number) := by
  have hlength : (Word.littleEndian number).length = Word.size := Word.length_littleEndian number
  rw [Frame.refusal?, hstatus.payload, Word.ofLittleEndian_littleEndian,
    if_pos ⟨hstatus.operation, hlength, hnumber⟩]

end Frame.IsStatus

theorem StatusCode.ofNumber_eq_readError_iff {number : UInt64} :
    ofNumber number = .readError ↔ number = 4 := by
  constructor
  · intro hcode
    have hnumber := number?_ofNumber number
    rw [hcode] at hnumber
    exact (Option.some.inj hnumber).symm
  · rintro rfl
    rfl

namespace Request

def expected : Request → Operation
  | openFile .. => .fileOpenResult
  | tell .. => .fileTellResult
  | read .. | fileInfo .. | readDirectory .. | deviceInfo => .data
  | _ => .status

/-- The failure that an operation makes of the answer to a request, if the operation cannot do
without it.  The device reports a read error for a path that does not exist. -/
def failure? : (request : Request) → Except ClientError request.Answer → Option ClientError
  | remove _, .ok code => if code.isSuccess then none else some (.reply (.status code))
  | fileInfo path, .error (.reply (.status .readError)) => some (.fileNotFound path)
  | _, .error error => some error
  | _, .ok _ => none

/-- What the failure of an operation says that is answered by a status with a number. -/
structure Reports (request : Request) (number : UInt64) (error : ClientError) : Prop where
  code : number ≠ 0 → (∀ path, request = .fileInfo path → number ≠ 4) →
    error.code?.bind StatusCode.number? = some number
  missing : ∀ path, request = .fileInfo path → number = 4 → error = .fileNotFound path
  success : number = 0 → error = .reply (.unexpectedOperation request.expected .status)

variable {request : Request} {order : ByteOrder} {reply : Frame} {number : UInt64}

/-- What is not the reply that is expected is no answer. -/
theorem answer_of_expect_error {cause : ReplyError}
    (hexpect : Reply.expect request.expected reply = .error cause) :
    request.answer order reply = .error cause := by
  cases request <;> simp only [expected] at hexpect <;>
    simp [answer, Reply.handle, Reply.word, Reply.data, Reply.position, Reply.info, Reply.strings,
      Reply.success, Reply.status, hexpect, bind, Except.bind]

theorem failure?_error {error : ClientError} (herror : error ≠ .reply (.status .readError)) :
    request.failure? (.error error) = some error := by
  unfold failure?
  split <;> simp_all

/-- No operation can do without an answer at all. -/
theorem failure?_error_ne_none (error : ClientError) : request.failure? (.error error) ≠ none := by
  unfold failure?
  split <;> simp_all

theorem failure?_status {code : StatusCode}
    (hcode : ∀ path, request = .fileInfo path → code ≠ .readError) :
    request.failure? (.error (.reply (.status code))) = some (.reply (.status code)) := by
  unfold failure?
  split <;> simp_all

theorem failure?_eq_some_iff {answer : Except ClientError request.Answer} {error : ClientError}
    (hremove : request.operation ≠ .removePath) (hinfo : request.operation ≠ .fileInfo) :
    request.failure? answer = some error ↔ answer = .error error := by
  cases request with
  | remove path => exact absurd rfl hremove
  | fileInfo path => exact absurd rfl hinfo
  | _ => cases answer <;> simp [failure?]

/-- A status of something else than success makes every operation fail. -/
theorem failure?_of_refusal (hstatus : reply.IsStatus number) (hnumber : number ≠ 0) :
    ∃ error, request.failure? ((request.answer order reply).mapError .reply) = some error ∧
      request.Reports number error := by
  have hcode : (ClientError.reply (.status (.ofNumber number))).code?.bind StatusCode.number? =
      some number := StatusCode.number?_ofNumber number
  by_cases hremove : request.operation = .removePath
  · obtain ⟨path, rfl⟩ : ∃ path, request = .remove path := by
      cases request <;> first | exact ⟨_, rfl⟩ | cases hremove
    have hfailed : (StatusCode.ofNumber number).isSuccess ≠ true :=
      fun hsuccess => hnumber ((StatusCode.isSuccess_ofNumber number).mp hsuccess)
    refine ⟨.reply (.status (.ofNumber number)), ?_, fun _ _ => hcode, nofun,
      fun hzero => absurd hzero hnumber⟩
    show failure? (.remove path) ((Reply.status reply).mapError .reply) = _
    rw [hstatus.status]
    exact if_neg hfailed
  · have hanswer := (answer_refused_iff hremove order reply (.ofNumber number)).mpr
      (hstatus.refusal? hnumber)
    rw [hanswer]
    by_cases hmissing : (∃ path, request = .fileInfo path) ∧ number = 4
    · obtain ⟨⟨path, rfl⟩, rfl⟩ := hmissing
      refine ⟨.fileNotFound path, rfl, fun _ hother => absurd rfl (hother path rfl), ?_, nofun⟩
      rintro _ ⟨⟩ -
      rfl
    · have hother : ∀ path, request = .fileInfo path → StatusCode.ofNumber number ≠ .readError :=
        fun path hinfo hread =>
          hmissing ⟨⟨path, hinfo⟩, StatusCode.ofNumber_eq_readError_iff.mp hread⟩
      exact ⟨_, failure?_status hother, fun _ _ => hcode,
        fun path hinfo hnumber => absurd ⟨⟨path, hinfo⟩, hnumber⟩ hmissing,
        fun hzero => absurd hzero hnumber⟩

/-- A status of success is no answer where something else is expected. -/
theorem failure?_of_success (hstatus : reply.IsStatus 0) (hexpected : request.expected ≠ .status) :
    ∃ error, request.failure? ((request.answer order reply).mapError .reply) = some error ∧
      request.Reports 0 error := by
  have hexpect : Reply.expect request.expected reply =
      .error (.unexpectedOperation request.expected .status) := by
    rw [Reply.expect, hstatus.operation, if_neg hexpected.symm, if_pos rfl, hstatus.statusOf]
    rfl
  rw [answer_of_expect_error hexpect]
  exact ⟨_, failure?_error (by simp), nofun, nofun, fun _ => rfl⟩

end Request

end FileConduit

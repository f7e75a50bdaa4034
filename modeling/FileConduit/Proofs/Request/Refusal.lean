import FileConduit.Request.Answer

/-!
# Refusals

A refusal is a status frame that does not say success.  It is read as the same status in answer to
every request, whether that expects a status or something else; only the removal of a path takes it
for an answer and not for a failure.  Data is taken as it is, unless there is more than was asked
for.
-/

namespace FileConduit

def Frame.refusal? (frame : Frame) : Option StatusCode :=
  if frame.operation = .status ∧ frame.payload.length = Word.size ∧
      Word.ofLittleEndian frame.payload ≠ 0 then
    some (.ofNumber (Word.ofLittleEndian frame.payload))
  else none

theorem StatusCode.isSuccess_ofNumber (number : UInt64) :
    (ofNumber number).isSuccess = true ↔ number = 0 := by
  rw [isSuccess, beq_iff_eq]
  constructor
  · intro hsuccess
    have hnumber := number?_ofNumber number
    rw [hsuccess] at hnumber
    exact (Option.some.inj hnumber).symm
  · rintro rfl
    rfl

namespace Reply

variable {reply : Frame} {code : StatusCode}

/-- What a frame holds whose operation is that of a status. -/
theorem refusal?_of_status (hoperation : reply.operation = .status) :
    reply.refusal? =
      match statusOf reply.payload with
      | .error _ => none
      | .ok code => if code.isSuccess then none else some code := by
  unfold Frame.refusal? statusOf
  by_cases hsize : reply.payload.length = Word.size
  · rw [if_pos hsize]
    by_cases hzero : Word.ofLittleEndian reply.payload = 0
    · simp [hoperation, hsize, hzero, (StatusCode.isSuccess_ofNumber 0).mpr rfl]
    · have hrefused : (StatusCode.ofNumber (Word.ofLittleEndian reply.payload)).isSuccess ≠ true :=
        fun hsuccess => hzero ((StatusCode.isSuccess_ofNumber _).mp hsuccess)
      simp [hoperation, hsize, hzero, hrefused]
  · rw [if_neg hsize, if_neg fun h => hsize h.2.1]

theorem statusOf_ne_refused (payload : Bytes) : statusOf payload ≠ .error (.status code) := by
  unfold statusOf
  split <;> simp

/-- A refusal comes through where something else is expected. -/
theorem expect_refused_iff {expected : Operation} (hexpected : expected ≠ .status) :
    expect expected reply = .error (.status code) ↔ reply.refusal? = some code := by
  unfold expect
  by_cases hmeant : reply.operation = expected
  · have hother : reply.operation ≠ .status := fun h => hexpected (hmeant.symm.trans h)
    simp [hmeant, hexpected, Frame.refusal?]
  · rw [if_neg hmeant]
    by_cases hoperation : reply.operation = .status
    · rw [if_pos hoperation, refusal?_of_status hoperation]
      cases hstatus : statusOf reply.payload with
      | error cause =>
          have hcause : cause ≠ .status code := by
            rintro rfl
            exact statusOf_ne_refused _ hstatus
          simp [hcause]
      | ok found => cases hsuccess : found.isSuccess <;> simp [hsuccess]
    · simp [hoperation, Frame.refusal?]

theorem success_refused_iff :
    success reply = .error (.status code) ↔ reply.refusal? = some code := by
  unfold success status expect
  by_cases hoperation : reply.operation = .status
  · rw [if_pos hoperation, refusal?_of_status hoperation]
    simp only [bind, Except.bind]
    cases hstatus : statusOf reply.payload with
    | error cause =>
        have hcause : cause ≠ .status code := by
          rintro rfl
          exact statusOf_ne_refused _ hstatus
        simp [hcause]
    | ok found => cases hsuccess : found.isSuccess <;> simp [hsuccess]
  · simp [hoperation, Frame.refusal?, bind, Except.bind]

/-- What is expected is all of the payload of a reply of that operation. -/
theorem expect_ok_iff {expected : Operation} {payload : Bytes} :
    expect expected reply = .ok payload ↔
      reply.operation = expected ∧ reply.payload = payload := by
  unfold expect
  by_cases hmeant : reply.operation = expected
  · simp [hmeant]
  · rw [if_neg hmeant]
    refine iff_of_false (fun hexpected => ?_) (fun h => hmeant h.1)
    split at hexpected
    · split at hexpected
      · cases hexpected
      · split at hexpected <;> cases hexpected
    · cases hexpected

/-- A reply with data is taken just when it holds no more than was asked for. -/
theorem data_ok_iff {asked : Nat} {payload : Bytes} :
    data asked reply = .ok payload ↔
      reply.operation = .data ∧ reply.payload = payload ∧ payload.length ≤ asked := by
  unfold data
  simp only [bind, Except.bind]
  split
  · rename_i cause hexpected
    refine iff_of_false (by simp) fun h => ?_
    rw [expect_ok_iff.mpr ⟨h.1, h.2.1⟩] at hexpected
    cases hexpected
  · rename_i found hexpected
    obtain ⟨hoperation, hpayload⟩ := expect_ok_iff.mp hexpected
    split
    · refine iff_of_false (by simp) ?_
      rintro ⟨-, rfl, hfits⟩
      rw [hpayload] at hfits
      omega
    · constructor
      · rintro ⟨⟩
        exact ⟨hoperation, hpayload, by omega⟩
      · rintro ⟨-, rfl, -⟩
        rw [hpayload]

theorem data_of_lt {asked : Nat} (hoperation : reply.operation = .data)
    (hlength : asked < reply.payload.length) :
    data asked reply = .error (.payloadSize .data reply.payload.length) := by
  simp only [data, expect_ok_iff.mpr ⟨hoperation, rfl⟩, bind, Except.bind, if_pos hlength]

/-- Reading that never refuses by itself refuses just what it is given as refused. -/
theorem bind_refused_iff {read : Except ReplyError α} {next : α → Except ReplyError β}
    (hnext : ∀ value, next value ≠ .error (.status code)) :
    read >>= next = .error (.status code) ↔ read = .error (.status code) := by
  cases read with
  | error cause => simp [bind, Except.bind]
  | ok value => simpa [bind, Except.bind] using hnext value

theorem word_refused_iff {expected : Operation} (hexpected : expected ≠ .status) :
    word expected reply = .error (.status code) ↔ reply.refusal? = some code := by
  rw [← expect_refused_iff hexpected]
  refine bind_refused_iff fun payload => ?_
  split <;> simp

theorem parseStrings_ne_refused (payload : Bytes) :
    parseStrings payload ≠ .error (.status code) := by
  unfold parseStrings
  split <;> simp

theorem parseInfo_ne_refused (payload : Bytes) : parseInfo payload ≠ .error (.status code) := by
  unfold parseInfo parseStrings
  simp only [bind, Except.bind]
  split
  · rename_i heq
    split at heq
    · cases heq
    · cases heq
      simp
  · split <;> simp

end Reply

/-- Every request but a removal fails with the status by which it is refused, and only so. -/
theorem Request.answer_refused_iff {request : Request} (hremove : request.operation ≠ .removePath)
    (order : ByteOrder) (reply : Frame) (code : StatusCode) :
    request.answer order reply = .error (.status code) ↔ reply.refusal? = some code := by
  cases request with
  | remove path => exact absurd rfl hremove
  | openFile path mode =>
      rw [← Reply.word_refused_iff (show Operation.fileOpenResult ≠ .status by decide)]
      exact Reply.bind_refused_iff fun payload => by simp [pure, Except.pure]
  | tell handle =>
      rw [← Reply.word_refused_iff (show Operation.fileTellResult ≠ .status by decide)]
      exact Reply.bind_refused_iff fun payload => by cases order <;> simp [pure, Except.pure]
  | read handle size =>
      rw [← Reply.expect_refused_iff (show Operation.data ≠ .status by decide)]
      refine Reply.bind_refused_iff fun payload => ?_
      split <;> simp
  | fileInfo path =>
      rw [← Reply.expect_refused_iff (show Operation.data ≠ .status by decide)]
      exact Reply.bind_refused_iff Reply.parseInfo_ne_refused
  | deviceInfo =>
      rw [← Reply.expect_refused_iff (show Operation.data ≠ .status by decide)]
      exact Reply.bind_refused_iff Reply.parseInfo_ne_refused
  | readDirectory path =>
      rw [← Reply.expect_refused_iff (show Operation.data ≠ .status by decide)]
      exact Reply.bind_refused_iff Reply.parseStrings_ne_refused
  | _ => exact Reply.success_refused_iff

end FileConduit

import FileConduit.Proofs.Session.Answering

/-!
# Framed answers to file requests

The frames of handles and of data, beside those of statuses, descriptions and listings; and the
device that frames whatever a responder answers to the requests of some kind.
-/

namespace FileConduit

namespace Request

/-- A frame that holds an answer, also if that is a handle or data of a file. -/
def fileReply : (request : Request) → Except ReplyError request.Answer → Frame
  | openFile .., .ok handle => .single .fileOpenResult (Word.littleEndian handle.number) 0
  | read .., .ok data => .single .data data 0
  | request, answer => request.reply answer

def Framed (config : ClientConfig) (request : Request)
    (answer : Except ReplyError request.Answer) : Prop :=
  Frame.next config.maxFrameLength (request.fileReply answer).encode =
      .frame (request.fileReply answer) [] ∧
    request.answer config.tellByteOrder (request.fileReply answer) = answer

variable {config : ClientConfig} {request : Request}

theorem framed_refusal {code : StatusCode} (number : UInt64)
    (hlimit : 48 ≤ config.maxFrameLength.toNat) (hremove : request.operation ≠ .removePath)
    (hcode : code = .ofNumber number) (hrefused : code.isSuccess = false) :
    request.Framed config (.error (.status code)) := by
  have hcarried := carried_refusal number hlimit hremove hcode hrefused
  cases request <;> exact hcarried

theorem framed_handle (path : String) (mode : OpenMode) (handle : Handle)
    (hlimit : 48 ≤ config.maxFrameLength.toNat) :
    (openFile path mode).Framed config (.ok handle) := by
  have hlength : (Word.littleEndian handle.number).length = Word.size :=
    Word.length_littleEndian _
  constructor
  · apply next_single rfl
    rw [hlength]
    exact hlimit
  · have hexpect : Reply.expect .fileOpenResult
        (.single .fileOpenResult (Word.littleEndian handle.number) 0) =
          .ok (Word.littleEndian handle.number) := rfl
    show Reply.handle (.single .fileOpenResult (Word.littleEndian handle.number) 0) = _
    simp only [Reply.handle, Reply.word, hexpect, hlength, bind, Except.bind, pure, Except.pure,
      if_true, Word.ofLittleEndian_littleEndian]

theorem framed_data (handle : Handle) {size : UInt64} {data : Bytes}
    (hdata : data.length ≤ size.toNat)
    (hlimit : Header.size + data.length ≤ config.maxFrameLength.toNat) :
    (read handle size).Framed config (.ok data) := by
  constructor
  · exact next_single rfl hlimit
  · show Reply.data size.toNat (.single .data data 0) = _
    rw [Reply.data, expect_data]
    simp only [bind, Except.bind, if_neg (Nat.not_lt.mpr hdata)]

theorem success_statusFrame : Reply.success (statusFrame .success) = .ok () := by
  have hcode : StatusCode.success = .ofNumber 0 := rfl
  rw [Reply.success, status_statusFrame hcode]
  rfl

theorem framed_close (handle : Handle) (hlimit : 48 ≤ config.maxFrameLength.toNat) :
    (close handle).Framed config (.ok ()) :=
  ⟨next_statusFrame .success hlimit, success_statusFrame⟩

theorem framed_write (chunk : WriteChunk) (hlimit : 48 ≤ config.maxFrameLength.toNat) :
    (write chunk).Framed config (.ok ()) :=
  ⟨next_statusFrame .success hlimit, success_statusFrame⟩

theorem framed_makeDirectory (path : String) (hlimit : 48 ≤ config.maxFrameLength.toNat) :
    (makeDirectory path).Framed config (.ok ()) :=
  ⟨next_statusFrame .success hlimit, success_statusFrame⟩

end Request

def Responder.fileDevice {σ : Type} (responder : Responder σ) : Device σ where
  react state request :=
    (.taken false [.bytes (request.fileReply (responder.respond state request).1).encode],
      (responder.respond state request).2)

theorem Responder.fileDevice_answersTo {σ : Type} {responder : Responder σ}
    {config : ClientConfig} {asked : Request → Prop}
    (hframed : ∀ (state : σ) (request : Request), asked request →
      request.Framed config (responder.respond state request).1) :
    responder.fileDevice.AnswersTo config responder asked :=
  fun state request hasked => ⟨request.fileReply (responder.respond state request).1, _, rfl,
    .last (Frame.encode_ne_nil _), (hframed state request hasked).1,
    (hframed state request hasked).2⟩

end FileConduit

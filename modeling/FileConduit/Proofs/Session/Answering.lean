import FileConduit.Proofs.Program.Play
import FileConduit.Proofs.Session.Correlation
import FileConduit.Proofs.Wire.Encoding

/-!
# Devices that answer

A device that answers every request with one frame, in time, is a responder: to run a program
against it is to play the program with the answers that are read out of the frames.  So whatever
is proved of plays holds of runs, however the frames are cut on their way.
-/

namespace FileConduit

/-- A device that sends one frame for each request, in time and in pieces of any size, with the
answer of the responder in it. -/
def Device.Answers {σ : Type} (device : Device σ) (config : ClientConfig)
    (responder : Responder σ) : Prop :=
  ∀ (state : σ) (request : Request), ∃ (reply : Frame) (arrivals : List Arrival),
    device.react state request =
      (.taken false arrivals, (responder.respond state request).2) ∧
    Arrival.Brings config.responseTimeout.microseconds reply.encode arrivals ∧
    Frame.next config.maxFrameLength reply.encode = .frame reply [] ∧
    request.answer config.tellByteOrder reply = (responder.respond state request).1

/-- A device that answers the requests of some kind so; what it does with others is not told. -/
def Device.AnswersTo {σ : Type} (device : Device σ) (config : ClientConfig)
    (responder : Responder σ) (asked : Request → Prop) : Prop :=
  ∀ (state : σ) (request : Request), asked request → ∃ (reply : Frame) (arrivals : List Arrival),
    device.react state request =
      (.taken false arrivals, (responder.respond state request).2) ∧
    Arrival.Brings config.responseTimeout.microseconds reply.encode arrivals ∧
    Frame.next config.maxFrameLength reply.encode = .frame reply [] ∧
    request.answer config.tellByteOrder reply = (responder.respond state request).1

theorem Device.Answers.answersTo {σ : Type} {device : Device σ} {config : ClientConfig}
    {responder : Responder σ} (hanswers : device.Answers config responder)
    (asked : Request → Prop) : device.AnswersTo config responder asked :=
  fun state request _ => hanswers state request

/-! ## Framed answers -/

namespace Request

def statusFrame (code : StatusCode) : Frame :=
  .single .status (Word.littleEndian (code.number?.getD 0)) 0

def reply : (request : Request) → Except ReplyError request.Answer → Frame
  | _, .error (.status code) => statusFrame code
  | remove .., .ok code => statusFrame code
  -- Pairs that are entered one after another stand in the dictionary in reverse order.
  | fileInfo .., .ok info =>
      .single .data (StringList.encode (InfoDictionary.alternate info.pairs.reverse)) 0
  | readDirectory .., .ok names => .single .data (StringList.encode names) 0
  | _, _ => statusFrame .success

/-- Whether an answer can be read out of its frame. -/
def Carried (config : ClientConfig) (request : Request)
    (answer : Except ReplyError request.Answer) : Prop :=
  Frame.next config.maxFrameLength (request.reply answer).encode =
      .frame (request.reply answer) [] ∧
    request.answer config.tellByteOrder (request.reply answer) = answer

theorem next_single {operation : Operation} {payload : Bytes} {limit : UInt64}
    (hoperation : .ofNumber operation.number = operation)
    (hsize : Header.size + payload.length ≤ limit.toNat) :
    Frame.next limit (Frame.single operation payload 0).encode =
      .frame (.single operation payload 0) [] := by
  rw [← List.append_nil (Frame.encode _)]
  exact Frame.next_single hoperation hsize []

variable {config : ClientConfig} {request : Request} {code : StatusCode} {number : UInt64}

theorem next_statusFrame (code : StatusCode) (hlimit : 48 ≤ config.maxFrameLength.toNat) :
    Frame.next config.maxFrameLength (statusFrame code).encode = .frame (statusFrame code) [] := by
  refine next_single rfl ?_
  rw [Word.length_littleEndian]
  exact hlimit

theorem statusOf_statusFrame (hcode : code = .ofNumber number) :
    Reply.statusOf (statusFrame code).payload = .ok code := by
  have hnumber : code.number? = some number := by rw [hcode, StatusCode.number?_ofNumber]
  have hlength : (statusFrame code).payload.length = Word.size := Word.length_littleEndian _
  rw [Reply.statusOf, if_pos hlength]
  show Except.ok (StatusCode.ofNumber (Word.ofLittleEndian (Word.littleEndian _))) = _
  rw [Word.ofLittleEndian_littleEndian, hnumber, Option.getD_some, ← hcode]

theorem operation_statusFrame (code : StatusCode) : (statusFrame code).operation = .status := rfl

theorem status_statusFrame (hcode : code = .ofNumber number) :
    Reply.status (statusFrame code) = .ok code := by
  rw [Reply.status, Reply.expect, operation_statusFrame, if_pos rfl]
  exact statusOf_statusFrame hcode

/-- A refusal is read out of the frame of its status, in place of any answer. -/
theorem carried_refusal (number : UInt64) (hlimit : 48 ≤ config.maxFrameLength.toNat)
    (hremove : request.operation ≠ .removePath) (hcode : code = .ofNumber number)
    (hrefused : code.isSuccess = false) : request.Carried config (.error (.status code)) := by
  have hstatus := statusOf_statusFrame hcode
  have hsuccess : Reply.success (statusFrame code) = .error (.status code) := by
    rw [Reply.success, status_statusFrame hcode]
    simp only [bind, Except.bind, hrefused, Bool.false_eq_true, if_false]
  have hexpect : ∀ expected, expected ≠ .status →
      Reply.expect expected (statusFrame code) = .error (.status code) := fun expected hne => by
    rw [Reply.expect, operation_statusFrame, if_neg (Ne.symm hne), if_pos rfl, hstatus]
    simp only [hrefused, Bool.false_eq_true, if_false]
  refine ⟨by cases request <;> exact next_statusFrame code hlimit, ?_⟩
  cases request with
  | remove path => exact absurd rfl hremove
  | openFile path mode => simp [answer, reply, Reply.handle, Reply.word, hexpect, bind, Except.bind]
  | read handle size => simp [answer, reply, Reply.data, hexpect, bind, Except.bind]
  | tell handle => simp [answer, reply, Reply.position, Reply.word, hexpect, bind, Except.bind]
  | fileInfo path => simp [answer, reply, Reply.info, hexpect, bind, Except.bind]
  | deviceInfo => simp [answer, reply, Reply.info, hexpect, bind, Except.bind]
  | readDirectory path => simp [answer, reply, Reply.strings, hexpect, bind, Except.bind]
  | _ => exact hsuccess

theorem expect_data (payload : Bytes) :
    Reply.expect .data (.single .data payload 0) = .ok payload := by
  rw [Reply.expect, show (Frame.single .data payload 0).operation = .data from rfl, if_pos rfl]
  rfl

theorem carried_listing (path : String) {names : List String}
    (hnames : ∀ name ∈ names, '\x00' ∉ name.toList)
    (hsize : Header.size + (StringList.encode names).length ≤ config.maxFrameLength.toNat) :
    (readDirectory path).Carried config (.ok names) := by
  refine ⟨next_single rfl hsize, ?_⟩
  show Reply.strings (.single .data (StringList.encode names) 0) = _
  rw [Reply.strings, expect_data]
  simp only [bind, Except.bind, Reply.parseStrings, StringList.decode?_of_encode hnames]

theorem carried_fields (path : String) {info : InfoDictionary}
    (hinfo : .ofPairs info.pairs.reverse = info)
    (htexts : ∀ text ∈ InfoDictionary.alternate info.pairs.reverse, '\x00' ∉ text.toList)
    (hsize : Header.size +
      (StringList.encode (InfoDictionary.alternate info.pairs.reverse)).length ≤
        config.maxFrameLength.toNat) :
    (fileInfo path).Carried config (.ok info) := by
  refine ⟨next_single rfl hsize, ?_⟩
  show Reply.info
    (.single .data (StringList.encode (InfoDictionary.alternate info.pairs.reverse)) 0) = _
  rw [Reply.info, expect_data]
  simp only [bind, Except.bind, Reply.parseInfo, Reply.parseStrings,
    StringList.decode?_of_encode htexts, InfoDictionary.ofStrings?_alternate, hinfo]

theorem carried_removal (number : UInt64) (path : String)
    (hlimit : 48 ≤ config.maxFrameLength.toNat) (hcode : code = .ofNumber number) :
    (remove path).Carried config (.ok code) :=
  ⟨next_statusFrame code hlimit, status_statusFrame hcode⟩

end Request

def Responder.device {σ : Type} (responder : Responder σ) : Device σ where
  react state request :=
    (.taken false [.bytes (request.reply (responder.respond state request).1).encode],
      (responder.respond state request).2)

theorem Responder.device_answers {σ : Type} {responder : Responder σ} {config : ClientConfig}
    (hcarried : ∀ (state : σ) (request : Request),
      request.Carried config (responder.respond state request).1) :
    responder.device.Answers config responder :=
  fun state request => ⟨request.reply (responder.respond state request).1, _, rfl,
    .last (Frame.encode_ne_nil _), (hcarried state request).1, (hcarried state request).2⟩

/-! ## Runs and plays -/

namespace Session

variable {σ α : Type} {device : Device σ} {config : ClientConfig} {responder : Responder σ}

/-- A session between two round trips that went well, with nothing under way. -/
structure Ready (config : ClientConfig) (session : Session σ) : Prop where
  config : session.config = config
  cancelled : session.cancelled = false
  desynchronized : session.desynchronized = false
  buffer : session.inbox.buffer = []
  arrivals : session.inbox.arrivals = []
  patient : session.givesUp = none

theorem fresh_ready (config : ClientConfig) (state : σ) (host : HostTree) :
    Ready config (fresh config state host []) :=
  ⟨rfl, rfl, rfl, rfl, rfl, rfl⟩

/-- What one round trip with an answering device does. -/
structure Answered (responder : Responder σ) (request : Request) (before after : Session σ) :
    Prop where
  ready : Ready before.config after
  device : after.device = (responder.respond before.device request).2
  host : after.host = before.host
  number : after.packetNumber = before.packetNumber + 1
  sent : after.sentFrames = before.sentFrames ++ [request.frame before.packetNumber]

theorem call_answered {asked : Request → Prop}
    (hanswers : device.AnswersTo config responder asked) {request : Request}
    (hasked : asked request) {session : Session σ} (hready : Ready config session) :
    (session.call device request).1 =
        some ((responder.respond session.device request).1.mapError .reply) ∧
      Answered responder request session (session.call device request).2 := by
  obtain ⟨reply, arrivals, hreact, hbrings, hnext, hanswer⟩ :=
    hanswers session.device request hasked
  let state := (responder.respond session.device request).2
  let waiting := session.waiting request state false arrivals
  have hconfig : waiting.config = config := hready.config
  obtain ⟨clock, hreceived⟩ := Inbox.receiveFrom_brings config.maxFrameLength hbrings []
    session.inbox.clock (Nat.le_refl _) hnext
  have hreceipt : waiting.receipt = (.frame reply, ⟨[], [], clock⟩) := by
    have hinbox : waiting.inbox = ⟨[], arrivals, session.inbox.clock⟩ := by
      show Inbox.mk session.inbox.buffer (session.inbox.arrivals ++ arrivals)
        session.inbox.clock = _
      rw [hready.buffer, hready.arrivals, List.nil_append]
    have hpatience : waiting.patience =
        ⟨session.inbox.clock + config.responseTimeout.microseconds, none⟩ := by
      show Patience.mk (_ + session.config.responseTimeout.microseconds) session.givesUp = _
      rw [hready.config, hready.patient]
      rfl
    rw [receipt, hconfig, hpatience, hinbox]
    exact hreceived
  have hexchange := exchange_of_taken hready.desynchronized hreact
  rw [awaitReply_of_frame hreceipt] at hexchange
  rw [call_of_reply hready.cancelled hexchange]
  obtain ⟨metrics, hmetrics⟩ := observe_eq
    ({ waiting with inbox := ⟨[], [], clock⟩ }.received reply)
    (request.answer config.tellByteOrder reply)
  have horder : ({ waiting with inbox := ⟨[], [], clock⟩ }.received reply).config =
      config := hconfig
  rw [horder, hmetrics, hanswer]
  refine ⟨rfl, ⟨rfl, ?_, rfl, rfl, rfl, hready.patient⟩, rfl, rfl, rfl, ?_⟩
  · show (session.cancelled || false) = false
    rw [hready.cancelled]
    rfl
  · simp [sentFrames, waiting, Session.waiting, Session.sent, Session.received, opened]

structure Plays (play : Play σ α) (before after : Session σ) : Prop where
  ready : Ready before.config after
  device : after.device = play.world.device
  host : after.host = play.world.host
  sent : after.sentFrames =
    before.sentFrames ++ Request.frames before.packetNumber play.requests

/-- To run a program against a device that answers what it is asked is to play it. -/
theorem run_plays_asked {asked : Request → Prop}
    (hanswers : device.AnswersTo config responder asked) (program : Program α) :
    ∀ session : Session σ, Ready config session →
      let play := program.play responder ⟨session.device, session.host⟩
      (∀ request ∈ play.requests, asked request) →
      (session.run device program).1 = play.outcome ∧
        Plays play session (session.run device program).2 := by
  induction program with
  | done result =>
      intro session hready play hasked
      exact ⟨rfl, ⟨rfl, hready.2, hready.3, hready.4, hready.5, hready.6⟩, rfl, rfl,
        (List.append_nil session.sentFrames).symm⟩
  | halted cause =>
      intro session hready play hasked
      exact ⟨rfl, ⟨rfl, hready.2, hready.3, hready.4, hready.5, hready.6⟩, rfl, rfl,
        (List.append_nil session.sentFrames).symm⟩
  | checkpoint next ih =>
      intro session hready
      rw [run, hready.cancelled]
      exact ih false session hready
  | call request next ih =>
      intro session hready play hasked
      obtain ⟨hanswer, hafter⟩ :=
        call_answered hanswers (hasked request List.mem_cons_self) hready
      cases hcall : session.call device request with
      | mk answer after =>
          rw [hcall] at hanswer hafter
          have hafterReady : Ready config after := by
            rw [← hready.config]
            exact hafter.ready
          have hrest := ih
            ((responder.respond session.device request).1.mapError .reply) after hafterReady
          rw [hafter.device, hafter.host] at hrest
          obtain ⟨houtcome, hplays⟩ :=
            hrest fun other hother => hasked other (List.mem_cons_of_mem _ hother)
          rw [run, hcall]
          cases hanswer
          refine ⟨houtcome, ?_, hplays.device, hplays.host, ?_⟩
          · rw [hready.config, ← hafterReady.config]
            exact hplays.ready
          · rw [hplays.sent, hafter.sent, hafter.number, List.append_assoc]
            rfl
  | host action next ih =>
      intro session hready play hasked
      obtain ⟨houtcome, hplays⟩ := ih (session.host.perform action).1
        { session with host := (session.host.perform action).2 }
        ⟨hready.1, hready.2, hready.3, hready.4, hready.5, hready.6⟩ hasked
      exact ⟨houtcome, hplays.ready, hplays.device, hplays.host, hplays.sent⟩

theorem run_plays (hanswers : device.Answers config responder) (program : Program α)
    (session : Session σ) (hready : Ready config session) :
    let play := program.play responder ⟨session.device, session.host⟩
    (session.run device program).1 = play.outcome ∧
      Plays play session (session.run device program).2 :=
  run_plays_asked (hanswers.answersTo fun _ => True) program session hready fun _ _ => trivial

theorem programTrips_requests (hanswers : device.Answers config responder) (program : Program α) :
    ∀ session : Session σ, Ready config session →
      (session.programTrips device program).map Trip.request =
        (program.play responder ⟨session.device, session.host⟩).requests := by
  induction program with
  | done result =>
      intro session hready
      rfl
  | halted cause =>
      intro session hready
      rfl
  | checkpoint next ih =>
      intro session hready
      rw [programTrips, hready.cancelled]
      exact ih false session hready
  | call request next ih =>
      intro session hready
      obtain ⟨hanswer, hafter⟩ :=
        call_answered (hanswers.answersTo fun _ => True) trivial hready
      cases hcall : session.call device request with
      | mk answer after =>
          rw [hcall] at hanswer hafter
          have hafterReady : Ready config after := by
            rw [← hready.config]
            exact hafter.ready
          have hrest := ih
            ((responder.respond session.device request).1.mapError .reply) after hafterReady
          rw [hafter.device, hafter.host] at hrest
          rw [programTrips, hcall]
          cases hanswer
          simp only [List.map_cons, hrest]
          rfl
  | host action next ih =>
      intro session hready
      exact ih (session.host.perform action).1
        { session with host := (session.host.perform action).2 }
        ⟨hready.1, hready.2, hready.3, hready.4, hready.5, hready.6⟩

/-- A program that plays itself out runs to its end with a device that answers what it asks. -/
theorem run_ends_asked {asked : Request → Prop}
    (hanswers : device.AnswersTo config responder asked) {program : Program α}
    {session : Session σ} (hready : Ready config session) {result : Except ClientError α}
    {requests : List Request} {final : World σ}
    (hends : program.Ends responder ⟨session.device, session.host⟩ result requests final)
    (hasked : ∀ request ∈ requests, asked request) :
    (session.run device program).1 = .finished result ∧
      Plays ⟨.finished result, requests, final⟩ session (session.run device program).2 := by
  have hplays := run_plays_asked hanswers program session hready
  rw [show program.play responder ⟨session.device, session.host⟩ = _ from hends] at hplays
  exact hplays hasked

theorem run_ends (hanswers : device.Answers config responder) {program : Program α}
    {session : Session σ} (hready : Ready config session) {result : Except ClientError α}
    {requests : List Request} {final : World σ}
    (hends : program.Ends responder ⟨session.device, session.host⟩ result requests final) :
    (session.run device program).1 = .finished result ∧
      Plays ⟨.finished result, requests, final⟩ session (session.run device program).2 :=
  run_ends_asked (hanswers.answersTo fun _ => True) hready hends fun _ _ => trivial

end Session

end FileConduit

import FileConduit.Proofs.Session.Receiving
import FileConduit.Session

/-!
# Round trips

`Course` says once what a round trip can do: it is turned away before anything is sent, or the
channel refuses the request, or waiting for the reply breaks off, or the caller gives up, or the
reply is read.  Whatever holds of a session is proved from these six cases.
-/

namespace FileConduit

def Receipt.failure? : Receipt → Option ClientError
  | frame _ => none
  | malformed error => some (.framing error)
  | faulted fault => some (.channel fault)
  | closed => some .connectionClosed
  | late => some .timeout
  | abandoned => none

def Receipt.event? : Receipt → Option Metrics.Event
  | malformed _ | faulted _ => some .protocolError
  | late => some .roundTripAbandoned
  | frame _ | closed | abandoned => none

theorem Receipt.breaksOff_of_failure? {receipt : Receipt} {error : ClientError}
    (hfailure : receipt.failure? = some error) : error.breaksOff = true := by
  cases receipt <;> cases hfailure <;> rfl

namespace Session

variable {σ : Type}

def countAny (session : Session σ) (event : Option Metrics.Event) : Session σ :=
  event.elim session session.count

def waiting (session : Session σ) (request : Request) (state : σ) (cancels : Bool)
    (arrivals : List Arrival) : Session σ :=
  { session.opened with device := state }.sent (request.frame session.packetNumber) cancels
    arrivals

def receipt (session : Session σ) : Receipt × Inbox :=
  session.inbox.receive session.config.maxFrameLength session.patience

/-- Counting what a reply holds changes nothing else. -/
theorem observe_eq (session : Session σ) (answer : Except ReplyError α) :
    ∃ metrics, session.observe answer = { session with metrics } := by
  unfold observe
  split
  · exact ⟨session.metrics, rfl⟩
  · exact ⟨_, rfl⟩
  · exact ⟨_, rfl⟩

theorem countAny_eq (session : Session σ) (event : Option Metrics.Event) :
    ∃ metrics, session.countAny event = { session with metrics } := by
  cases event with
  | none => exact ⟨session.metrics, rfl⟩
  | some event => exact ⟨_, rfl⟩

/-! ## One exchange -/

variable {session : Session σ} {device : Device σ} {request : Request} {state : σ}
  {cancels : Bool} {arrivals : List Arrival} {inbox : Inbox}

theorem awaitReply_of_frame {reply : Frame} (hreceipt : session.receipt = (.frame reply, inbox)) :
    session.awaitReply = (some (.ok reply), { session with inbox }.received reply) := by
  unfold awaitReply
  rw [show session.inbox.receive _ _ = _ from hreceipt]

theorem awaitReply_of_failure {receipt : Receipt} {error : ClientError}
    (hreceipt : session.receipt = (receipt, inbox)) (hfailure : receipt.failure? = some error) :
    session.awaitReply =
      (some (.error error), { session with inbox }.countAny receipt.event?) := by
  unfold awaitReply
  rw [show session.inbox.receive _ _ = _ from hreceipt]
  cases receipt <;> cases hfailure <;> rfl

theorem awaitReply_of_abandoned (hreceipt : session.receipt = (.abandoned, inbox)) :
    session.awaitReply = (none, { session with inbox }) := by
  unfold awaitReply
  rw [show session.inbox.receive _ _ = _ from hreceipt]

theorem awaitReply_config (session : Session σ) : session.awaitReply.2.config = session.config := by
  unfold awaitReply
  split
  split <;> rfl

theorem exchange_config (device : Device σ) (request : Request) (session : Session σ) :
    (session.exchange device request).2.config = session.config := by
  unfold exchange
  split
  · rfl
  · dsimp only
    split
    · rfl
    · rw [awaitReply_config]
      rfl

theorem exchange_of_desynchronized (hflag : session.desynchronized = true) :
    session.exchange device request = (some (.error .desynchronized), session) := by
  simp only [exchange, hflag, if_true]

theorem exchange_of_refused {fault : ChannelFault} (hflag : session.desynchronized = false)
    (hreact : device.react session.device request = (.refused fault, state)) :
    session.exchange device request =
      (some (.error (.channel fault)), { session.opened with device := state }) := by
  simp only [exchange, hflag, hreact, Bool.false_eq_true, if_false]

theorem exchange_of_taken (hflag : session.desynchronized = false)
    (hreact : device.react session.device request = (.taken cancels arrivals, state)) :
    session.exchange device request =
      (session.waiting request state cancels arrivals).awaitReply := by
  simp only [exchange, hflag, hreact, Bool.false_eq_true, if_false]
  rfl

theorem call_of_cancelled (hcancelled : session.cancelled = true) :
    session.call device request = (some (.error .cancelled), session) := by
  simp only [call, hcancelled, if_true]

theorem call_of_error {error : ClientError} {after : Session σ}
    (hcancelled : session.cancelled = false)
    (hexchange : session.exchange device request = (some (.error error), after)) :
    session.call device request = (some (.error error), after) := by
  simp only [call, hcancelled, hexchange, Bool.false_eq_true, if_false]

theorem call_of_none {after : Session σ} (hcancelled : session.cancelled = false)
    (hexchange : session.exchange device request = (none, after)) :
    session.call device request = (none, after) := by
  simp only [call, hcancelled, hexchange, Bool.false_eq_true, if_false]

theorem call_of_reply {reply : Frame} {after : Session σ} (hcancelled : session.cancelled = false)
    (hexchange : session.exchange device request = (some (.ok reply), after)) :
    session.call device request =
      (some ((request.answer after.config.tellByteOrder reply).mapError .reply),
        after.observe (request.answer after.config.tellByteOrder reply)) := by
  simp only [call, hcancelled, hexchange, Bool.false_eq_true, if_false]
  cases request.answer after.config.tellByteOrder reply <;> rfl

/-! ## The six ways -/

/-- The ways in which a round trip can go: what the operation is told, if the caller does not
give up, and the session afterwards. -/
inductive Course (device : Device σ) (session : Session σ) (request : Request) :
    Option (Except ClientError request.Answer) → Session σ → Prop where
  | cancelled (hcancelled : session.cancelled = true) :
      Course device session request (some (.error .cancelled)) session
  | desynchronized (hcancelled : session.cancelled = false)
      (hflag : session.desynchronized = true) :
      Course device session request (some (.error .desynchronized)) session
  | refused (hcancelled : session.cancelled = false) (hflag : session.desynchronized = false)
      {fault : ChannelFault} {state : σ}
      (hreact : device.react session.device request = (.refused fault, state)) :
      Course device session request (some (.error (.channel fault)))
        { session.opened with device := state }
  | brokenOff (hcancelled : session.cancelled = false) (hflag : session.desynchronized = false)
      {cancels : Bool} {arrivals : List Arrival} {state : σ} {receipt : Receipt} {inbox : Inbox}
      {error : ClientError}
      (hreact : device.react session.device request = (.taken cancels arrivals, state))
      (hreceipt : (session.waiting request state cancels arrivals).receipt = (receipt, inbox))
      (hfailure : receipt.failure? = some error) :
      Course device session request (some (.error error))
        ({ session.waiting request state cancels arrivals with inbox }.countAny receipt.event?)
  | givenUp (hcancelled : session.cancelled = false) (hflag : session.desynchronized = false)
      {cancels : Bool} {arrivals : List Arrival} {state : σ} {inbox : Inbox}
      (hreact : device.react session.device request = (.taken cancels arrivals, state))
      (hreceipt : (session.waiting request state cancels arrivals).receipt = (.abandoned, inbox)) :
      Course device session request none
        { session.waiting request state cancels arrivals with inbox }
  | answered (hcancelled : session.cancelled = false) (hflag : session.desynchronized = false)
      {cancels : Bool} {arrivals : List Arrival} {state : σ} {reply : Frame} {inbox : Inbox}
      (hreact : device.react session.device request = (.taken cancels arrivals, state))
      (hreceipt :
        (session.waiting request state cancels arrivals).receipt = (.frame reply, inbox)) :
      Course device session request
        (some ((request.answer session.config.tellByteOrder reply).mapError .reply))
        (({ session.waiting request state cancels arrivals with inbox }.received reply).observe
          (request.answer session.config.tellByteOrder reply))

theorem call_course (device : Device σ) (request : Request) (session : Session σ) :
    Course device session request (session.call device request).1
      (session.call device request).2 := by
  by_cases hcancelled : session.cancelled = true
  · rw [call_of_cancelled hcancelled]
    exact .cancelled hcancelled
  rw [Bool.not_eq_true] at hcancelled
  by_cases hflag : session.desynchronized = true
  · rw [call_of_error hcancelled (exchange_of_desynchronized hflag)]
    exact .desynchronized hcancelled hflag
  rw [Bool.not_eq_true] at hflag
  cases hreact : device.react session.device request with
  | mk reaction state =>
      cases reaction with
      | refused fault =>
          rw [call_of_error hcancelled (exchange_of_refused hflag hreact)]
          exact .refused hcancelled hflag hreact
      | taken cancels arrivals =>
          have hexchange := exchange_of_taken hflag hreact
          cases hreceipt : (session.waiting request state cancels arrivals).receipt with
          | mk receipt inbox =>
              cases hfailure : receipt.failure? with
              | some error =>
                  rw [awaitReply_of_failure hreceipt hfailure] at hexchange
                  rw [call_of_error hcancelled hexchange]
                  exact .brokenOff hcancelled hflag hreact hreceipt hfailure
              | none =>
                  cases receipt with
                  | frame reply =>
                      rw [awaitReply_of_frame hreceipt] at hexchange
                      rw [call_of_reply hcancelled hexchange]
                      exact .answered hcancelled hflag hreact hreceipt
                  | abandoned =>
                      rw [awaitReply_of_abandoned hreceipt] at hexchange
                      rw [call_of_none hcancelled hexchange]
                      exact .givenUp hcancelled hflag hreact hreceipt
                  | malformed error => cases hfailure
                  | faulted fault => cases hfailure
                  | closed => cases hfailure
                  | late => cases hfailure

/-- A round trip changes neither when the caller gives up nor the host's files. -/
theorem call_keeps (device : Device σ) (request : Request) (session : Session σ) :
    (session.call device request).2.givesUp = session.givesUp ∧
      (session.call device request).2.host = session.host := by
  have hcourse := session.call_course device request
  generalize (session.call device request).1 = outcome at hcourse
  generalize (session.call device request).2 = after at hcourse
  cases hcourse with
  | cancelled hcancelled => exact ⟨rfl, rfl⟩
  | desynchronized hcancelled hflag => exact ⟨rfl, rfl⟩
  | refused hcancelled hflag hreact => exact ⟨rfl, rfl⟩
  | brokenOff hcancelled hflag hreact hreceipt hfailure =>
      obtain ⟨metrics, hmetrics⟩ := countAny_eq { session.waiting request _ _ _ with inbox := _ } _
      rw [hmetrics]
      exact ⟨rfl, rfl⟩
  | givenUp hcancelled hflag hreact hreceipt => exact ⟨rfl, rfl⟩
  | answered hcancelled hflag hreact hreceipt =>
      obtain ⟨metrics, hmetrics⟩ := observe_eq
        ({ session.waiting request _ _ _ with inbox := _ }.received _)
        (request.answer session.config.tellByteOrder _)
      rw [hmetrics]
      exact ⟨rfl, rfl⟩

end Session

end FileConduit

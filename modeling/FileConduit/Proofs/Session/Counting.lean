import FileConduit.Proofs.Session.Desynchronization
import Mathlib.Data.UInt

/-!
# What is counted

A round trip counts the frame that it sends, the frame that it gets, and how it ends.  Nothing else
is counted: the counters of a session are those of its round trips, one after another.
-/

namespace FileConduit

namespace Metrics

/-- How the end of a round trip is counted.  A channel that does not take the request at all is not
counted. -/
def endEvent? (wentOut : Bool) : Option (Except ClientError α) → Option Event
  | some (.error (.reply (.status _))) => some .statusError
  | some (.error (.reply _)) | some (.error (.framing _)) => some .protocolError
  | some (.error (.channel _)) => if wentOut then some .protocolError else none
  | some (.error .timeout) => some .roundTripAbandoned
  | _ => none

/-- The end of a round trip is not counted as a frame. -/
theorem endEvent?_cases (wentOut : Bool) (outcome : Option (Except ClientError α)) :
    endEvent? wentOut outcome = none ∨ endEvent? wentOut outcome = some .statusError ∨
      endEvent? wentOut outcome = some .protocolError ∨
      endEvent? wentOut outcome = some .roundTripAbandoned := by
  unfold endEvent?
  split
  · exact .inr (.inl rfl)
  · exact .inr (.inr (.inl rfl))
  · exact .inr (.inr (.inl rfl))
  · cases wentOut
    · exact .inl rfl
    · exact .inr (.inr (.inl rfl))
  · exact .inr (.inr (.inr rfl))
  · exact .inl rfl

theorem endEvent?_eq_statusError_iff {wentOut : Bool} {outcome : Option (Except ClientError α)} :
    endEvent? wentOut outcome = some .statusError ↔
      ∃ code, outcome = some (.error (.reply (.status code))) := by
  unfold endEvent?
  split <;> simp_all

theorem endEvent?_eq_abandoned_iff {wentOut : Bool} {outcome : Option (Except ClientError α)} :
    endEvent? wentOut outcome = some .roundTripAbandoned ↔
      outcome = some (.error .timeout) := by
  unfold endEvent?
  split <;> simp_all

end Metrics

namespace Trip

variable {σ : Type} (device : Device σ) (trip : Trip σ)

def endEvent? : Option Metrics.Event :=
  Metrics.endEvent? (trip.sent? device).isSome (trip.outcome device)

def counted : List Metrics.Event :=
  (trip.sent? device).toList.map (fun frame => .frameSent frame.length) ++
    (trip.reply? device).toList.map (fun frame => .frameReceived frame.length) ++
    (trip.endEvent? device).toList

theorem counted_of {sent? reply? : Option Frame} {event? : Option Metrics.Event}
    (hsent : trip.sent? device = sent?) (hreply : trip.reply? device = reply?)
    (hevent : trip.endEvent? device = event?) :
    trip.counted device =
      sent?.toList.map (fun frame => .frameSent frame.length) ++
        reply?.toList.map (fun frame => .frameReceived frame.length) ++ event?.toList := by
  rw [counted, hsent, hreply, hevent]

theorem endEvent?_of {sent? : Option Frame}
    {outcome : Option (Except ClientError trip.request.Answer)}
    (hsent : trip.sent? device = sent?) (houtcome : trip.outcome device = outcome) :
    trip.endEvent? device = Metrics.endEvent? sent?.isSome outcome := by
  rw [endEvent?, hsent, houtcome]

/-- A round trip that is turned away counts nothing. -/
theorem counted_of_still {error : ClientError} (hsent : trip.sent? device = none)
    (hreply : trip.reply? device = none) (houtcome : trip.outcome device = some (.error error))
    (herror : Metrics.endEvent? (α := trip.request.Answer) false (some (.error error)) = none) :
    trip.counted device = [] := by
  rw [trip.counted_of device hsent hreply (trip.endEvent?_of device hsent houtcome)]
  exact congrArg Option.toList herror

variable {trip}

theorem metrics_after (device : Device σ) (trip : Trip σ) :
    (trip.after device).metrics =
      (trip.counted device).foldl Metrics.count trip.before.metrics := by
  have hcourse := trip.course device
  generalize houtcome : trip.outcome device = outcome at hcourse
  generalize trip.after device = after at hcourse
  cases hcourse with
  | cancelled hcancelled =>
      have hproceeds : trip.proceeds = false := by simp [proceeds, hcancelled]
      have hreply : trip.reply? device = none := by simp [reply?, hcancelled]
      rw [trip.counted_of_still device (sent?_of_not_proceeds device hproceeds).1 hreply houtcome
        rfl]
      rfl
  | desynchronized hcancelled hflag =>
      have hproceeds : trip.proceeds = false := by simp [proceeds, hflag]
      have hexchange : trip.before.exchange device trip.request =
          (some (.error .desynchronized), trip.before) := Session.exchange_of_desynchronized hflag
      have hreply := reply?_of_exchange hcancelled hexchange
      rw [trip.counted_of_still device (sent?_of_not_proceeds device hproceeds).1 hreply houtcome
        rfl]
      rfl
  | refused hcancelled hflag hreact =>
      have hreply := reply?_of_exchange hcancelled (Session.exchange_of_refused hflag hreact)
      rw [trip.counted_of_still device (sent?_of_refused hreact).1 hreply houtcome rfl]
      rfl
  | @brokenOff hcancelled hflag _ _ _ receipt _ _ hreact hreceipt hfailure =>
      have hsent := (sent?_of_taken hcancelled hflag hreact).1
      have hexchange := Session.exchange_of_taken hflag hreact
      rw [Session.awaitReply_of_failure hreceipt hfailure] at hexchange
      have hreply := reply?_of_exchange hcancelled hexchange
      rw [trip.counted_of device hsent hreply (trip.endEvent?_of device hsent houtcome)]
      cases receipt <;> cases hfailure <;> rfl
  | givenUp hcancelled hflag hreact hreceipt =>
      have hsent := (sent?_of_taken hcancelled hflag hreact).1
      have hexchange := Session.exchange_of_taken hflag hreact
      rw [Session.awaitReply_of_abandoned hreceipt] at hexchange
      have hreply := reply?_of_exchange hcancelled hexchange
      rw [trip.counted_of device hsent hreply (trip.endEvent?_of device hsent houtcome)]
      rfl
  | @answered hcancelled hflag _ _ _ reply _ hreact hreceipt =>
      have hsent := (sent?_of_taken hcancelled hflag hreact).1
      have hreply := reply?_of_frame hcancelled hflag hreact hreceipt
      rw [trip.counted_of device hsent hreply (trip.endEvent?_of device hsent houtcome)]
      generalize trip.request.answer trip.before.config.tellByteOrder reply = answer
      rcases answer with cause | value
      · cases cause <;> rfl
      · rfl

theorem frames_after (device : Device σ) (trip : Trip σ) :
    (trip.after device).sentFrames = trip.before.sentFrames ++ (trip.sent? device).toList ∧
      (trip.after device).receivedFrames =
        trip.before.receivedFrames ++ (trip.reply? device).toList := by
  have heffect := trip.effect device
  generalize trip.sent? device = sent? at heffect ⊢
  generalize trip.arrivals device = arrivals at heffect
  generalize trip.reply? device = reply? at heffect ⊢
  generalize trip.after device = after at heffect ⊢
  cases heffect <;>
    simp [Session.sentFrames, Session.receivedFrames, Session.waiting, Session.sent,
      Session.received, Session.opened]

structure Adds (device : Device σ) (trip : Trip σ) (before after : Metrics) : Prop where
  framesSent : after.framesSent =
    before.framesSent + UInt64.ofNat (trip.sent? device).toList.length
  bytesSent : after.bytesSent =
    before.bytesSent + ((trip.sent? device).toList.map Frame.length).sum
  framesReceived : after.framesReceived =
    before.framesReceived + UInt64.ofNat (trip.reply? device).toList.length
  bytesReceived : after.bytesReceived =
    before.bytesReceived + ((trip.reply? device).toList.map Frame.length).sum
  statusErrors : after.statusErrors = before.statusErrors +
    if trip.endEvent? device = some .statusError then 1 else 0
  abandonedRoundTrips : after.abandonedRoundTrips = before.abandonedRoundTrips +
    if trip.endEvent? device = some .roundTripAbandoned then 1 else 0

theorem adds (device : Device σ) (trip : Trip σ) :
    trip.Adds device trip.before.metrics (trip.after device).metrics := by
  have hend := Metrics.endEvent?_cases (trip.sent? device).isSome (trip.outcome device)
  rw [metrics_after, counted]
  change trip.endEvent? device = none ∨ trip.endEvent? device = some .statusError ∨
    trip.endEvent? device = some .protocolError ∨
    trip.endEvent? device = some .roundTripAbandoned at hend
  rcases hend with hend | hend | hend | hend <;>
    rcases hsent : trip.sent? device with _ | sent <;>
    rcases hreply : trip.reply? device with _ | reply <;>
    constructor <;> simp [hend, hsent, hreply, Metrics.count]

end Trip

end FileConduit

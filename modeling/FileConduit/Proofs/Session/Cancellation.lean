import FileConduit.Client.Path
import FileConduit.Proofs.Session.Correlation
import FileConduit.Session.Script
import Mathlib.Data.List.Basic

/-!
# Cancellation

A client that is cancelled while a request is under way completes that round trip as if it had not
been, and makes none after it: every request is turned away before it reaches the channel, whatever
operation makes it.
-/

namespace FileConduit

def Device.uncancelled {σ : Type} (device : Device σ) : Device σ where
  react state request :=
    match device.react state request with
    | (.taken _ arrivals, state) => (.taken false arrivals, state)
    | (.refused fault, state) => (.refused fault, state)

namespace Session

variable {σ : Type} (session : Session σ)

@[simp] theorem cancel_cancelled : session.cancel.cancelled = true := rfl

@[simp] theorem cancel_config : session.cancel.config = session.config := rfl

theorem cancel_observe (answer : Except ReplyError α) :
    session.cancel.observe answer = (session.observe answer).cancel := by
  unfold observe
  split <;> rfl

/-- Waiting for a reply does not look whether the user has cancelled. -/
theorem cancel_awaitReply :
    session.cancel.awaitReply = (session.awaitReply.1, session.awaitReply.2.cancel) := by
  unfold awaitReply
  rw [show session.cancel.patience = session.patience from rfl,
    show session.cancel.inbox = session.inbox from rfl, cancel_config]
  cases hreceive : session.inbox.receive session.config.maxFrameLength session.patience with
  | mk receipt inbox => cases receipt <;> rfl

/-- A user who cancels while a request arrives does not change what becomes of it. -/
theorem exchange_cancelling {device : Device σ} {request : Request} {arrivals : List Arrival}
    (hflag : session.desynchronized = false)
    (hcancels : (device.react session.device request).1 = .taken true arrivals) :
    session.exchange device request =
      ((session.exchange device.uncancelled request).1,
        (session.exchange device.uncancelled request).2.cancel) := by
  cases hreact : device.react session.device request with
  | mk reaction state =>
      obtain rfl : reaction = .taken true arrivals := by rw [hreact] at hcancels; exact hcancels
      have hquiet : device.uncancelled.react session.device request =
          (.taken false arrivals, state) := by
        simp only [Device.uncancelled, hreact]
      have hwaiting : session.waiting request state true arrivals =
          (session.waiting request state false arrivals).cancel := by
        simp [waiting, sent, opened, cancel]
      rw [exchange_of_taken hflag hreact, exchange_of_taken hflag hquiet, hwaiting,
        cancel_awaitReply]

theorem call_cancelling {device : Device σ} {request : Request} {arrivals : List Arrival}
    (hcancelled : session.cancelled = false) (hflag : session.desynchronized = false)
    (hcancels : (device.react session.device request).1 = .taken true arrivals) :
    session.call device request =
      ((session.call device.uncancelled request).1,
        (session.call device.uncancelled request).2.cancel) := by
  have hexchange := session.exchange_cancelling hflag hcancels
  cases hquiet : session.exchange device.uncancelled request with
  | mk answer after =>
      rw [hquiet] at hexchange
      rcases answer with _ | error | reply
      · rw [call_of_none hcancelled hexchange, call_of_none hcancelled hquiet]
      · rw [call_of_error hcancelled hexchange, call_of_error hcancelled hquiet]
      · rw [call_of_reply hcancelled hexchange, call_of_reply hcancelled hquiet, cancel_observe,
          cancel_config]

end Session

namespace Trip

variable {σ : Type} {device : Device σ} {trip : Trip σ}

def Cancels (device : Device σ) (trip : Trip σ) : Prop :=
  trip.proceeds = true ∧
    ∃ arrivals, (device.react trip.before.device trip.request).1 = .taken true arrivals

/-- The round trip at which the user cancels is completed as if not cancelled. -/
theorem Cancels.completed (hcancels : trip.Cancels device) :
    trip.outcome device = trip.outcome device.uncancelled ∧
      trip.after device = (trip.after device.uncancelled).cancel := by
  obtain ⟨hproceeds, arrivals, hreact⟩ := hcancels
  simp only [proceeds, Bool.and_eq_true, Bool.not_eq_true'] at hproceeds
  have hcall := trip.before.call_cancelling hproceeds.1 hproceeds.2 hreact
  unfold outcome after
  rw [hcall]
  exact ⟨rfl, rfl⟩

/-- Whether a round trip is turned away because of a cancellation before it. -/
structure TurnedAway (device : Device σ) (trip : Trip σ) : Prop where
  unsent : trip.sent? device = none
  outcome : trip.outcome device = some (.error .cancelled)
  after : trip.after device = trip.before

theorem turnedAway (hcancelled : trip.before.cancelled = true) : trip.TurnedAway device where
  unsent := by simp [sent?, proceeds, hcancelled]
  outcome := congrArg Prod.fst (Session.call_of_cancelled hcancelled)
  after := congrArg Prod.snd (Session.call_of_cancelled hcancelled)

/-- A client is cancelled by the round trip at which the user cancels, and by no other. -/
theorem cancelled_after_iff (device : Device σ) (trip : Trip σ) :
    (trip.after device).cancelled = true ↔
      trip.before.cancelled = true ∨ trip.Cancels device := by
  have hcourse := trip.course device
  unfold Cancels proceeds
  generalize trip.outcome device = outcome at hcourse
  generalize trip.after device = after at hcourse
  cases hcourse with
  | cancelled hcancelled => simp [hcancelled]
  | desynchronized hcancelled hflag => simp [hflag]
  | refused hcancelled hflag hreact => simp [Session.opened, hcancelled, hreact]
  | brokenOff hcancelled hflag hreact hreceipt hfailure =>
      obtain ⟨metrics, hmetrics⟩ := Session.countAny_eq
        { trip.before.waiting trip.request _ _ _ with inbox := _ } _
      rw [hmetrics, hcancelled, hflag, hreact]
      simp [Session.waiting, Session.sent, Session.opened, hcancelled]
  | givenUp hcancelled hflag hreact hreceipt =>
      rw [hcancelled, hflag, hreact]
      simp [Session.waiting, Session.sent, Session.opened, hcancelled]
  | answered hcancelled hflag hreact hreceipt =>
      obtain ⟨metrics, hmetrics⟩ := Session.observe_eq
        ({ trip.before.waiting trip.request _ _ _ with inbox := _ }.received _)
        (trip.request.answer trip.before.config.tellByteOrder _)
      rw [hmetrics, hcancelled, hflag, hreact]
      simp [Session.received, Session.waiting, Session.sent, Session.opened, hcancelled]

end Trip

/-! ## Sessions after a cancellation -/

namespace Session

variable {σ : Type} {device : Device σ} {start middle final : Session σ}
  {trips earlier later : List (Trip σ)} {trip : Trip σ}

theorem Aside.refl (session : Session σ) : Aside session session :=
  ⟨rfl, rfl, rfl, rfl, rfl, rfl, rfl, id⟩

theorem Aside.trans (hfirst : Aside start middle) (hsecond : Aside middle final) :
    Aside start final where
  config := hsecond.config.trans hfirst.config
  device := hsecond.device.trans hfirst.device
  inbox := hsecond.inbox.trans hfirst.inbox
  packetNumber := hsecond.packetNumber.trans hfirst.packetNumber
  desynchronized := hsecond.desynchronized.trans hfirst.desynchronized
  metrics := hsecond.metrics.trans hfirst.metrics
  traffic := hsecond.traffic.trans hfirst.traffic
  cancelled hcancelled := hsecond.cancelled (hfirst.cancelled hcancelled)

/-- What comes after a round trip is reached from where it has led. -/
theorem Reach.rest_of_append (hreach : Reach device start trips final)
    (hall : trips = earlier ++ trip :: later) : Reach device (trip.after device) later final := by
  induction hreach generalizing later with
  | start => simp at hall
  | aside _ haside ih => exact .aside (ih hall) haside
  | @trip trips before request hreach ih =>
      rcases List.eq_nil_or_concat later with rfl | ⟨init, last, rfl⟩
      · obtain ⟨-, hlast⟩ := List.append_inj' hall rfl
        cases hlast
        exact .start
      · rw [List.concat_eq_append, ← List.cons_append, ← List.append_assoc] at hall
        obtain ⟨hinit, hlast⟩ := List.append_inj' hall rfl
        cases hlast
        rw [List.concat_eq_append]
        exact .trip request (ih hinit)

/-- Without a round trip there are only steps aside. -/
theorem Reach.aside_of_nil (hreach : Reach device start trips final) (hnone : trips = []) :
    Aside start final := by
  induction hreach with
  | start => exact .refl start
  | aside _ haside ih => exact (ih hnone).trans haside
  | trip request _ _ => simp at hnone

/-- From a session that is cancelled, nothing leads to another connection. -/
theorem Reach.of_cancelled (hreach : Reach device start trips final)
    (hcancelled : start.cancelled = true) :
    Aside start final ∧ ∀ trip ∈ trips, trip.TurnedAway device := by
  induction hreach with
  | start => exact ⟨.refl start, by simp⟩
  | aside _ haside ih => exact ⟨ih.1.trans haside, ih.2⟩
  | @trip trips before request _ ih =>
      obtain ⟨haside, hturned⟩ := ih
      have hturn : Trip.TurnedAway device ⟨before, request⟩ :=
        Trip.turnedAway (haside.cancelled hcancelled)
      refine ⟨?_, ?_⟩
      · rw [show (before.call device request).2 = before from hturn.after]
        exact haside
      · intro trip htrip
        rcases List.mem_append.mp htrip with hearlier | hlast
        · exact hturned trip hearlier
        · rw [List.mem_singleton.mp hlast]
          exact hturn

end Session

/-! ## Operations of one round trip -/

namespace Client

/-- The operations that consist of one round trip, given arguments that are valid; and writes, in
however many chunks. -/
inductive Single : {α : Type} → Program α → Prop where
  | openFile (path : String) (mode : OpenMode) : Single (openFile path mode)
  | close (handle : Handle) : Single (close handle)
  | tell (handle : Handle) : Single (tell handle)
  | lock (handle : Handle) (mode : LockMode) : Single (lock handle mode)
  | resize (handle : Handle) (size : UInt64) : Single (resize handle size)
  | seek (handle : Handle) {target : SeekTarget} {parameters : SeekParameters}
      (hvalid : target.parameters = .ok parameters) : Single (seek handle target)
  | readOnce (config : ClientConfig) (handle : Handle) (wanted : Nat) :
      Single (readOnce config handle wanted)
  | writeChunked (handle : Handle) (data : Bytes) {size : Nat} (hvalid : size ≠ 0) :
      Single (writeChunked handle data size)
  | stat (path : String) : Single (stat path)
  | pathExists (path : String) : Single (pathExists path)
  | isDirectory (path : String) : Single (isDirectory path)
  | resolve (path : String) : Single (resolve path)
  | listDirectory (path : String) : Single (listDirectory path)
  | makeDirectory (path : String) : Single (makeDirectory path)
  | rename (source destination : String) : Single (rename source destination)
  | makeLink (kind : LinkKind) (target link : String) : Single (makeLink kind target link)
  | deviceInfo : Single deviceInfo

end Client

namespace Session

variable {σ : Type} {device : Device σ} {session : Session σ}

/-- A program whose first request is turned away, and that passes that on. -/
theorem run_turnedAway (hcancelled : session.cancelled = true) {request : Request}
    {next : Except ClientError request.Answer → Program α}
    (hnext : next (.error .cancelled) = .done (.error .cancelled)) :
    session.run device (.call request next) = (.finished (.error .cancelled), session) := by
  rw [run, call_of_cancelled hcancelled]
  show run device (next (.error .cancelled)) session = _
  rw [hnext, run]

theorem run_single (hcancelled : session.cancelled = true) {program : Program α}
    (hsingle : Client.Single program) :
    session.run device program = (.finished (.error .cancelled), session) := by
  cases hsingle with
  | seek handle hvalid =>
      rw [Client.seek, hvalid]
      exact run_turnedAway hcancelled rfl
  | writeChunked handle data hvalid =>
      -- A write looks whether it is cancelled even if it has no chunks.
      rw [Client.writeChunked, WriteChunk.ofData, if_neg hvalid]
      show run device (.checkpoint fun cancelled => Program.andThen _ _) session = _
      rw [run, hcancelled]
      rfl
  | _ => exact run_turnedAway hcancelled rfl

theorem runFor_single (hcancelled : session.cancelled = true) (span : Option Duration)
    {program : Program α} (hsingle : Client.Single program) :
    (session.runFor device span program).1 = .finished (.error .cancelled) := by
  have hgivingUp : (session.givingUp span).cancelled = true := hcancelled
  have hrun : (session.givingUp span).run device program =
      (.finished (.error .cancelled), session.givingUp span) := run_single hgivingUp hsingle
  exact congrArg Prod.fst hrun

/-- A read into a buffer tells its failure beside the buffer. -/
theorem runFor_readInto (hcancelled : session.cancelled = true) (span : Option Duration)
    (config : ClientConfig) (handle : Handle) (buffer : Bytes) :
    (session.runFor device span (Client.readInto config handle buffer)).1 =
      .finished (.ok (.error .cancelled, buffer)) := by
  have hrun : (session.givingUp span).run device (Client.readInto config handle buffer) =
      (.finished (.ok (.error .cancelled, buffer)), session.givingUp span) := by
    have hturned : (session.givingUp span).call device
        (.read handle (UInt64.ofNat (Client.readSize config buffer.length))) =
        (some (.error .cancelled), session.givingUp span) := call_of_cancelled hcancelled
    show run device (.call _ fun answer => Program.andThen (.done answer) _) _ = _
    rw [run, hturned]
    rfl
  exact congrArg Prod.fst hrun

theorem runFor_aside (hcancelled : session.cancelled = true) (span : Option Duration)
    (program : Program α) : Aside session (session.runFor device span program).2 :=
  ((reach_use device session (.operation program span)).of_cancelled hcancelled).1

end Session

/-- When a user cancels while a request is under way, that round trip is completed as if not
cancelled, and everything on the wire is the whole frames of the requests up to it.  No round trip
after it does anything, in whatever operation, and each operation of one round trip is told of the
cancellation. -/
theorem cancellation_between_frames {σ : Type} (device : Device σ) (config : ClientConfig)
    (state : σ) (host : HostTree) (unasked : List Arrival) (uses : List Use)
    {earlier later : List (Trip σ)} {trip : Trip σ}
    (htrips : (Session.fresh config state host unasked).trips device uses =
      earlier ++ trip :: later)
    (hcancels : trip.Cancels device) :
    let final := (Session.fresh config state host unasked).afterUses device uses
    (trip.outcome device = trip.outcome device.uncancelled ∧
      trip.after device = (trip.after device.uncancelled).cancel) ∧
    (∀ other ∈ later, other.TurnedAway device) ∧
    final.wire = (Request.frames 0 ((Trip.sending device (earlier ++ [trip])).map
      Trip.request)).flatMap Frame.encode ∧
    final.desynchronized = (trip.after device.uncancelled).desynchronized ∧
    final.metrics = (trip.after device.uncancelled).metrics ∧
    ∀ span : Option Duration,
      (∀ {α : Type} (program : Program α),
        Session.Aside final (final.runFor device span program).2 ∧
        (Client.Single program →
          (final.runFor device span program).1 = .finished (.error .cancelled))) ∧
      ∀ (handle : Handle) (buffer : Bytes),
        (final.runFor device span (Client.readInto config handle buffer)).1 =
          .finished (.ok (.error .cancelled, buffer)) := by
  intro final
  have hreach := Session.reach_afterUses device (.fresh config state host unasked) uses
  obtain ⟨houtcome, hafter⟩ := hcancels.completed
  have hcancelled : (trip.after device).cancelled = true := by
    rw [hafter, Session.cancel_cancelled]
  obtain ⟨haside, hturned⟩ := (hreach.rest_of_append htrips).of_cancelled hcancelled
  have hcorrelated : Session.Correlated device config unasked (earlier ++ [trip])
    (trip.after device) := .of_reach (hreach.after_of_append htrips)
  have hwire : final.wire = (trip.after device).wire := by
    simp only [Session.wire, Session.sentFrames, final, haside.traffic]
  have hfinal : final.cancelled = true := haside.cancelled hcancelled
  refine ⟨⟨houtcome, hafter⟩, hturned, ?_, ?_, ?_, fun span => ⟨fun program => ?_, ?_⟩⟩
  · rw [hwire, Session.wire, hcorrelated.sent]
  · rw [show final.desynchronized = _ from haside.desynchronized, hafter]
    rfl
  · rw [show final.metrics = _ from haside.metrics, hafter]
    rfl
  · exact ⟨Session.runFor_aside hfinal span program, Session.runFor_single hfinal span⟩
  · exact Session.runFor_readInto hfinal span config

def Script.cancelsSecond : Session Script :=
  let acknowledged : List Arrival := [.bytes (wordReply .status 0)]
  .fresh {} ⟨[⟨false, acknowledged⟩, ⟨true, acknowledged⟩, ⟨false, acknowledged⟩], 0, none, none,
    false⟩ (.empty "host") []

def Use.threeChunks : List Use :=
  [.operation (Client.writeChunked ⟨1⟩ [1, 2, 3, 4, 5] 2) none]

/-- The second chunk is completed, and the third is not sent any more. -/
theorem cancellation_between_chunks :
    let trips := Script.cancelsSecond.trips Script.device Use.threeChunks
    let final := Script.cancelsSecond.afterUses Script.device Use.threeChunks
    ∃ first second third, trips = [first] ++ second :: [third] ∧ second.Cancels Script.device ∧
      third.TurnedAway Script.device ∧
      final.sentFrames.map Frame.payload =
        [[1, 0, 0, 0, 0, 0, 0, 0, 1, 2], [1, 0, 0, 0, 0, 0, 0, 0, 3, 4]] ∧
      (final.runFor Script.device none (Client.close ⟨1⟩)).1 = .finished (.error .cancelled) := by
  have hlength : (Script.cancelsSecond.trips Script.device Use.threeChunks).length = 3 := by cbv
  obtain ⟨first, second, third, hthree⟩ := List.length_eq_three.mp hlength
  have htrips : Script.cancelsSecond.trips Script.device Use.threeChunks =
      [first] ++ second :: [third] := hthree
  have hcancels : second.Cancels Script.device := by
    have hsecond : second =
        (Script.cancelsSecond.trips Script.device Use.threeChunks)[1] := by simp [hthree]
    rw [hsecond]
    exact ⟨by cbv, [.bytes (Script.wordReply .status 0)], by cbv⟩
  obtain ⟨-, hlater, -, -, -, hthen⟩ := cancellation_between_frames Script.device {} _
    (.empty "host") [] Use.threeChunks htrips hcancels
  refine ⟨first, second, third, htrips, hcancels, hlater third (by simp), by cbv, ?_⟩
  exact ((hthen none).1 (Client.close ⟨1⟩)).2 (.close ⟨1⟩)

end FileConduit

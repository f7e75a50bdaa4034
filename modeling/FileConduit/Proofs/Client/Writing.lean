import FileConduit.Client.File
import FileConduit.Proofs.Program.Rounds
import FileConduit.Proofs.Request.Chunk
import FileConduit.Proofs.Session.Sending
import FileConduit.Session.Script

/-!
# Chunked writes

A write sends its chunks from the first one on, each when the one before it has been acknowledged,
and ends with the first that is not.  So what a device has that keeps each chunk it acknowledges is
always the front of the data.
-/

namespace FileConduit

def Outcome.ofAnswer : Option (Except ClientError α) → Outcome α
  | none => .abandoned
  | some result => .finished result

namespace Trip

variable {σ : Type} (device : Device σ)

def stored? (trip : Trip σ) : Option WriteChunk :=
  match trip.request with
  | .write chunk => if trip.acknowledged device then some chunk else none
  | _ => none

/-- What a device keeps that keeps each chunk which it acknowledges. -/
def stored (trips : List (Trip σ)) : List WriteChunk :=
  trips.filterMap (stored? device)

variable {device} {before : Session σ} {chunk : WriteChunk} {trips : List (Trip σ)}

/-- A chunk that is acknowledged has been sent and is kept. -/
theorem stored_cons (houtcome : outcome device ⟨before, .write chunk⟩ = some (.ok ())) :
    stored device (⟨before, .write chunk⟩ :: trips) = chunk :: stored device trips ∧
      sending device (⟨before, .write chunk⟩ :: trips) =
        ⟨before, .write chunk⟩ :: sending device trips := by
  have hacknowledged := (acknowledged_write_iff device before chunk).mpr houtcome
  obtain ⟨reply, hreply, -⟩ := reply?_of_outcome houtcome
  constructor
  · simp [stored, stored?, hacknowledged]
  · simp [sending, sent?_of_reply? hreply]

theorem stored_single (houtcome : outcome device ⟨before, .write chunk⟩ ≠ some (.ok ())) :
    stored device [⟨before, .write chunk⟩] = [] := by
  have hacknowledged : ¬acknowledged device ⟨before, .write chunk⟩ = true :=
    fun hacknowledged => houtcome ((acknowledged_write_iff device before chunk).mp hacknowledged)
  simp [stored, stored?, hacknowledged]

end Trip

namespace Client

section

variable {σ : Type}

/-- How chunks are sent: each is acknowledged before the next one, and the first that is not is the
last. -/
inductive Sends (device : Device σ) :
    List WriteChunk → List (Trip σ) → Outcome Unit → Prop where
  | ended : Sends device [] [] (.finished (.ok ()))
  | acknowledged {before : Session σ} {chunk : WriteChunk} {chunks : List WriteChunk}
      {trips : List (Trip σ)} {outcome : Outcome Unit}
      (houtcome : Trip.outcome device ⟨before, .write chunk⟩ = some (.ok ()))
      (hrest : Sends device chunks trips outcome) :
      Sends device (chunk :: chunks) (⟨before, .write chunk⟩ :: trips) outcome
  | stopped (before : Session σ) (chunk : WriteChunk) (chunks : List WriteChunk)
      (houtcome : Trip.outcome device ⟨before, .write chunk⟩ ≠ some (.ok ())) :
      Sends device (chunk :: chunks) [⟨before, .write chunk⟩]
        (.ofAnswer (Trip.outcome device ⟨before, .write chunk⟩))

theorem sendChunks_cons (chunk : WriteChunk) (chunks : List WriteChunk) :
    sendChunks (chunk :: chunks) = .call (.write chunk) fun answer =>
      match answer with
      | .error error => .fail error
      | .ok () => sendChunks chunks := by
  refine congrArg (Program.call _) (funext fun answer => ?_)
  cases answer <;> rfl

theorem sendChunks_sends (device : Device σ) (chunks : List WriteChunk) :
    ∀ session : Session σ, Sends device chunks (session.programTrips device (sendChunks chunks))
      (session.run device (sendChunks chunks)).1 := by
  induction chunks with
  | nil =>
      intro session
      exact .ended
  | cons chunk chunks ih =>
      intro session
      rw [sendChunks_cons, Session.programTrips, Session.run]
      have hstopped := @Sends.stopped σ device session chunk chunks
      cases hcall : session.call device (.write chunk) with
      | mk answer after =>
          have houtcome : Trip.outcome device ⟨session, .write chunk⟩ = answer :=
            congrArg Prod.fst hcall
          rw [houtcome] at hstopped
          rcases answer with _ | error | _
          · exact hstopped (by simp)
          · exact hstopped (by simp)
          · exact .acknowledged houtcome (ih after)

variable {device : Device σ} {chunks : List WriteChunk} {trips : List (Trip σ)}
  {outcome : Outcome Unit}

/-- What is acknowledged is the first of the chunks. -/
theorem Sends.stored_prefix (hsends : Sends device chunks trips outcome) :
    Trip.stored device trips <+: chunks := by
  induction hsends with
  | ended => exact List.prefix_rfl
  | acknowledged houtcome hrest ih =>
      rw [(Trip.stored_cons houtcome).1]
      exact (List.prefix_cons_inj _).mpr ih
  | stopped before chunk chunks houtcome =>
      rw [Trip.stored_single houtcome]
      exact List.nil_prefix

/-- At most one chunk more goes out than is acknowledged, and none more if the write was
cancelled. -/
theorem Sends.sending (hsends : Sends device chunks trips outcome) :
    ∃ sent, sent <+: chunks ∧
      (Trip.sending device trips).map Trip.request = sent.map Request.write ∧
      (sent = Trip.stored device trips ∨
        outcome ≠ .finished (.error .cancelled) ∧
          ∃ chunk, sent = Trip.stored device trips ++ [chunk]) := by
  induction hsends with
  | ended => exact ⟨[], List.prefix_rfl, rfl, .inl rfl⟩
  | @acknowledged before chunk chunks trips outcome houtcome hrest ih =>
      obtain ⟨sent, hprefix, hrequests, hsent⟩ := ih
      obtain ⟨hstored, hsending⟩ := @Trip.stored_cons σ device before chunk trips houtcome
      refine ⟨chunk :: sent, (List.prefix_cons_inj _).mpr hprefix, ?_, ?_⟩
      · rw [hsending, List.map_cons, hrequests, List.map_cons]
      · rw [hstored]
        rcases hsent with rfl | ⟨hother, last, rfl⟩
        · exact .inl rfl
        · exact .inr ⟨hother, last, rfl⟩
  | stopped before chunk chunks houtcome =>
      rw [Trip.stored_single houtcome]
      cases hsent : Trip.sent? device ⟨before, .write chunk⟩ with
      | none => exact ⟨[], List.nil_prefix, by simp [Trip.sending, hsent], .inl rfl⟩
      | some frame =>
          refine ⟨[chunk], List.prefix_append [chunk] chunks, by simp [Trip.sending, hsent],
            .inr ⟨fun hcancelled => ?_, chunk, rfl⟩⟩
          have hturned : Trip.outcome device ⟨before, .write chunk⟩ =
              some (.error .cancelled) := by
            generalize Trip.outcome device ⟨before, .write chunk⟩ = answer at hcancelled
            cases answer <;> cases hcancelled
            rfl
          rw [Trip.sent?_of_cancelled hturned] at hsent
          cases hsent

/-- A write succeeds just when every chunk is acknowledged. -/
theorem Sends.succeeds_iff (hsends : Sends device chunks trips outcome) :
    outcome = .finished (.ok ()) ↔ Trip.stored device trips = chunks := by
  induction hsends with
  | ended => exact iff_of_true rfl rfl
  | acknowledged houtcome hrest ih =>
      rw [ih, (Trip.stored_cons houtcome).1, List.cons_inj_right]
  | stopped before chunk chunks houtcome =>
      rw [Trip.stored_single houtcome]
      refine iff_of_false (fun hended => houtcome ?_) (by simp)
      generalize Trip.outcome device ⟨before, .write chunk⟩ = answer at hended
      cases answer <;> cases hended
      rfl

/-- The chunks are asked to be written from the first one on, and a write that does not succeed
ends as the last of them does, which is the only one that is not acknowledged. -/
theorem Sends.course (hsends : Sends device chunks trips outcome) :
    trips.map Trip.request <+: chunks.map Request.write ∧
      (outcome = .finished (.ok ()) ∨
        ∃ earlier before chunk, trips = earlier ++ [⟨before, .write chunk⟩] ∧
          (∀ trip ∈ earlier, trip.acknowledged device = true) ∧
          Trip.acknowledged device ⟨before, .write chunk⟩ = false ∧
          outcome = .ofAnswer (Trip.outcome device ⟨before, .write chunk⟩)) := by
  induction hsends with
  | ended => exact .intro List.nil_prefix (.inl rfl)
  | @acknowledged before chunk chunks trips outcome houtcome hrest ih =>
      obtain ⟨hrequests, hends⟩ := ih
      refine ⟨(List.prefix_cons_inj _).mpr hrequests, hends.imp id ?_⟩
      rintro ⟨earlier, last, stop, rfl, hearlier, hlast, hended⟩
      have hfirst := (Trip.acknowledged_write_iff device before chunk).mpr houtcome
      exact ⟨_ :: earlier, last, stop, rfl, List.forall_mem_cons.mpr ⟨hfirst, hearlier⟩, hlast,
        hended⟩
  | stopped before chunk chunks houtcome =>
      refine ⟨List.prefix_append [_] _, .inr ⟨[], before, chunk, rfl, by simp, ?_, rfl⟩⟩
      rw [← Bool.not_eq_true]
      exact fun hacknowledged =>
        houtcome ((Trip.acknowledged_write_iff device before chunk).mp hacknowledged)

end

/-- A write looks whether it is cancelled before it sends anything. -/
theorem writeChunked_eq (handle : Handle) (data : Bytes) {size : Nat} (hsize : 0 < size) :
    writeChunked handle data size = .checkpoint fun cancelled =>
      if cancelled then .fail .cancelled else sendChunks (WriteChunk.cut handle size data) := by
  rw [writeChunked, WriteChunk.ofData_cut handle hsize data]
  refine congrArg Program.checkpoint (funext fun cancelled => ?_)
  cases cancelled <;> rfl

theorem writeChunked_sends {σ : Type} (device : Device σ) (session : Session σ) (handle : Handle)
    (data : Bytes) {size : Nat} (hsize : 0 < size) :
    let trips := session.programTrips device (writeChunked handle data size)
    let outcome := (session.run device (writeChunked handle data size)).1
    session.cancelled = true ∧ trips = [] ∧ outcome = .finished (.error .cancelled) ∨
      session.cancelled = false ∧
        Sends device (WriteChunk.cut handle size data) trips outcome := by
  rw [writeChunked_eq handle data hsize, Session.programTrips, Session.run]
  cases session.cancelled with
  | true => exact .inl ⟨rfl, rfl, rfl⟩
  | false => exact .inr ⟨rfl, sendChunks_sends device _ session⟩

end Client

/-- What goes out of a write is its first chunks, in order, and at most one more than is
acknowledged.  Each is acknowledged before the next one is asked to be written, so that what a
device has that keeps them is the front of the data at any time.  The write succeeds just when it is
not cancelled at its beginning and every chunk is acknowledged, and otherwise it fails as the first
round trip that is not. -/
theorem write_keeps_front {σ : Type} (device : Device σ) (session : Session σ) (handle : Handle)
    (data : Bytes) {size : Nat} (hsize : 0 < size) :
    let chunks := WriteChunk.cut handle size data
    let program := Client.writeChunked handle data size
    let trips := session.programTrips device program
    let stored := Trip.stored device trips
    let outcome := (session.run device program).1
    let final := (session.run device program).2
    trips.map Trip.request <+: chunks.map Request.write ∧
    (∃ sent, sent <+: chunks ∧
      final.sentFrames = session.sentFrames ++
        Request.frames session.packetNumber (sent.map Request.write) ∧
      (sent = stored ∨ outcome ≠ .finished (.error .cancelled) ∧
        ∃ chunk, sent = stored ++ [chunk])) ∧
    (outcome = .finished (.ok ()) ↔ session.cancelled = false ∧ stored = chunks) ∧
    (outcome = .finished (.ok ()) ∨
      session.cancelled = true ∧ trips = [] ∧ outcome = .finished (.error .cancelled) ∨
      ∃ earlier before chunk, trips = earlier ++ [⟨before, .write chunk⟩] ∧
        (∀ trip ∈ earlier, trip.acknowledged device = true) ∧
        Trip.acknowledged device ⟨before, .write chunk⟩ = false ∧
        outcome = .ofAnswer (Trip.outcome device ⟨before, .write chunk⟩)) ∧
    (∀ made, made <+: trips →
      (Trip.stored device made).flatMap WriteChunk.data =
        data.take (min ((Trip.stored device made).length * size) data.length)) := by
  intro chunks program trips stored outcome final
  obtain ⟨hframes, -⟩ := (Session.reach_run device program session).sends
  have hkeeps : stored <+: chunks → ∀ made, made <+: trips →
      (Trip.stored device made).flatMap WriteChunk.data =
        data.take (min ((Trip.stored device made).length * size) data.length) := by
    intro hstored made hmade
    have hprefix : Trip.stored device made <+: chunks := (hmade.filterMap _).trans hstored
    rw [← WriteChunk.data_take_cut handle hsize, ← List.prefix_iff_eq_take.mp hprefix]
  rcases Client.writeChunked_sends device session handle data hsize with
    ⟨hcancelled, htrips, houtcome⟩ | ⟨hcancelled, hsends⟩
  · have hnone : trips = [] := htrips
    have hstored : stored = [] := congrArg (Trip.stored device) hnone
    refine ⟨?_, ⟨[], List.nil_prefix, ?_, .inl hstored.symm⟩, ?_, .inr (.inl ?_), hkeeps ?_⟩
    · rw [hnone]
      exact List.nil_prefix
    · rw [hframes, show session.programTrips device program = [] from hnone]
      rfl
    · rw [show outcome = _ from houtcome, hcancelled]
      simp
    · exact ⟨hcancelled, hnone, houtcome⟩
    · rw [hstored]
      exact List.nil_prefix
  · obtain ⟨sent, hprefix, hrequests, hsent⟩ := hsends.sending
    obtain ⟨hasked, hends⟩ := hsends.course
    refine ⟨hasked, ⟨sent, hprefix, ?_, hsent⟩, ?_, hends.imp id .inr,
      hkeeps hsends.stored_prefix⟩
    · rw [hframes, show (Trip.sending device _).map Trip.request = _ from hrequests]
    · rw [show outcome = _ ↔ _ from hsends.succeeds_iff, hcancelled]
      simp [stored, chunks, trips, program]

def Script.refusesSecond : Session Script :=
  .fresh {} ⟨[code 0, code 10, code 0], 0, none, none, false⟩ (.empty "host") []

/-- Two of three chunks are sent, and the first of them is kept. -/
theorem write_keeps_front_refused :
    let program := Client.writeChunked ⟨7⟩ [1, 2, 3, 4, 5] 2
    let trips := Script.refusesSecond.programTrips Script.device program
    0 < 2 ∧
      (Script.refusesSecond.run Script.device program).1 =
        .finished (.error (.reply (.status .permissionDenied))) ∧
      trips.length = 2 ∧
      (Trip.stored Script.device trips).flatMap WriteChunk.data = [1, 2] := by
  obtain ⟨-, -, -, -, hfront⟩ := write_keeps_front Script.device Script.refusesSecond ⟨7⟩
    [1, 2, 3, 4, 5] (show 0 < 2 by decide)
  have hacknowledged : (Trip.stored Script.device (Script.refusesSecond.programTrips Script.device
      (Client.writeChunked ⟨7⟩ [1, 2, 3, 4, 5] 2))).length = 1 := by cbv
  have hkept := hfront _ List.prefix_rfl
  rw [hacknowledged] at hkept
  exact ⟨by decide, by cbv, by cbv, hkept⟩

def Script.cancelledFirst : Session Script :=
  Session.cancel (.fresh {} ⟨[], 0, none, none, false⟩ (.empty "host") [])

/-- A write of nothing has no chunk that could fail to be acknowledged, and fails when it is
cancelled at its beginning. -/
theorem write_nothing_cancelled :
    let program := Client.writeChunked ⟨1⟩ [] 4
    let trips := Script.cancelledFirst.programTrips Script.device program
    let outcome := (Script.cancelledFirst.run Script.device program).1
    outcome = .finished (.error .cancelled) ∧
      ¬(outcome = .finished (.ok ()) ↔
        Trip.stored Script.device trips = WriteChunk.cut ⟨1⟩ 4 []) := by
  intro program trips outcome
  have houtcome : outcome = .finished (.error .cancelled) := by cbv
  have hstored : Trip.stored Script.device trips = WriteChunk.cut ⟨1⟩ 4 [] := by cbv
  refine ⟨houtcome, fun hiff => ?_⟩
  have hsucceeds := hiff.mpr hstored
  rw [houtcome] at hsucceeds
  cases hsucceeds

end FileConduit

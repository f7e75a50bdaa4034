import FileConduit.Proofs.Client.Reading
import FileConduit.Session.Script

/-!
# Reads into a buffer

A read into a buffer is one round trip.  It asks for what the buffer holds, up to the size that one
read may have, and only so much of the buffer is open to the reply.  Data that fits in there is put
at the front.  Of any other reply nothing is taken, even if the whole buffer has room for it, and no
failure of the round trip changes a byte.
-/

namespace FileConduit

namespace Buffer

structure Filled (before data after : Bytes) : Prop where
  length : after.length = before.length
  front : after.take data.length = data
  rest : ∀ index, data.length ≤ index → after[index]? = before[index]?

/-- Opens only the first bytes of a buffer to what writes to it. -/
def within (size : Nat) (write : Bytes → α × Bytes) (buffer : Bytes) : α × Bytes :=
  let (result, front) := write (buffer.take size)
  (result, front ++ buffer.drop size)

variable {buffer data before after : Bytes} {size : Nat}

theorem filled_fill (hfits : data.length ≤ buffer.length) :
    Filled buffer data (fill buffer data) where
  length := by
    rw [fill, List.length_append, List.length_drop]
    omega
  front := List.take_left
  rest index hbehind := by
    rw [fill, List.getElem?_append_right hbehind, List.getElem?_drop, Nat.add_sub_cancel' hbehind]

/-- There is only one way to put data at the front of a buffer and keep the rest. -/
theorem Filled.eq_fill (hfilled : Filled before data after) : after = fill before data := by
  have hrest : after.drop data.length = before.drop data.length := by
    refine List.ext_getElem? fun index => ?_
    rw [List.getElem?_drop, List.getElem?_drop]
    exact hfilled.rest _ (Nat.le_add_right _ _)
  calc
    after = after.take data.length ++ after.drop data.length := (List.take_append_drop _ _).symm
    _ = fill before data := by rw [hfilled.front, hrest, fill]

/-- To put data into the open part of a buffer is to put it into the buffer, if it fits there. -/
theorem fill_take_append (hfits : data.length ≤ size) :
    fill (buffer.take size) data ++ buffer.drop size = fill buffer data := by
  have hbehind : buffer.drop size = (buffer.drop data.length).drop (size - data.length) := by
    rw [List.drop_drop, Nat.add_sub_cancel' hfits]
  have hrest : (buffer.take size).drop data.length ++ buffer.drop size =
      buffer.drop data.length := by
    rw [List.drop_take, hbehind, List.take_append_drop]
  rw [fill, fill, List.append_assoc, hrest]

end Buffer

/-- What becomes of a buffer of which a part is open to a reply. -/
theorem Reply.within_fill {buffer : Bytes} {size : Nat} (hsize : size ≤ buffer.length)
    (reply : Frame) :
    Buffer.within size (fill · reply) buffer =
      match data size reply with
      | .ok data => (.ok data.length, Buffer.fill buffer data)
      | .error error => (.error error, buffer) := by
  have hlength : (buffer.take size).length = size := List.length_take_of_le hsize
  simp only [Buffer.within, fill, hlength]
  cases hdata : data size reply with
  | ok payload =>
      obtain ⟨-, -, hfits⟩ := data_ok_iff.mp hdata
      exact Prod.ext rfl (Buffer.fill_take_append hfits)
  | error error => exact Prod.ext rfl (List.take_append_drop size buffer)

def Outcome.ofFilling (buffer : Bytes) :
    Option (Except ClientError Bytes) → Outcome (Except ClientError Nat × Bytes)
  | none => .abandoned
  | some (.ok data) => .finished (.ok (.ok data.length, Buffer.fill buffer data))
  | some (.error error) => .finished (.ok (.error error, buffer))

namespace Outcome

variable {buffer after : Bytes} {answer : Option (Except ClientError Bytes)}

theorem ofFilling_ok_iff {count : Nat} :
    ofFilling buffer answer = .finished (.ok (.ok count, after)) ↔
      ∃ data, answer = some (.ok data) ∧ count = data.length ∧ after = Buffer.fill buffer data := by
  rcases answer with _ | error | data
  · simp [ofFilling]
  · simp [ofFilling]
  · simp [ofFilling, eq_comm]

theorem ofFilling_error_iff {error : ClientError} :
    ofFilling buffer answer = .finished (.ok (.error error, after)) ↔
      answer = some (.error error) ∧ after = buffer := by
  rcases answer with _ | error | data
  · simp [ofFilling]
  · simp [ofFilling, eq_comm]
  · simp [ofFilling]

theorem ofFilling_ended (hanswer : answer ≠ none) :
    ∃ result after, ofFilling buffer answer = .finished (.ok (result, after)) := by
  rcases answer with _ | error | data
  · exact absurd rfl hanswer
  · exact ⟨_, _, rfl⟩
  · exact ⟨_, _, rfl⟩

end Outcome

namespace Client

/-- A read into a buffer is one round trip, and ends with it. -/
theorem readInto_single {σ : Type} (device : Device σ) (session : Session σ)
    (config : ClientConfig) (handle : Handle) (buffer : Bytes) :
    let trip : Trip σ := ⟨session, .read handle (.ofNat (readSize config buffer.length))⟩
    session.programTrips device (readInto config handle buffer) = [trip] ∧
      (session.run device (readInto config handle buffer)).1 =
        .ofFilling buffer (trip.outcome device) := by
  intro trip
  unfold readInto readOnce Program.request
  rw [Program.andThen, Session.programTrips, Session.run]
  cases hcall : session.call device trip.request with
  | mk answer after =>
      have houtcome : trip.outcome device = answer := congrArg Prod.fst hcall
      rw [houtcome]
      rcases answer with _ | error | data <;> exact ⟨rfl, rfl⟩

end Client

/-- A read into a buffer is one round trip, which asks for what the buffer holds, up to the size
that one read may have, and it comes to a result unless the caller gives up.  It succeeds just with
data that is no longer than was asked for: the bytes are counted, they stand at the front of the
buffer, and every other byte is as before.  It fails just as its round trip does, with the whole
buffer as before; so it does with longer data, although the buffer may have room for it.  Whatever
the reply, only as much of the buffer is open to it as was asked for. -/
theorem read_fills_front {σ : Type} (device : Device σ) (session : Session σ)
    (config : ClientConfig) (handle : Handle) (buffer : Bytes) :
    let program := Client.readInto config handle buffer
    let outcome := (session.run device program).1
    ∃ size : UInt64, size.toNat = min buffer.length config.maxReadSize.toNat ∧
      let trip : Trip σ := ⟨session, .read handle size⟩
      session.programTrips device program = [trip] ∧
      ((∃ result after, outcome = .finished (.ok (result, after))) ∨
        outcome = .abandoned ∧ trip.GivenUp device ∧ session.givesUp ≠ none) ∧
      (∀ count after, outcome = .finished (.ok (.ok count, after)) ↔
        ∃ data, trip.dataReply? device = some data ∧ count = data.length ∧
          count ≤ size.toNat ∧ Buffer.Filled buffer data after) ∧
      (∀ error after, outcome = .finished (.ok (.error error, after)) ↔
        trip.outcome device = some (.error error) ∧ after = buffer) ∧
      (∀ data, trip.dataReply? device = some data → size.toNat < data.length →
        outcome = .finished
          (.ok (.error (.reply (.payloadSize .data data.length)), buffer))) ∧
      ∀ reply, trip.reply? device = some reply →
        let (result, after) := Buffer.within size.toNat (Reply.fill · reply) buffer
        outcome = .finished (.ok (result.mapError .reply, after)) := by
  intro program outcome
  obtain ⟨htrips, houtcome⟩ := Client.readInto_single device session config handle buffer
  have hsize := Client.toNat_readSize config buffer.length
  generalize UInt64.ofNat (Client.readSize config buffer.length) = size at htrips houtcome hsize
  rw [show outcome = _ from houtcome]
  refine ⟨size, hsize, htrips, ?_, fun count after => ?_, fun error after =>
    Outcome.ofFilling_error_iff, fun data hdata hlength => ?_, fun reply hreply => ?_⟩
  · by_cases hgivenUp : Trip.GivenUp device ⟨session, .read handle size⟩
    · exact .inr ⟨congrArg _ hgivenUp, hgivenUp, fun hpatient => Trip.not_givenUp hpatient hgivenUp⟩
    · exact .inl (Outcome.ofFilling_ended hgivenUp)
  · rw [Outcome.ofFilling_ok_iff]
    constructor
    · rintro ⟨data, hanswer, rfl, rfl⟩
      obtain ⟨hdata, hfits⟩ := Trip.outcome_read_iff.mp hanswer
      exact ⟨data, hdata, rfl, hfits, Buffer.filled_fill (by omega)⟩
    · rintro ⟨data, hdata, rfl, hfits, hfilled⟩
      exact ⟨data, Trip.outcome_read_iff.mpr ⟨hdata, hfits⟩, rfl, hfilled.eq_fill⟩
  · exact Outcome.ofFilling_error_iff.mpr ⟨Trip.outcome_read_of_lt hdata hlength, rfl⟩
  · rw [Reply.within_fill (by omega) reply, Trip.outcome_of_reply? hreply]
    show Outcome.ofFilling buffer (some ((Reply.data size.toNat reply).mapError .reply)) = _
    cases Reply.data size.toNat reply with
    | ok data => rfl
    | error cause => rfl

/-- Three bytes are not taken where two were asked for, although the buffer has room for five. -/
example :
    let session : Session Script := .fresh {} ⟨[Script.data [1, 2, 3]], 0, none, none, false⟩
      (.empty "host") []
    let buffer := List.replicate 5 0xaa
    (session.run Script.device (Client.readInto { maxReadSize := 2 } ⟨1⟩ buffer)).1 =
      .finished (.ok (.error (.reply (.payloadSize .data 3)), buffer)) := by
  cbv

end FileConduit

import FileConduit.Proofs.Wire.Encoding
import FileConduit.Proofs.Wire.Taking
import FileConduit.Request

/-!
# Frames of requests

A frame of a request is as long as its header states, so requests that are sent one after another,
numbered without gaps, fall apart into the frames of each.
-/

namespace FileConduit

namespace Request

variable {request : Request} {limit : UInt64}

/-- The length of the payload is computed right without building it. -/
theorem length_payload (request : Request) : request.payload.length = request.payloadLength := by
  cases request <;>
    simp [payload, payloadLength, Word.size, StringList.length_terminated, Nat.add_assoc]

theorem thisLength_header (request : Request) (number : UInt64) :
    (request.header number).thisLength = UInt64.ofNat request.frameLength := by
  rw [frameLength, UInt64.ofNat_add]
  cases request <;> rfl

theorem packetNumber_header (request : Request) (number : UInt64) :
    (request.header number).packetNumber = number := by
  cases request <;> rfl

@[simp] theorem operation_header (request : Request) (number : UInt64) :
    (request.header number).operation = request.operation := by
  cases request <;> rfl

/-- The operation of a request is one that has a name of its own. -/
theorem ofNumber_header (request : Request) (number : UInt64) :
    .ofNumber (request.header number).operation.number = (request.header number).operation := by
  cases request <;> rfl

theorem toNat_thisLength (number : UInt64) (hlimit : request.frameLength ≤ limit.toNat) :
    (request.frame number).header.thisLength.toNat = request.frameLength := by
  have hword := limit.toNat_lt
  show (request.header number).thisLength.toNat = _
  rw [thisLength_header, UInt64.toNat_ofNat', Nat.mod_eq_of_lt (by omega)]

/-- The frame of a request is taken off the front of any bytes. -/
theorem next_frame (number : UInt64) (hlimit : request.frameLength ≤ limit.toNat) (more : Bytes) :
    Frame.next limit ((request.frame number).encode ++ more) =
      .frame (request.frame number) more := by
  have hlength := request.toNat_thisLength number hlimit
  apply Frame.next_encode
  · rw [UInt64.le_iff_toNat_le, hlength]
    exact hlimit
  · rw [hlength, frameLength, ← length_payload]
    rfl
  · exact ofNumber_header request number

theorem frames_taken (requests : List Request) :
    ∀ number : UInt64, (∀ request ∈ requests, request.frameLength ≤ limit.toNat) →
      Frame.Taken limit ((frames number requests).flatMap Frame.encode) (frames number requests)
        [] := by
  induction requests with
  | nil => exact fun number hlimit => .none []
  | cons request requests ih =>
      intro number hlimit
      obtain ⟨hfirst, hrest⟩ := List.forall_mem_cons.mp hlimit
      exact .frame (next_frame number hfirst _) (ih (number + 1) hrest)

/-- Requests that are sent one after another fall apart into their frames. -/
theorem drain_frames (number : UInt64) {requests : List Request}
    (hlimit : ∀ request ∈ requests, request.frameLength ≤ limit.toNat) :
    Frame.drain limit ((frames number requests).flatMap Frame.encode) =
      ⟨frames number requests, none, []⟩ := by
  rw [(frames_taken requests number hlimit).drain_eq, Frame.drain_of_wait rfl]
  simp [Frame.Drained.behind]

/-! ## Numbers without gaps -/

theorem next_number (number : UInt64) (count : Nat) :
    number + 1 + UInt64.ofNat count = number + UInt64.ofNat (count + 1) := by
  rw [UInt64.ofNat_add, UInt64.add_assoc, UInt64.add_comm 1]
  rfl

theorem length_frames (number : UInt64) (requests : List Request) :
    (frames number requests).length = requests.length := by
  induction requests generalizing number with
  | nil => rfl
  | cons first requests ih => simp [frames, ih]

theorem frames_concat (number : UInt64) (requests : List Request) (request : Request) :
    frames number (requests ++ [request]) =
      frames number requests ++ [request.frame (number + UInt64.ofNat requests.length)] := by
  induction requests generalizing number with
  | nil => simp [frames]
  | cons first requests ih =>
      simp only [List.cons_append, frames, ih, next_number, List.length_cons]

theorem getElem?_frames (requests : List Request) :
    ∀ (number : UInt64) (i : Nat), (frames number requests)[i]? =
      requests[i]?.map fun request => request.frame (number + UInt64.ofNat i) := by
  induction requests with
  | nil => simp [frames]
  | cons request requests ih =>
      intro number i
      cases i with
      | zero => simp [frames]
      | succ i =>
          rw [frames, List.getElem?_cons_succ, List.getElem?_cons_succ, ih, next_number]

end Request

end FileConduit

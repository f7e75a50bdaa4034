import FileConduit.Proofs.Wire.Taking

/-!
# What draining makes of a stream

Nothing of a stream is lost or made up: the bytes of the frames that were drained and the rest are
the stream.  The rest alone decides how draining ends.
-/

namespace FileConduit

namespace Frame

open Header

variable {limit : UInt64} {bytes : Bytes}

/-! ## Nothing is lost -/

structure Sized (limit : UInt64) (frame : Frame) : Prop where
  header : size ≤ frame.length.toNat
  limit : frame.length ≤ limit
  payload : frame.payload.length = frame.length.toNat - size

/-- A frame that is taken is the one that the bytes spell out. -/
theorem next_exact {frame : Frame} {rest : Bytes} (hnext : next limit bytes = .frame frame rest) :
    frame.encode ++ rest = bytes ∧ Sized limit frame := by
  obtain ⟨hopens, hstated, hlimit, hlength, rfl, rfl⟩ := next_eq_frame_iff.mp hnext
  constructor
  · calc
      (ofFields bytes).encode ++ (bytes.take (statedLength bytes).toNat).drop size ++
          bytes.drop (statedLength bytes).toNat =
        (bytes.take (statedLength bytes).toNat).take size ++
            (bytes.take (statedLength bytes).toNat).drop size ++
          bytes.drop (statedLength bytes).toNat := by
          rw [encode_ofFields hopens, List.take_take, Nat.min_eq_left hstated]
      _ = bytes := by rw [List.take_append_drop, List.take_append_drop]
  · refine ⟨hstated, hlimit, ?_⟩
    show ((bytes.take (statedLength bytes).toNat).drop size).length = _
    rw [List.length_drop, List.length_take, Nat.min_eq_left hlength]
    rfl

variable {frames : List Frame} {left : Bytes}

theorem Taken.encode_append (htaken : Taken limit bytes frames left) :
    frames.flatMap encode ++ left = bytes := by
  induction htaken with
  | none bytes => rfl
  | frame hnext _ ih => rw [List.flatMap_cons, List.append_assoc, ih, (next_exact hnext).1]

theorem Taken.sized (htaken : Taken limit bytes frames left) :
    ∀ frame ∈ frames, Sized limit frame := by
  induction htaken with
  | none bytes => simp
  | frame hnext _ ih => exact List.forall_mem_cons.mpr ⟨(next_exact hnext).2, ih⟩

/-- Bytes that are waited on are fewer than a frame, or a header, can have. -/
theorem length_lt_of_wait (hnext : next limit bytes = .wait) :
    bytes.length < max size limit.toNat := by
  rcases next_eq_wait_iff.mp hnext with hshort | ⟨-, -, hlimit, hpartial⟩
  · omega
  · rw [UInt64.le_iff_toNat_le] at hlimit
    omega

/-! ## How draining ends -/

theorem drain_error_eq_none_iff :
    (drain limit bytes).error = none ↔ next limit (drain limit bytes).rest = .wait := by
  rw [next_rest_drain]
  cases (drain limit bytes).error <;> simp

theorem drain_error_eq_some_iff {error : FramingError} :
    (drain limit bytes).error = some error ↔
      next limit (drain limit bytes).rest = .refused error := by
  rw [next_rest_drain]
  cases (drain limit bytes).error <;> simp

/-- Draining splits any stream, without a loss, into frames of the length that they state and a rest
that decides how it ends: without an error if the rest is the beginning of a header or of a frame
that is admitted, and else with the first reason for which no frame can follow. -/
theorem drain_exact (limit : UInt64) (bytes : Bytes) :
    let drained := drain limit bytes
    drained.frames.flatMap encode ++ drained.rest = bytes ∧
      (∀ frame ∈ drained.frames, Sized limit frame) ∧
      (drained.error = none ↔ drained.rest.length < size ∨ Opens drained.rest ∧
        size ≤ (statedLength drained.rest).toNat ∧ statedLength drained.rest ≤ limit ∧
        drained.rest.length < (statedLength drained.rest).toNat) ∧
      (drained.error = none → drained.rest.length < max size limit.toNat) ∧
      (drained.error = some .badMagic ↔
        size ≤ drained.rest.length ∧ drained.rest.take Word.size ≠ magic) ∧
      (∀ length, drained.error = some (.truncatedHeader length) ↔
        Opens drained.rest ∧ statedLength drained.rest = length ∧ length.toNat < size) ∧
      (∀ length, drained.error = some (.oversizedFrame length) ↔
        Opens drained.rest ∧ statedLength drained.rest = length ∧ size ≤ length.toNat ∧
          limit < length) := by
  intro drained
  have htaken := drain_taken limit bytes
  refine ⟨htaken.encode_append, htaken.sized, ?_, ?_, ?_, ?_, ?_⟩
  · rw [drain_error_eq_none_iff, next_eq_wait_iff]
  · rw [drain_error_eq_none_iff]
    exact length_lt_of_wait
  · rw [drain_error_eq_some_iff, next_eq_badMagic_iff]
  · intro length
    rw [drain_error_eq_some_iff, next_eq_truncatedHeader_iff]
  · intro length
    rw [drain_error_eq_some_iff, next_eq_oversizedFrame_iff]

end Frame

end FileConduit

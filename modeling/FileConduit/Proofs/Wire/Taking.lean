import FileConduit.Proofs.Wire.Fields

/-!
# Taking frames off a byte stream

`Frame.next` decides on the bytes at the front alone: what follows a complete frame does not
change it.  So frames that have been taken one after another stay the first frames of the
stream, however it goes on, and draining the whole stream begins with them.  Draining itself takes
frames so, and stops at a rest that is waited on or refused.
-/

namespace FileConduit.Frame

/-- Frames taken off the front of a byte string, one after another, and what they leave. -/
inductive Taken (limit : UInt64) : Bytes → List Frame → Bytes → Prop where
  | none (bytes : Bytes) : Taken limit bytes [] bytes
  | frame {bytes rest left : Bytes} {frame : Frame} {frames : List Frame}
      (hnext : next limit bytes = .frame frame rest) (hrest : Taken limit rest frames left) :
      Taken limit bytes (frame :: frames) left

variable {limit : UInt64} {bytes left : Bytes} {frames : List Frame}

/-- Bytes behind a complete frame do not change it. -/
theorem next_append {rest : Bytes} {frame : Frame} (hnext : next limit bytes = .frame frame rest)
    (more : Bytes) : next limit (bytes ++ more) = .frame frame (rest ++ more) := by
  obtain ⟨hopens, hstated, hlimit, hlength, rfl, rfl⟩ := next_eq_frame_iff.mp hnext
  rw [next_eq_frame_iff, Header.statedLength_append hopens, Header.ofFields_append hopens]
  refine ⟨hopens.append more, hstated, hlimit, ?_, ?_, ?_⟩
  · rw [List.length_append]
    omega
  · rw [List.take_append_of_le_length hlength]
  · rw [List.drop_append_of_le_length hlength]

/-- Bytes behind a frame that is refused do not mend it. -/
theorem next_append_refused {error : FramingError} (hnext : next limit bytes = .refused error)
    (more : Bytes) : next limit (bytes ++ more) = .refused error := by
  cases error with
  | badMagic =>
      obtain ⟨hsize, hmagic⟩ := next_eq_badMagic_iff.mp hnext
      have hword : Word.size ≤ bytes.length := Nat.le_trans (by decide) hsize
      rw [next_eq_badMagic_iff, List.length_append, List.take_append_of_le_length hword]
      exact ⟨by omega, hmagic⟩
  | truncatedHeader length =>
      obtain ⟨hopens, hstated, hshort⟩ := next_eq_truncatedHeader_iff.mp hnext
      rw [next_eq_truncatedHeader_iff, Header.statedLength_append hopens]
      exact ⟨hopens.append more, hstated, hshort⟩
  | oversizedFrame length =>
      obtain ⟨hopens, hstated, hsize, hlimit⟩ := next_eq_oversizedFrame_iff.mp hnext
      rw [next_eq_oversizedFrame_iff, Header.statedLength_append hopens]
      exact ⟨hopens.append more, hstated, hsize, hlimit⟩

/-- While bytes of a frame are missing, it is waited for. -/
theorem next_eq_wait {more : Bytes} {frame : Frame} (hmore : more ≠ [])
    (hnext : next limit (bytes ++ more) = .frame frame []) : next limit bytes = .wait := by
  cases hfront : next limit bytes with
  | wait => rfl
  | refused error =>
      rw [next_append_refused hfront more] at hnext
      cases hnext
  | frame first rest =>
      rw [next_append hfront more, Next.frame.injEq, List.append_eq_nil_iff] at hnext
      exact absurd hnext.2.2 hmore

theorem Taken.append (htaken : Taken limit bytes frames left) (more : Bytes) :
    Taken limit (bytes ++ more) frames (left ++ more) := by
  induction htaken with
  | none bytes => exact .none _
  | frame hnext _ ih => exact .frame (next_append hnext more) ih

theorem Taken.snoc {frame : Frame} {rest : Bytes} (htaken : Taken limit bytes frames left)
    (hnext : next limit left = .frame frame rest) :
    Taken limit bytes (frames ++ [frame]) rest := by
  induction htaken with
  | none bytes => exact .frame hnext (.none _)
  | frame hfirst _ ih => exact .frame hfirst (ih hnext)

/-! ## Draining -/

def Drained.behind (frames : List Frame) (drained : Drained) : Drained :=
  { drained with frames := frames ++ drained.frames }

theorem Drained.behind_behind (first second : List Frame) (drained : Drained) :
    (drained.behind second).behind first = drained.behind (first ++ second) := by
  simp [behind]

theorem drain_of_wait (hnext : next limit bytes = .wait) :
    drain limit bytes = ⟨[], none, bytes⟩ := by
  rw [drain]
  split <;> simp_all

theorem drain_of_refused {error : FramingError} (hnext : next limit bytes = .refused error) :
    drain limit bytes = ⟨[], some error, bytes⟩ := by
  rw [drain]
  split <;> simp_all

theorem drain_of_frame {rest : Bytes} {frame : Frame}
    (hnext : next limit bytes = .frame frame rest) :
    drain limit bytes = (drain limit rest).behind [frame] := by
  rw [drain]
  split <;> simp_all [Drained.behind]

/-- Draining begins with the frames that can be taken, and goes on with what they leave. -/
theorem Taken.drain_eq (htaken : Taken limit bytes frames left) :
    drain limit bytes = (drain limit left).behind frames := by
  induction htaken with
  | none bytes => rfl
  | frame hnext _ ih => rw [drain_of_frame hnext, ih, Drained.behind_behind, List.singleton_append]

/-- Frames taken off the front of a stream are its first frames, whatever else it holds. -/
theorem Taken.eq_take_drain (htaken : Taken limit bytes frames left) (more : Bytes) :
    frames = (drain limit (bytes ++ more)).frames.take frames.length := by
  rw [(htaken.append more).drain_eq, Drained.behind, List.take_left]

/-- Draining takes one frame after another. -/
theorem drain_taken (limit : UInt64) (bytes : Bytes) :
    Taken limit bytes (drain limit bytes).frames (drain limit bytes).rest := by
  induction bytes using drain.induct limit with
  | case1 bytes hnext =>
      rw [drain_of_wait hnext]
      exact .none bytes
  | case2 bytes error hnext =>
      rw [drain_of_refused hnext]
      exact .none bytes
  | case3 bytes frame rest hnext ih =>
      rw [drain_of_frame hnext]
      exact .frame hnext ih

/-- How a drained buffer stands: what is left is waited on or refused. -/
theorem next_rest_drain (limit : UInt64) (bytes : Bytes) :
    next limit (drain limit bytes).rest =
      match (drain limit bytes).error with
      | none => .wait
      | some error => .refused error := by
  induction bytes using drain.induct limit with
  | case1 bytes hnext => rw [drain_of_wait hnext, hnext]
  | case2 bytes error hnext => rw [drain_of_refused hnext, hnext]
  | case3 bytes frame rest hnext ih =>
      rw [drain_of_frame hnext]
      exact ih

end FileConduit.Frame

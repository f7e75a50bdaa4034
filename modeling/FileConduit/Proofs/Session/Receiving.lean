import FileConduit.Proofs.Wire.Taking
import FileConduit.Session.Channel

/-!
# What a receiver reads

Waiting for a frame reads some of the bytes that are under way and adds them to the buffer;
none is lost and none is read twice.  Only a complete frame takes bytes out of the buffer
again, and it is the frame at the front of everything read so far.
-/

namespace FileConduit

def Arrival.data : Arrival → Bytes
  | bytes data => data
  | pause _ => []
  | fault _ => []
  | closed => []

/-- The bytes that arrivals bring, however they are cut. -/
def Arrival.stream (arrivals : List Arrival) : Bytes :=
  arrivals.flatMap data

@[simp] theorem Arrival.stream_nil : stream [] = [] := rfl

@[simp] theorem Arrival.stream_cons (arrival : Arrival) (arrivals : List Arrival) :
    stream (arrival :: arrivals) = arrival.data ++ stream arrivals := rfl

@[simp] theorem Arrival.stream_append (first second : List Arrival) :
    stream (first ++ second) = stream first ++ stream second := by
  simp [stream]

namespace Inbox

def pending (inbox : Inbox) : Bytes :=
  Arrival.stream inbox.arrivals

@[simp] theorem pending_queue (inbox : Inbox) (arrivals : List Arrival) :
    (inbox.queue arrivals).pending = inbox.pending ++ Arrival.stream arrivals := by
  simp [pending, queue]

/-- The bytes read until waiting ended, and what became of the buffer. -/
structure Reads (limit : UInt64) (before : Inbox) (receipt : Receipt) (after : Inbox)
    (read : Bytes) : Prop where
  pending : before.pending = read ++ after.pending
  frame : ∀ frame, receipt = .frame frame →
    Frame.next limit (before.buffer ++ read) = .frame frame after.buffer
  other : (∀ frame, receipt ≠ .frame frame) → after.buffer = before.buffer ++ read

theorem silence_ne_frame (patience : Patience) (frame : Frame) :
    patience.silence.1 ≠ .frame frame := by
  unfold Patience.silence
  split
  · simp
  · split <;> simp

theorem Reads.nothing {limit : UInt64} {before after : Inbox} {receipt : Receipt}
    (hpending : before.pending = after.pending) (hbuffer : after.buffer = before.buffer)
    (hreceipt : ∀ frame, receipt ≠ .frame frame) : Reads limit before receipt after [] where
  pending := by simpa using hpending
  frame frame hframe := absurd hframe (hreceipt frame)
  other _ := by simpa using hbuffer

/-- The bytes of one arrival are read before all others. -/
theorem Reads.cons (arrival : Arrival) {limit : UInt64} {buffer read : Bytes}
    {clock later : Moment} {arrivals : List Arrival} {receipt : Receipt} {after : Inbox}
    (hreads : Reads limit ⟨buffer ++ arrival.data, arrivals, later⟩ receipt after read) :
    Reads limit ⟨buffer, arrival :: arrivals, clock⟩ receipt after (arrival.data ++ read) where
  pending := by
    have hrest := hreads.pending
    simp only [Inbox.pending] at hrest
    simp only [Inbox.pending, Arrival.stream_cons, hrest, List.append_assoc]
  frame frame hframe := by
    simpa only [List.append_assoc] using hreads.frame frame hframe
  other hother := by
    simpa only [List.append_assoc] using hreads.other hother

theorem receiveFrom_reads (limit : UInt64) (patience : Patience) (arrivals : List Arrival) :
    ∀ (buffer : Bytes) (clock : Moment), ∃ read,
      Reads limit ⟨buffer, arrivals, clock⟩
        (receiveFrom limit patience buffer clock arrivals).1
        (receiveFrom limit patience buffer clock arrivals).2 read := by
  induction arrivals with
  | nil =>
      intro buffer clock
      refine ⟨[], ?_⟩
      unfold receiveFrom
      split
      · rename_i frame rest hnext
        exact ⟨rfl, by simp [hnext], fun hother => absurd rfl (hother frame)⟩
      · exact .nothing rfl rfl (by simp)
      · exact .nothing rfl rfl (silence_ne_frame patience)
  | cons arrival later ih =>
      intro buffer clock
      unfold receiveFrom
      split
      · rename_i frame rest hnext
        exact ⟨[], rfl, by simp [hnext], fun hother => absurd rfl (hother frame)⟩
      · exact ⟨[], .nothing rfl rfl (by simp)⟩
      · cases arrival with
        | bytes data =>
            obtain ⟨read, hreads⟩ := ih (buffer ++ data) clock
            exact ⟨data ++ read, hreads.cons (.bytes data)⟩
        | pause span =>
            dsimp only
            split
            · obtain ⟨read, hreads⟩ := ih (buffer ++ []) (clock + span.microseconds)
              refine ⟨read, ?_⟩
              simpa only [Arrival.data, List.append_nil, List.nil_append] using
                hreads.cons (.pause span)
            · exact ⟨[], .nothing rfl rfl (silence_ne_frame patience)⟩
        | fault fault => exact ⟨[], .nothing rfl rfl (by simp)⟩
        | closed =>
            refine ⟨[], .nothing rfl rfl fun frame => ?_⟩
            dsimp only
            split <;> simp

/-- Waiting for a frame reads some of the bytes that are under way. -/
theorem receive_reads (limit : UInt64) (patience : Patience) (inbox : Inbox) :
    ∃ read, Reads limit inbox (inbox.receive limit patience).1 (inbox.receive limit patience).2
      read :=
  receiveFrom_reads limit patience inbox.arrivals inbox.buffer inbox.clock

end Inbox

/-! ## Frames that come in time -/

/-- Arrivals that bring some bytes and no more, in pieces and with pauses for at most so long. -/
inductive Arrival.Brings : Nat → Bytes → List Arrival → Prop where
  | last {time : Nat} {data : Bytes} (hdata : data ≠ []) : Brings time data [.bytes data]
  | piece {time : Nat} {data rest : Bytes} {later : List Arrival}
      (hrest : Brings time rest later) : Brings time (data ++ rest) (.bytes data :: later)
  | pause {time : Nat} {span : Duration} {rest : Bytes} {later : List Arrival}
      (hspan : span.microseconds ≤ time) (hrest : Brings (time - span.microseconds) rest later) :
      Brings time rest (.pause span :: later)

theorem Arrival.Brings.ne_nil {time : Nat} {bytes : Bytes} {arrivals : List Arrival}
    (hbrings : Brings time bytes arrivals) : bytes ≠ [] := by
  induction hbrings with
  | last hdata => exact hdata
  | piece hrest ih => exact fun hnil => ih (List.append_eq_nil_iff.mp hnil).2
  | pause hspan hrest ih => exact ih

namespace Inbox

/-- A frame is received however it is cut, if all of it comes in time. -/
theorem receiveFrom_brings (limit : UInt64) {frame : Frame} {deadline time : Nat}
    {bytes : Bytes} {arrivals : List Arrival} (hbrings : Arrival.Brings time bytes arrivals) :
    ∀ (buffer : Bytes) (clock : Nat), clock + time ≤ deadline →
      Frame.next limit (buffer ++ bytes) = .frame frame [] →
      ∃ later, receiveFrom limit ⟨deadline, none⟩ buffer clock arrivals =
        (.frame frame, ⟨[], [], later⟩) := by
  induction hbrings with
  | last hdata =>
      intro buffer clock htime hnext
      refine ⟨clock, ?_⟩
      rw [receiveFrom, Frame.next_eq_wait hdata hnext]
      simp only [receiveFrom, hnext]
  | @piece time data rest later hrest ih =>
      intro buffer clock htime hnext
      have hmore : data ++ rest ≠ [] := (Arrival.Brings.piece hrest).ne_nil
      rw [receiveFrom, Frame.next_eq_wait hmore hnext]
      rw [← List.append_assoc] at hnext
      exact ih (buffer ++ data) clock htime hnext
  | @pause time span rest later hspan hrest ih =>
      intro buffer clock htime hnext
      have hearly : clock + span.microseconds ≤ deadline := by omega
      have hlasts : Patience.lasts ⟨deadline, none⟩ (clock + span.microseconds) = true := by
        simpa only [Patience.lasts, Bool.and_true, decide_eq_true_eq] using hearly
      rw [receiveFrom, Frame.next_eq_wait hrest.ne_nil hnext]
      simp only [hlasts, if_true]
      exact ih buffer (clock + span.microseconds) (by omega) hnext

end Inbox

end FileConduit

import FileConduit.Proofs.Client.Fetching
import FileConduit.Proofs.Program.Rounds
import FileConduit.Proofs.Session.Sending
import Mathlib.Data.List.Forall2

/-!
# Reads of a given length

A read asks again and again for what is still to come, until all of it has come.  Each reply that
brings something makes what is still to come less, so no more requests are made than bytes are
wanted; the first reply that brings nothing, or that is no answer, is the last.
-/

namespace FileConduit

namespace Trip

variable {σ : Type} (device : Device σ)

def dataReply? (trip : Trip σ) : Option Bytes :=
  (trip.reply? device).bind fun reply =>
    if reply.operation = .data then some reply.payload else none

/-- A reply with data that brings something, and no more than its request asked for. -/
structure Brings (trip : Trip σ) (piece : Bytes) : Prop where
  reply : trip.dataReply? device = some piece
  ne_nil : piece ≠ []
  fits : ∃ handle size, trip.request = .read handle size ∧ piece.length ≤ size.toNat

variable {device} {trip : Trip σ} {trips : List (Trip σ)} {before : Session σ} {handle : Handle}
  {size : UInt64} {data piece : Bytes} {pieces others : List Bytes}

theorem dataReply?_eq_some_iff :
    trip.dataReply? device = some data ↔
      ∃ reply, trip.reply? device = some reply ∧ reply.operation = .data ∧
        reply.payload = data := by
  simp [dataReply?, Option.bind_eq_some_iff]

theorem outcome_read_iff :
    outcome device ⟨before, .read handle size⟩ = some (.ok data) ↔
      dataReply? device ⟨before, .read handle size⟩ = some data ∧ data.length ≤ size.toNat := by
  rw [dataReply?_eq_some_iff]
  constructor
  · intro houtcome
    obtain ⟨reply, hreply, hanswer⟩ := reply?_of_outcome houtcome
    obtain ⟨hoperation, hpayload, hfits⟩ := Reply.data_ok_iff.mp hanswer
    exact ⟨⟨reply, hreply, hoperation, hpayload⟩, hfits⟩
  · rintro ⟨⟨reply, hreply, hoperation, hpayload⟩, hfits⟩
    have hanswer : Request.answer before.config.tellByteOrder (.read handle size) reply =
        .ok data := Reply.data_ok_iff.mpr ⟨hoperation, hpayload, hfits⟩
    rw [outcome_of_reply? hreply, hanswer]
    rfl

/-- Of data that is longer than what was asked for, nothing is taken. -/
theorem outcome_read_of_lt (hreply : dataReply? device ⟨before, .read handle size⟩ = some data)
    (hlength : size.toNat < data.length) :
    outcome device ⟨before, .read handle size⟩ =
      some (.error (.reply (.payloadSize .data data.length))) := by
  obtain ⟨reply, hframe, hoperation, rfl⟩ := dataReply?_eq_some_iff.mp hreply
  have hanswer : Request.answer before.config.tellByteOrder (.read handle size) reply =
      .error (.payloadSize .data reply.payload.length) := Reply.data_of_lt hoperation hlength
  rw [outcome_of_reply? hframe, hanswer]
  rfl

theorem brings_iff :
    Brings device ⟨before, .read handle size⟩ piece ↔
      outcome device ⟨before, .read handle size⟩ = some (.ok piece) ∧ piece ≠ [] := by
  rw [outcome_read_iff]
  constructor
  · rintro ⟨hreply, hpiece, _, _, hrequest, hfits⟩
    cases hrequest
    exact ⟨⟨hreply, hfits⟩, hpiece⟩
  · rintro ⟨⟨hreply, hfits⟩, hpiece⟩
    exact ⟨hreply, hpiece, handle, size, rfl, hfits⟩

theorem Brings.length_le (hbrings : Brings device ⟨before, .read handle size⟩ piece) :
    piece.length ≤ size.toNat :=
  (outcome_read_iff.mp (brings_iff.mp hbrings).1).2

/-- How a read ends that brings nothing. -/
theorem outcome_read_cases
    (hnone : ∀ piece, ¬Brings device ⟨before, .read handle size⟩ piece) :
    outcome device ⟨before, .read handle size⟩ = none ∨
      (∃ error, outcome device ⟨before, .read handle size⟩ = some (.error error) ∧
        error.endsRound = true) ∨
      outcome device ⟨before, .read handle size⟩ = some (.ok []) := by
  have hsound := round_sound device ⟨before, .read handle size⟩
  rcases houtcome : outcome device ⟨before, .read handle size⟩ with _ | error | _ | ⟨byte, data⟩
  · exact .inl rfl
  · exact .inr (.inl ⟨error, rfl, hsound.ends error houtcome⟩)
  · exact .inr (.inr rfl)
  · exact absurd (brings_iff.mpr ⟨houtcome, List.cons_ne_nil byte data⟩) (hnone _)

/-- The replies tell what they bring. -/
theorem Brings.unique (hpieces : List.Forall₂ (Brings device) trips pieces)
    (hothers : List.Forall₂ (Brings device) trips others) : pieces = others := by
  refine Relator.RightUnique.forall₂ ?_ hpieces hothers
  intro trip piece other hpiece hother
  exact Option.some.inj (hpiece.reply.symm.trans hother.reply)

theorem Brings.of_mem (hpieces : List.Forall₂ (Brings device) trips pieces)
    (htrip : trip ∈ trips) : ∃ piece, Brings device trip piece := by
  induction hpieces with
  | nil => cases htrip
  | cons hfirst hrest ih =>
      rcases List.mem_cons.mp htrip with rfl | hlater
      · exact ⟨_, hfirst⟩
      · exact ih hlater

end Trip

def Outcome.ofReading (expected received : Nat) :
    Option (Except ClientError Bytes) → Outcome Bytes
  | none => .abandoned
  | some (.error error) => .finished (.error error)
  | some (.ok _) => .finished (.error (.endOfStream expected received))

namespace Client

variable {σ : Type}

/-- How a length is read of which some bytes have come: each request asks for as much of the rest
as it may, and the first that brings nothing is the last. -/
inductive Gathers (device : Device σ) (config : ClientConfig) (handle : Handle) :
    Bytes → Nat → List (Trip σ) → Outcome Bytes → Prop where
  | ended (received : Bytes) :
      Gathers device config handle received 0 [] (.finished (.ok received))
  | brought {before : Session σ} {received piece : Bytes} {remaining : Nat} {size : UInt64}
      {trips : List (Trip σ)} {outcome : Outcome Bytes}
      (hsize : size.toNat = min remaining config.maxReadSize.toNat)
      (hbrings : Trip.Brings device ⟨before, .read handle size⟩ piece)
      (hrest : Gathers device config handle (received ++ piece) (remaining - piece.length)
        trips outcome) :
      Gathers device config handle received remaining
        (⟨before, .read handle size⟩ :: trips) outcome
  | stopped (before : Session σ) (received : Bytes) {remaining : Nat} {size : UInt64}
      (hremaining : 0 < remaining)
      (hsize : size.toNat = min remaining config.maxReadSize.toNat)
      (hnone : ∀ piece, ¬Trip.Brings device ⟨before, .read handle size⟩ piece) :
      Gathers device config handle received remaining [⟨before, .read handle size⟩]
        (.ofReading (received.length + remaining) received.length
          (Trip.outcome device ⟨before, .read handle size⟩))

theorem readRemaining_gathers (device : Device σ) (config : ClientConfig) (handle : Handle)
    (remaining : Nat) :
    ∀ (received : Bytes) (session : Session σ), Gathers device config handle received remaining
      (session.programTrips device (readRemaining config handle received remaining))
      (session.run device (readRemaining config handle received remaining)).1 := by
  -- Each reply that brings something makes what remains shorter.
  induction remaining using Nat.strongRecOn with
  | ind remaining ih =>
      intro received session
      rw [readRemaining]
      by_cases hremaining : remaining = 0
      · subst hremaining
        exact .ended received
      · rw [dif_neg hremaining, Session.programTrips, Session.run]
        have hsize := toNat_readSize config remaining
        have hpositive := Nat.pos_of_ne_zero hremaining
        have hstopped := @Gathers.stopped σ device config handle session received _ _ hpositive
          hsize
        generalize UInt64.ofNat (readSize config remaining) = size at hsize hstopped
        simp only [Trip.brings_iff] at hstopped
        cases hcall : session.call device (.read handle size) with
        | mk answer after =>
            have houtcome : Trip.outcome device ⟨session, .read handle size⟩ = answer :=
              congrArg Prod.fst hcall
            rw [houtcome] at hstopped
            rcases answer with _ | error | _ | ⟨byte, data⟩
            · exact hstopped (by simp)
            · exact hstopped (by simp)
            · exact hstopped (by simp)
            · have hbrings := Trip.brings_iff.mpr ⟨houtcome, List.cons_ne_nil byte data⟩
              exact .brought hsize hbrings
                (ih (remaining - (data.length + 1)) (by omega) (received ++ byte :: data) after)

variable {device : Device σ} {config : ClientConfig} {handle : Handle} {received : Bytes}
  {remaining : Nat} {trips : List (Trip σ)} {outcome : Outcome Bytes}

/-- What each request asks for is what is still to come, up to the size of a read. -/
theorem Gathers.asks (hgathers : Gathers device config handle received remaining trips outcome)
    {earlier later : List (Trip σ)} {trip : Trip σ} (hall : trips = earlier ++ trip :: later) :
    ∃ pieces size, List.Forall₂ (Trip.Brings device) earlier pieces ∧
      trip.request = .read handle size ∧
      size.toNat = min (remaining - pieces.flatten.length) config.maxReadSize.toNat := by
  induction hgathers generalizing earlier with
  | ended received => simp at hall
  | @brought before received piece remaining size trips outcome hsize hbrings hrest ih =>
      cases earlier with
      | nil =>
          cases hall
          exact ⟨[], size, .nil, rfl, by simpa using hsize⟩
      | cons first earlier =>
          obtain ⟨rfl, htrips⟩ := List.cons.inj hall
          obtain ⟨pieces, asked, hpieces, hrequest, hasked⟩ := ih htrips
          refine ⟨piece :: pieces, asked, .cons hbrings hpieces, hrequest, ?_⟩
          rw [hasked, List.flatten_cons, List.length_append, Nat.sub_sub]
  | @stopped before received remaining size hremaining hsize hnone =>
      cases earlier with
      | nil =>
          cases hall
          exact ⟨[], size, .nil, rfl, by simpa using hsize⟩
      | cons first earlier => simp at hall

/-- Either the pieces that come make up the length, or the last request brings nothing. -/
theorem Gathers.course
    (hgathers : Gathers device config handle received remaining trips outcome) :
    (∃ pieces, List.Forall₂ (Trip.Brings device) trips pieces ∧
      pieces.flatten.length = remaining ∧ outcome = .finished (.ok (received ++ pieces.flatten))) ∨
    ∃ earlier before size pieces, trips = earlier ++ [⟨before, .read handle size⟩] ∧
      List.Forall₂ (Trip.Brings device) earlier pieces ∧
      (∀ piece, ¬Trip.Brings device ⟨before, .read handle size⟩ piece) ∧
      outcome = .ofReading (received.length + remaining)
        (received.length + pieces.flatten.length)
        (Trip.outcome device ⟨before, .read handle size⟩) := by
  induction hgathers with
  | ended received => exact .inl ⟨[], .nil, rfl, by simp⟩
  | @brought before received piece remaining size trips outcome hsize hbrings hrest ih =>
      have hfits := hbrings.length_le
      rcases ih with ⟨pieces, hpieces, hlength, rfl⟩ |
        ⟨earlier, last, asked, pieces, rfl, hpieces, hnone, rfl⟩
      · refine .inl ⟨piece :: pieces, .cons hbrings hpieces, ?_, by simp⟩
        rw [List.flatten_cons, List.length_append, hlength]
        omega
      · refine .inr ⟨_ :: earlier, last, asked, piece :: pieces, rfl, .cons hbrings hpieces, hnone,
          ?_⟩
        rw [List.flatten_cons, List.length_append, List.length_append]
        congr 1 <;> omega
  | @stopped before received remaining size hremaining hsize hnone =>
      exact .inr ⟨[], before, size, [], rfl, .nil, hnone, by simp⟩

theorem Gathers.length_le
    (hgathers : Gathers device config handle received remaining trips outcome) :
    trips.length ≤ remaining := by
  induction hgathers with
  | ended received => exact Nat.le_refl 0
  | @brought before received piece remaining size trips outcome hsize hbrings hrest ih =>
      have hpiece := List.length_pos_iff.mpr hbrings.ne_nil
      have hfits := hbrings.length_le
      rw [List.length_cons]
      omega
  | stopped before received hremaining hsize hnone => exact hremaining

/-- A request that may ask for nothing brings nothing. -/
theorem Gathers.length_of_zero
    (hgathers : Gathers device config handle received remaining trips outcome)
    (hzero : config.maxReadSize = 0) (hremaining : 0 < remaining) :
    ∃ before size, trips = [⟨before, .read handle size⟩] := by
  cases hgathers with
  | ended received => cases hremaining
  | brought hsize hbrings hrest =>
      have hpiece := List.length_pos_iff.mpr hbrings.ne_nil
      have hfits := hbrings.length_le
      rw [hsize, hzero] at hfits
      simp only [UInt64.toNat_zero, Nat.min_zero] at hfits
      omega
  | stopped before received _ hsize hnone => exact ⟨before, _, rfl⟩

/-! ## How a read ends -/

variable {length : Nat}

theorem Gathers.succeeds_iff (hgathers : Gathers device config handle [] length trips outcome)
    (contents : Bytes) :
    outcome = .finished (.ok contents) ↔
      ∃ pieces, List.Forall₂ (Trip.Brings device) trips pieces ∧
        pieces.flatten.length = length ∧ contents = pieces.flatten := by
  rcases hgathers.course with ⟨pieces, hpieces, hlength, rfl⟩ |
    ⟨earlier, before, size, pieces, rfl, hpieces, hnone, rfl⟩
  · constructor
    · intro hended
      cases hended
      exact ⟨pieces, hpieces, hlength, rfl⟩
    · rintro ⟨others, hothers, -, rfl⟩
      rw [Trip.Brings.unique hothers hpieces]
      rfl
  · refine iff_of_false (fun hended => ?_) ?_
    · generalize Trip.outcome device ⟨before, .read handle size⟩ = answer at hended
      rcases answer with _ | error | data <;> cases hended
    · rintro ⟨others, hothers, -, -⟩
      obtain ⟨piece, hpiece⟩ := Trip.Brings.of_mem hothers List.mem_concat_self
      exact hnone piece hpiece

theorem Gathers.endOfStream_iff
    (hgathers : Gathers device config handle [] length trips outcome) (expected received : Nat) :
    outcome = .finished (.error (.endOfStream expected received)) ↔
      ∃ earlier last pieces, trips = earlier ++ [last] ∧
        List.Forall₂ (Trip.Brings device) earlier pieces ∧
        last.dataReply? device = some [] ∧ expected = length ∧
        received = pieces.flatten.length := by
  rcases hgathers.course with ⟨pieces, hpieces, -, rfl⟩ |
    ⟨earlier, before, size, pieces, rfl, hpieces, hnone, rfl⟩
  · refine iff_of_false (by simp) ?_
    rintro ⟨earlier, last, -, rfl, -, hempty, -, -⟩
    obtain ⟨piece, hpiece⟩ := Trip.Brings.of_mem hpieces List.mem_concat_self
    exact hpiece.ne_nil (Option.some.inj (hpiece.reply.symm.trans hempty))
  · simp only [List.length_nil, Nat.zero_add]
    constructor
    · intro hended
      rcases Trip.outcome_read_cases hnone with houtcome | ⟨error, houtcome, hsound⟩ | houtcome
      · rw [houtcome] at hended
        cases hended
      · rw [houtcome] at hended
        cases hended
        cases hsound
      · rw [houtcome] at hended
        cases hended
        exact ⟨earlier, _, pieces, rfl, hpieces, (Trip.outcome_read_iff.mp houtcome).1, rfl, rfl⟩
    · rintro ⟨others, last, brought, hall, hbrought, hempty, rfl, rfl⟩
      obtain ⟨rfl, hlast⟩ := List.append_inj' hall rfl
      cases hlast
      rw [Trip.outcome_read_iff.mpr ⟨hempty, Nat.zero_le _⟩, Trip.Brings.unique hpieces hbrought]
      rfl

theorem Gathers.oversized (hgathers : Gathers device config handle [] length trips outcome)
    {trip : Trip σ} (htrip : trip ∈ trips) {size : UInt64} {data : Bytes}
    (hrequest : trip.request = .read handle size) (hreply : trip.dataReply? device = some data)
    (hlength : size.toNat < data.length) :
    outcome = .finished (.error (.reply (.payloadSize .data data.length))) := by
  obtain ⟨before, request⟩ := trip
  cases hrequest
  have hother : ∀ piece, ¬Trip.Brings device ⟨before, .read handle size⟩ piece := by
    intro piece hbrings
    obtain rfl := Option.some.inj (hbrings.reply.symm.trans hreply)
    exact absurd hbrings.length_le (by omega)
  rcases hgathers.course with ⟨pieces, hpieces, -, rfl⟩ |
    ⟨earlier, last, asked, pieces, rfl, hpieces, -, rfl⟩
  · obtain ⟨piece, hpiece⟩ := Trip.Brings.of_mem hpieces htrip
    exact absurd hpiece (hother piece)
  · rcases List.mem_append.mp htrip with hearlier | hlast
    · obtain ⟨piece, hpiece⟩ := Trip.Brings.of_mem hpieces hearlier
      exact absurd hpiece (hother piece)
    · cases List.mem_singleton.mp hlast
      rw [Trip.outcome_read_of_lt hreply hlength]
      rfl

/-- A read that ends in any other way ends as its last request does. -/
theorem Gathers.fails (hgathers : Gathers device config handle [] length trips outcome)
    (hok : ∀ contents, outcome ≠ .finished (.ok contents))
    (hend : ∀ expected received,
      outcome ≠ .finished (.error (.endOfStream expected received))) :
    ∃ earlier before size pieces, trips = earlier ++ [⟨before, .read handle size⟩] ∧
      List.Forall₂ (Trip.Brings device) earlier pieces ∧
      (Trip.outcome device ⟨before, .read handle size⟩ = none ∧ outcome = .abandoned ∨
        ∃ error, Trip.outcome device ⟨before, .read handle size⟩ = some (.error error) ∧
          outcome = .finished (.error error)) := by
  rcases hgathers.course with ⟨pieces, -, -, hended⟩ |
    ⟨earlier, before, size, pieces, rfl, hpieces, hnone, rfl⟩
  · exact absurd hended (hok _)
  · refine ⟨earlier, before, size, pieces, rfl, hpieces, ?_⟩
    rcases Trip.outcome_read_cases hnone with houtcome | ⟨error, houtcome, -⟩ | houtcome
    · exact .inl ⟨houtcome, by rw [houtcome]; rfl⟩
    · exact .inr ⟨error, houtcome, by rw [houtcome]; rfl⟩
    · rw [houtcome] at hend
      exact absurd rfl (hend _ _)

end Client

/-- Each request of a read asks for what is still to come, up to the size that one read may have.
The read succeeds just when the data of the replies, none of them empty and none longer than its
request asked for, make up the length; it gives them in order.  It finds the end of the stream just
when an empty reply comes before that, and it fails with the first request that fails.  There are
no more requests than bytes are wanted. -/
theorem read_collects {σ : Type} (device : Device σ) (session : Session σ)
    (config : ClientConfig) (handle : Handle) (length : Nat) :
    let program := Client.read config handle length
    let trips := session.programTrips device program
    let outcome := (session.run device program).1
    let final := (session.run device program).2
    let Brought := List.Forall₂ (Trip.Brings device)
    (∀ earlier trip later, trips = earlier ++ trip :: later →
      ∃ pieces size, Brought earlier pieces ∧ trip.request = .read handle size ∧
        size.toNat = min (length - pieces.flatten.length) config.maxReadSize.toNat) ∧
    (∀ contents, outcome = .finished (.ok contents) ↔
      ∃ pieces, Brought trips pieces ∧ pieces.flatten.length = length ∧
        contents = pieces.flatten) ∧
    (∀ expected received, outcome = .finished (.error (.endOfStream expected received)) ↔
      ∃ earlier last pieces, trips = earlier ++ [last] ∧ Brought earlier pieces ∧
        last.dataReply? device = some [] ∧ expected = length ∧
        received = pieces.flatten.length) ∧
    (∀ trip ∈ trips, ∀ size data, trip.request = .read handle size →
      trip.dataReply? device = some data → size.toNat < data.length →
      outcome = .finished (.error (.reply (.payloadSize .data data.length)))) ∧
    ((∀ contents, outcome ≠ .finished (.ok contents)) →
      (∀ expected received, outcome ≠ .finished (.error (.endOfStream expected received))) →
      ∃ earlier before size pieces, trips = earlier ++ [⟨before, .read handle size⟩] ∧
        Brought earlier pieces ∧
        (Trip.outcome device ⟨before, .read handle size⟩ = none ∧ outcome = .abandoned ∨
          ∃ error, Trip.outcome device ⟨before, .read handle size⟩ = some (.error error) ∧
            outcome = .finished (.error error))) ∧
    final.sentFrames.length ≤ session.sentFrames.length + length ∧
    (config.maxReadSize = 0 → 0 < length → ∃ trip, trips = [trip] ∧
      (trip.dataReply? device = some [] →
        outcome = .finished (.error (.endOfStream length 0)) ∧
        final.sentFrames.length = session.sentFrames.length + 1)) := by
  intro program trips outcome final Brought
  have hgathers : Client.Gathers device config handle [] length trips outcome :=
    Client.readRemaining_gathers device config handle length [] session
  have hsent : final.sentFrames.length =
      session.sentFrames.length + (Trip.sending device trips).length := by
    obtain ⟨hframes, -⟩ := (Session.reach_run device program session).sends
    rw [hframes, List.length_append, Request.length_frames, List.length_map]
  refine ⟨fun earlier trip later => hgathers.asks, hgathers.succeeds_iff, hgathers.endOfStream_iff,
    fun trip htrip size data => hgathers.oversized htrip, hgathers.fails, ?_, ?_⟩
  · have hsending : (Trip.sending device trips).length ≤ trips.length := List.length_filter_le _ _
    have hlength := hgathers.length_le
    omega
  · intro hzero hlength
    obtain ⟨before, size, htrips⟩ := hgathers.length_of_zero hzero hlength
    refine ⟨_, htrips, fun hempty => ⟨?_, ?_⟩⟩
    · exact (hgathers.endOfStream_iff length 0).mpr ⟨[], _, [], htrips, .nil, hempty, rfl, rfl⟩
    · obtain ⟨reply, hreply, -⟩ := Trip.dataReply?_eq_some_iff.mp hempty
      rw [hsent, htrips]
      simp [Trip.sending, Trip.sent?_of_reply? hreply]

end FileConduit

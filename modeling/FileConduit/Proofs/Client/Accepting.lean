import FileConduit.Proofs.Client.Limits
import FileConduit.Proofs.Session.Whole

/-!
# Replies that a client accepts

A device that answers each request with one whole frame can be talked to: with a configuration that
has no problem, a frame is refused only for being longer than what the client accepts, and no reply
to a read is, which holds no more than was asked for, if the longest reply has a length that fits in
a word.  The replies of one word are longer than the shortest limit that passes as no problem, and a
length that does not fit wraps and passes as none either.
-/

namespace FileConduit

def Use.Offered (config : ClientConfig) : Use → Prop
  | operation program _ => Client.Offered config program
  | cancel => True

namespace Session

variable {σ : Type} {device : Device σ}

/-- What holds of the requests of every use holds of those of a history. -/
theorem forall_trips (allowed : Request → Prop) {uses : List Use}
    (huses : ∀ use ∈ uses, ∀ session : Session σ, ∀ trip ∈ session.useTrips device use,
      allowed trip.request) (session : Session σ) :
    ∀ trip ∈ session.trips device uses, allowed trip.request := by
  induction uses generalizing session with
  | nil => exact fun _ htrip => (List.not_mem_nil htrip).elim
  | cons first uses ih =>
      obtain ⟨hfirst, hlater⟩ := List.forall_mem_cons.mp huses
      intro trip htrip
      rcases List.mem_append.mp htrip with hnow | hafter
      · exact hfirst session trip hnow
      · exact ih hlater (session.use device first) trip hafter

end Session

/-- The length of a whole frame is told from its payload. -/
theorem Frame.Whole.length_le {frame : Frame} (hwhole : frame.Whole) {limit : UInt64}
    (hfits : Header.size + frame.payload.length ≤ limit.toNat) : frame.length ≤ limit := by
  have hlength := hwhole.length
  rw [UInt64.le_iff_toNat_le]
  omega

namespace Client

/-- With a configuration that has no problem and a device that answers each request with one whole
frame, a frame is refused only if it is longer than what the client accepts.  So a reply to a read
is accepted that holds at most what was asked for, if the length of the longest one fits in a word,
and so is a reply of one word, if 48 bytes are accepted.  Unless the caller asks for nothing, every
read asks for a byte or more, and no operation fails for the size of its chunks. -/
theorem whole_replies_accepted {σ : Type} (device : Device σ) (config : ClientConfig) (state : σ)
    (host : HostTree) (uses : List Use) (hvalid : config.problems = [])
    (huses : ∀ use ∈ uses, use.Offered config)
    (hreplied : ∀ trip ∈ (Session.fresh config state host []).trips device uses,
      (trip.sent? device).isSome = true → ∃ reply, trip.Replied device reply) :
    (∀ trip ∈ (Session.fresh config state host []).trips device uses, ∀ reply,
      trip.Replied device reply →
        (∀ error, trip.outcome device = some (.error (.framing error)) →
          error = .oversizedFrame reply.length ∧ config.maxFrameLength < reply.length) ∧
        (reply.payload.length = Word.size → Header.size + Word.size ≤ config.maxFrameLength.toNat →
          trip.Accepted device reply) ∧
        (config.maxReadSize.toNat + Header.size < UInt64.size → ∀ handle size,
          trip.request = .read handle size → reply.payload.length ≤ size.toNat →
            trip.Accepted device reply)) ∧
    ∀ {α : Type} (program : Program α), Offered config program → ¬Vain config program →
      ∀ (session : Session σ) (span : Option Duration),
        (∀ trip ∈ session.useTrips device (.operation program span), ∀ handle size,
          trip.request = .read handle size → 0 < size.toNat) ∧
        (session.runFor device span program).1 ≠ .finished (.error WriteChunk.refusal) := by
  have hlimit := (ClientConfig.problems_eq_nil_iff.mp hvalid).2.2.1
  have hreach := Session.reach_afterUses device (.fresh config state host []) uses
  constructor
  · intro trip htrip reply hreply
    obtain ⟨earlier, later, hall⟩ := List.append_of_mem htrip
    have hbefore := hreach.before_of_append hall
    have hconfig : trip.before.config = config :=
      (Session.Correlated.of_reach hbefore).configured
    have htidy : trip.before.Tidy := by
      refine hbefore.tidy (fun _ => ⟨rfl, rfl⟩) fun other hother => hreplied other ?_
      rw [hall]
      exact List.mem_append_left _ hother
    have hbounded : ∀ handle size, trip.request = .read handle size →
        size.toNat ≤ config.maxReadSize.toNat := by
      refine Session.forall_trips (fun request => ∀ handle size,
        request = .read handle size → size.toNat ≤ config.maxReadSize.toNat) ?_ _ trip htrip
      intro use huse session other hother
      cases use with
      | operation program span =>
          exact Offered.bounded (huses _ huse) hvalid device _ other hother
      | cancel => cases hother
    have haccepted : Header.size + reply.payload.length ≤ config.maxFrameLength.toNat →
        trip.Accepted device reply := by
      intro hfits
      rw [← hconfig] at hfits
      exact hreply.accepted htidy (hreply.whole.length_le hfits)
    refine ⟨fun error houtcome => ?_, fun hword hlimit => haccepted (hword ▸ hlimit),
      fun hlongest handle size hread hasked => haccepted ?_⟩
    · rw [← hconfig]
      exact hreply.refused htidy houtcome
    · have hsize := hbounded handle size hread
      rw [UInt64.le_iff_toNat_le, ClientConfig.longestReply_toNat hlongest] at hlimit
      omega
  · intro α program hoffered hvain session span
    obtain ⟨hsized, hended⟩ := hoffered.runs hvalid hvain device (session.givingUp span)
    refine ⟨fun trip htrip handle size hread => ?_, hended⟩
    have hasked := hsized trip htrip
    rw [hread] at hasked
    exact hasked.1

def briefReply : Request → Frame
  | .read .. => .single .data [7] 0
  | _ => .single .status (Word.littleEndian 0) 0

def brief : Device Unit where
  react _ request := (.taken false [.bytes (briefReply request).encode], ())

theorem briefReply_eq (request : Request) :
    briefReply request = .single .data [7] 0 ∨
      briefReply request = .single .status (Word.littleEndian 0) 0 := by
  cases request with
  | read handle size => exact .inl rfl
  | _ => exact .inr rfl

theorem brief_replied (trip : Trip Unit) (hsent : (trip.sent? brief).isSome = true) :
    trip.Replied brief (briefReply trip.request) := by
  have hwhole : (briefReply trip.request).Whole := by
    rcases briefReply_eq trip.request with heq | heq <;> rw [heq] <;>
      exact Frame.whole_single rfl 0 (by decide)
  exact .of_react hsent hwhole rfl (List.append_nil _)

/-- The least limits with which a client can be answered, if it is to read eight bytes at once. -/
def tight : ClientConfig :=
  { maxReadSize := 8, maxFrameLength := 48 }

def tightUses : List Use :=
  [.operation (read tight ⟨1⟩ 2) none, .operation (write tight ⟨1⟩ [1]) none]

/-- Replies of 48 bytes are accepted up to the limit. -/
theorem tight_replies_accepted :
    let start := Session.fresh tight () (.empty "host") []
    (Trip.sending brief (start.trips brief tightUses)).length = 3 ∧
      (start.runFor brief none (read tight ⟨1⟩ 2)).1 = .finished (.ok [7, 7]) ∧
      ∀ trip ∈ start.trips brief tightUses,
        (trip.sent? brief).isSome = true →
          (∀ chunk, trip.request = .write chunk →
            trip.Accepted brief (.single .status (Word.littleEndian 0) 0)) ∧
          ∀ handle size, trip.request = .read handle size → 0 < size.toNat →
            trip.Accepted brief (.single .data [7] 0) := by
  have huses : ∀ use ∈ tightUses, use.Offered tight := by
    simp only [tightUses, List.forall_mem_cons]
    exact ⟨.read ⟨1⟩ 2, .write ⟨1⟩ [1], fun _ huse => (List.not_mem_nil huse).elim⟩
  have haccepted := (whole_replies_accepted brief tight () (.empty "host") tightUses (by decide)
    huses fun trip _ hsent => ⟨_, brief_replied trip hsent⟩).1
  refine ⟨by cbv, by cbv, fun trip htrip hsent => ⟨fun chunk hwrite => ?_,
    fun handle size hread hsize => ?_⟩⟩
  · have hreplied := brief_replied trip hsent
    rw [hwrite] at hreplied
    exact (haccepted trip htrip _ hreplied).2.1 rfl (by decide)
  · have hreplied := brief_replied trip hsent
    rw [hread] at hreplied
    exact (haccepted trip htrip _ hreplied).2.2 (by decide) handle size hread hsize

/-- Limits that pass as no problem, and that no reply of one word keeps. -/
def scant : ClientConfig :=
  { maxReadSize := 1, maxFrameLength := 41 }

/-- The success of closing is refused for its length, although the limits have no problem. -/
theorem success_refused_as_too_long :
    scant.problems = [] ∧ Offered scant (close ⟨1⟩) ∧
      Trip.Replied brief ⟨.fresh scant () (.empty "host") [], .close ⟨1⟩⟩
        (.single .status (Word.littleEndian 0) 0) ∧
      ((Session.fresh scant () (.empty "host") []).runFor brief none (close ⟨1⟩)).1 =
        .finished (.error (.framing (.oversizedFrame 48))) := by
  refine ⟨by decide, .close ⟨1⟩, brief_replied _ rfl, ?_⟩
  cbv

/-- Limits of which the longest reply is too long for a word, so that they pass as no problem. -/
def unlimited : ClientConfig :=
  { maxReadSize := 18446744073709551615, maxFrameLength := 48 }

def full : Device Unit where
  react _ _ := (.taken false [.bytes (Frame.single .data (List.replicate 9 7) 0).encode], ())

/-- The nine bytes that a read asks for are refused for their length, although the limits have no
problem. -/
theorem full_read_refused_as_too_long :
    unlimited.problems = [] ∧ Offered unlimited (read unlimited ⟨1⟩ 9) ∧
      Trip.Replied full ⟨.fresh unlimited () (.empty "host") [], .read ⟨1⟩ 9⟩
        (.single .data (List.replicate 9 7) 0) ∧
      ((Session.fresh unlimited () (.empty "host") []).runFor full none
        (read unlimited ⟨1⟩ 9)).1 = .finished (.error (.framing (.oversizedFrame 49))) := by
  refine ⟨by decide, .read ⟨1⟩ 9, ?_, by cbv⟩
  exact .of_react rfl (Frame.whole_single rfl 0 (by decide)) rfl (List.append_nil _)

end Client

end FileConduit

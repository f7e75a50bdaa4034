import FileConduit.Client.Removal
import FileConduit.Proofs.Program.Rounds
import FileConduit.Proofs.Request.Refusal
import FileConduit.Proofs.Session.Counting
import FileConduit.Session.Script

/-!
# Refusals that are counted

The counter of status errors counts the refusals among the replies, in answer to whatever request
they came, except those of removals: there the status is the answer, and is not counted.
-/

namespace FileConduit

def Frame.isRefusal (frame : Frame) : Bool :=
  frame.refusal?.isSome

namespace Trip

variable {σ : Type} {device : Device σ} {trip : Trip σ}

/-- An operation that is told of a failed reply has had it. -/
theorem reply?_of_failure {cause : ReplyError}
    (houtcome : trip.outcome device = some (.error (.reply cause))) :
    ∃ reply, trip.reply? device = some reply ∧
      trip.request.answer trip.before.config.tellByteOrder reply = .error cause := by
  rcases failure_cases houtcome with
    ⟨hbreaks, -⟩ | ⟨⟨hnever, -⟩ | ⟨hnever, -⟩, -⟩ | ⟨-, reply, hreply, -, -⟩
  · cases hbreaks
  · cases hnever
  · cases hnever
  · have hread := outcome_of_reply? hreply
    rw [houtcome] at hread
    refine ⟨reply, hreply, ?_⟩
    cases hanswer : trip.request.answer trip.before.config.tellByteOrder reply with
    | ok value =>
        rw [hanswer] at hread
        cases hread
    | error other =>
        rw [hanswer] at hread
        cases hread
        rfl

def removes (trip : Trip σ) : Bool :=
  trip.request.operation == .removePath

theorem not_removes_iff : trip.removes = false ↔ trip.request.operation ≠ .removePath := by
  simp [removes]

theorem removal_not_refused (hremoves : trip.removes = true) (code : StatusCode) :
    trip.outcome device ≠ some (.error (.reply (.status code))) := by
  intro houtcome
  obtain ⟨before, request⟩ := trip
  cases request with
  | remove path =>
      have hstatus := (round_sound device ⟨before, .remove path⟩).removal path _ rfl houtcome
      cases hstatus
  | _ => cases hremoves

/-- Whether something else than a removal is refused. -/
def refused (device : Device σ) (trip : Trip σ) : Bool :=
  (trip.reply? device).any Frame.isRefusal && !trip.removes

/-- An operation is told of a refusal just when one comes, unless it is a removal. -/
theorem refused_iff (device : Device σ) (trip : Trip σ) :
    trip.refused device = true ↔
      ∃ code, trip.outcome device = some (.error (.reply (.status code))) := by
  unfold refused
  cases hremoves : trip.removes with
  | true =>
      refine iff_of_false (by simp) ?_
      rintro ⟨code, houtcome⟩
      exact removal_not_refused hremoves code houtcome
  | false =>
      have hremove := not_removes_iff.mp hremoves
      rw [Bool.not_false, Bool.and_true, Option.any_eq_true]
      constructor
      · rintro ⟨reply, hreply, hrefusal⟩
        obtain ⟨code, hcode⟩ := Option.isSome_iff_exists.mp hrefusal
        refine ⟨code, ?_⟩
        rw [outcome_of_reply? hreply,
          (Request.answer_refused_iff hremove _ reply code).mpr hcode]
        rfl
      · rintro ⟨code, houtcome⟩
        obtain ⟨reply, hreply, hanswer⟩ := reply?_of_failure houtcome
        have hcode := (Request.answer_refused_iff hremove _ reply code).mp hanswer
        exact ⟨reply, hreply, Option.isSome_iff_exists.mpr ⟨code, hcode⟩⟩

/-- The refusals among the replies to everything but removals. -/
theorem countP_replies (device : Device σ) (trips : List (Trip σ)) :
    (replies device (trips.filter fun trip => !trip.removes)).countP Frame.isRefusal =
      trips.countP (refused device) := by
  rw [replies, List.countP_filterMap, List.countP_filter]
  refine List.countP_congr fun trip _ => ?_
  rw [refused]
  cases trip.reply? device <;> rfl

end Trip

namespace Session

variable {σ : Type} {device : Device σ} {trips : List (Trip σ)} {session : Session σ}

theorem statusErrors_eq {config : ClientConfig} {state : σ} {host : HostTree}
    {unasked : List Arrival}
    (hreach : Reach device (fresh config state host unasked) trips session) :
    session.metrics.statusErrors = UInt64.ofNat (trips.countP (Trip.refused device)) := by
  induction hreach with
  | start => rfl
  | aside _ haside ih => rw [haside.metrics, ih]
  | @trip trips before request _ ih =>
      have hadds := (Trip.adds device ⟨before, request⟩).statusErrors
      have hevent : Trip.endEvent? device ⟨before, request⟩ = some .statusError ↔
          Trip.refused device ⟨before, request⟩ = true :=
        Metrics.endEvent?_eq_statusError_iff.trans (Trip.refused_iff device _).symm
      rw [show (before.call device request).2 = Trip.after device ⟨before, request⟩ from rfl,
        hadds, ih, List.countP_append, List.countP_singleton, UInt64.ofNat_add]
      by_cases hrefused : Trip.refused device ⟨before, request⟩ = true
      · rw [if_pos hrefused, if_pos (hevent.mpr hrefused)]
        rfl
      · rw [if_neg hrefused, if_neg fun h => hrefused (hevent.mp h)]
        rfl

end Session

/-- In every history, after each round trip and at the end, the counter of status errors is the
number of refusals among the replies so far to everything but removals. -/
theorem refusals_counted {σ : Type} (device : Device σ) (config : ClientConfig) (state : σ)
    (host : HostTree) (unasked : List Arrival) (uses : List Use) :
    let start := Session.fresh config state host unasked
    let trips := start.trips device uses
    let final := start.afterUses device uses
    let refusals := fun trips : List (Trip σ) =>
      (Trip.replies device (trips.filter fun trip => !trip.removes)).countP Frame.isRefusal
    final.receivedFrames = Trip.replies device trips ∧
    final.metrics.statusErrors = UInt64.ofNat (refusals trips) ∧
    ∀ earlier trip later, trips = earlier ++ trip :: later →
      (trip.after device).metrics.statusErrors = UInt64.ofNat (refusals (earlier ++ [trip])) := by
  intro start trips final refusals
  have hreach := Session.reach_afterUses device start uses
  have hcorrelated : Session.Correlated device config unasked trips final := .of_reach hreach
  refine ⟨hcorrelated.received, ?_, fun earlier trip later hall => ?_⟩
  · rw [Session.statusErrors_eq hreach]
    exact congrArg UInt64.ofNat (Trip.countP_replies device trips).symm
  · rw [Session.statusErrors_eq (hreach.after_of_append hall)]
    exact congrArg UInt64.ofNat (Trip.countP_replies device (earlier ++ [trip])).symm

def Script.keepsFile : Session Script :=
  .fresh {} ⟨[kind "S_IFREG", code 10], 0, none, none, false⟩ (.empty "host") []

/-- The refusal of a removal is received and not counted. -/
theorem refused_removal_uncounted :
    let final := Script.keepsFile.afterUses Script.device
      [.operation (Client.removeTree 1 "/f" true) none]
    final.receivedFrames.countP Frame.isRefusal = 1 ∧ final.metrics.statusErrors = 0 := by
  constructor <;> cbv

end FileConduit

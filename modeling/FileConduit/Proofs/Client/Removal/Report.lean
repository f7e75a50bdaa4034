import FileConduit.Proofs.Client.Removal.Ending
import FileConduit.Proofs.Session.Sending

/-!
# The report of a removal

A removal that comes to a result tells which of its requests for removal were not acknowledged: one
path for each of them, in the order in which they were made.  A request is acknowledged by a frame
that holds the status of success, and by nothing else.
-/

namespace FileConduit

namespace Trip

variable {σ : Type}

/-- The path that a round trip asks to be removed, and whether that is acknowledged. -/
def removal? (device : Device σ) (trip : Trip σ) : Option (String × Bool) :=
  match trip.request with
  | .remove path => some (path, trip.acknowledged device)
  | _ => none

/-- A removal is acknowledged just when the operation is told of success. -/
theorem acknowledged_iff (device : Device σ) (before : Session σ) (path : String) :
    acknowledged device ⟨before, .remove path⟩ = true ↔
      ∃ code : StatusCode, outcome device ⟨before, .remove path⟩ = some (.ok code) ∧
        code.isSuccess = true := by
  rw [acknowledged, Option.any_eq_true]
  constructor
  · rintro ⟨reply, hreply, hsuccess⟩
    obtain ⟨code, hstatus, hcode⟩ := (Reply.isSuccess_iff reply).mp hsuccess
    have houtcome := outcome_of_reply? hreply
    have hanswer : Request.answer before.config.tellByteOrder (.remove path) reply = .ok code :=
      hstatus
    rw [hanswer] at houtcome
    exact ⟨code, houtcome, hcode⟩
  · rintro ⟨code, houtcome, hcode⟩
    obtain ⟨reply, hreply, hanswer⟩ := reply?_of_outcome houtcome
    exact ⟨reply, hreply, (Reply.isSuccess_iff reply).mpr ⟨code, hanswer, hcode⟩⟩

/-- The path of a removal that is not acknowledged is one that the client reports. -/
theorem unremoved?_round (device : Device σ) (trip : Trip σ) :
    (trip.round device).unremoved? = ((trip.removal? device).filter (!·.2)).map Prod.fst := by
  obtain ⟨before, request⟩ := trip
  cases request with
  | remove path =>
      have hiff := acknowledged_iff device before path
      rw [round, removal?]
      dsimp only
      generalize outcome device ⟨before, .remove path⟩ = told at hiff ⊢
      cases hacknowledged : acknowledged device ⟨before, .remove path⟩ with
      | true =>
          obtain ⟨code, rfl, hcode⟩ := hiff.mp hacknowledged
          simp [Round.unremoved?, hcode, Option.filter]
      | false =>
          have hrefused : ∀ code, told = some (.ok code) → code.isSuccess = false := by
            intro code htold
            by_contra hsuccess
            rw [Bool.not_eq_false] at hsuccess
            rw [hiff.mpr ⟨code, htold, hsuccess⟩] at hacknowledged
            cases hacknowledged
          rcases told with _ | error | code
          · rfl
          · rfl
          · simp [Round.unremoved?, hrefused code rfl, Option.filter]
  | _ => rfl

/-- The paths that round trips ask to be removed without its being acknowledged, one for each
request and in order. -/
def unacknowledged (device : Device σ) (trips : List (Trip σ)) : List String :=
  ((trips.filterMap (removal? device)).filter (!·.2)).map Prod.fst

theorem unremoved_rounds (device : Device σ) (trips : List (Trip σ)) :
    Client.unremoved (trips.map (Trip.round device)) = unacknowledged device trips := by
  induction trips with
  | nil => rfl
  | cons trip trips ih =>
      have hfirst := unremoved?_round device trip
      unfold Client.unremoved unacknowledged at *
      rw [List.map_cons, List.filterMap_cons, List.filterMap_cons, hfirst, ih]
      rcases trip.removal? device with _ | ⟨path, _ | _⟩ <;> rfl

end Trip

/-- However the device answers, a removal that returns or raises left-over paths tells exactly the
paths of those requests for removal that were not acknowledged, one for each request and in order;
every other one was answered by the status of success. -/
theorem removal_report_exact {σ : Type} (device : Device σ) (session : Session σ) (depth : Nat)
    (path : String) (force : Bool) (left : List String) :
    let trips := session.programTrips device (Client.removeTree depth path force)
    let outcome := (session.run device (Client.removeTree depth path force)).1
    outcome = .finished (.ok left) ∨ outcome = .finished (.error (.removeFailed left)) →
      left = Trip.unacknowledged device trips ∧
        ∀ trip ∈ trips, ∀ other, trip.request = .remove other → other ∉ left →
          ∃ reply, trip.reply? device = some reply ∧ reply.operation = .status ∧
            reply.payload = Word.littleEndian 0 := by
  intro trips outcome houtcome
  have hsound := session.rounds_sound device (Client.removeTree depth path force)
  have hending := (session.run_course device depth path force).ending hsound
  have hleft : left = Client.unremoved (trips.map (Trip.round device)) := by
    rcases houtcome with hreturned | hraised
    · rw [show (session.run device _).1 = _ from hreturned] at hending
      exact hending.left_eq
    · rw [show (session.run device _).1 = _ from hraised] at hending
      exact (hending.of_removeFailed hsound).1
  rw [Trip.unremoved_rounds] at hleft
  refine ⟨hleft, fun trip htrip other hrequest hother => ?_⟩
  have hremoval : trip.removal? device = some (other, trip.acknowledged device) := by
    rw [Trip.removal?, hrequest]
  have hacknowledged : trip.acknowledged device = true := by
    by_contra hrefused
    rw [Bool.not_eq_true] at hrefused
    rw [hrefused] at hremoval
    apply hother
    rw [hleft]
    apply List.mem_map.mpr
    refine ⟨(other, false), List.mem_filter.mpr ⟨?_, rfl⟩, rfl⟩
    exact List.mem_filterMap.mpr ⟨trip, htrip, hremoval⟩
  obtain ⟨reply, hreply, hsuccess⟩ := (Option.any_eq_true _ _).mp hacknowledged
  simp only [Frame.isSuccess, Bool.and_eq_true, beq_iff_eq] at hsuccess
  exact ⟨reply, hreply, hsuccess⟩

def Script.keepsEntry : Session Script :=
  .fresh {} ⟨[kind "S_IFDIR", strings ["a", "b"], kind "S_IFREG", code 10, kind "S_IFREG", code 0,
    code 33], 0, none, none, false⟩ (.empty "host") []

theorem removal_report_kept :
    (Script.keepsEntry.run Script.device (Client.removeTree 2 "/d" true)).1 =
      .finished (.ok ["/d/a", "/d"]) ∧
    Trip.unacknowledged Script.device
      (Script.keepsEntry.programTrips Script.device (Client.removeTree 2 "/d" true)) =
        ["/d/a", "/d"] := by
  have houtcome : (Script.keepsEntry.run Script.device (Client.removeTree 2 "/d" true)).1 =
      .finished (.ok ["/d/a", "/d"]) := by cbv
  have hreport := removal_report_exact Script.device Script.keepsEntry 2 "/d" true ["/d/a", "/d"]
    (.inl houtcome)
  exact ⟨houtcome, hreport.1.symm⟩

end FileConduit

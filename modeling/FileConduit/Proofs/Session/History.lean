import FileConduit.Proofs.Session.RoundTrip
import Mathlib

/-!
# Histories

What a user does with a client is a list of uses: operations, run to their end or given up
after a while, and cancellations.  Every operation is a program, so a history may hold any
operations in any order.  The session after a history is reached from the first one by round
trips alone, apart from steps aside that leave the connection as it is.

Mathlib is imported whole in this module only, for the modules above it that evaluate a history on
given input: the equations for strings and bytes that this takes come with no part of it alone.
-/

namespace FileConduit

/-- A round trip of a run: what is asked, and the session that asks. -/
structure Trip (σ : Type) where
  before : Session σ
  request : Request

namespace Trip

variable {σ : Type} (device : Device σ) (trip : Trip σ)

/-- What the operation is told; nothing if the caller gives up. -/
def outcome : Option (Except ClientError trip.request.Answer) :=
  (trip.before.call device trip.request).1

def after : Session σ :=
  (trip.before.call device trip.request).2

def proceeds : Bool :=
  !trip.before.cancelled && !trip.before.desynchronized

def sent? : Option Frame :=
  if trip.proceeds then
    match (device.react trip.before.device trip.request).1 with
    | .taken _ _ => some (trip.request.frame trip.before.packetNumber)
    | .refused _ => none
  else none

def arrivals : List Arrival :=
  if trip.proceeds then
    match (device.react trip.before.device trip.request).1 with
    | .taken _ arrivals => arrivals
    | .refused _ => []
  else []

def reply? : Option Frame :=
  if trip.before.cancelled then none
  else
    match (trip.before.exchange device trip.request).1 with
    | some (.ok reply) => some reply
    | _ => none

def sending (trips : List (Trip σ)) : List (Trip σ) :=
  trips.filter fun trip => (trip.sent? device).isSome

def replies (trips : List (Trip σ)) : List Frame :=
  trips.filterMap (reply? device)

theorem course : trip.before.Course device trip.request (trip.outcome device)
    (trip.after device) :=
  trip.before.call_course device trip.request

end Trip

inductive Use : Type 1 where
  /-- Runs an operation, and gives it up after a span of time, if one is given. -/
  | operation {α : Type} (program : Program α) (span : Option Duration)
  | cancel

/-- Whether no time is set for giving up. -/
def Use.Patient : Use → Prop
  | operation _ span => span = none
  | cancel => True

namespace Session

variable {σ : Type}

/-- A session that has not been used.  The device may have sent something unasked. -/
def fresh (config : ClientConfig) (state : σ) (host : HostTree) (unasked : List Arrival) :
    Session σ where
  config := config
  device := state
  host := host
  inbox := { arrivals := unasked }

def programTrips (device : Device σ) : Program α → Session σ → List (Trip σ)
  | .done _, _ => []
  | .halted _, _ => []
  | .checkpoint next, session => programTrips device (next session.cancelled) session
  | .call request next, session =>
      ⟨session, request⟩ ::
        match session.call device request with
        | (none, _) => []
        | (some answer, session) => programTrips device (next answer) session
  | .host action next, session =>
      let (answer, host) := session.host.perform action
      programTrips device (next answer) { session with host }

def givingUp (session : Session σ) (span : Option Duration) : Session σ :=
  { session with givesUp := span.map fun span => session.inbox.clock + span.microseconds }

def use (device : Device σ) (session : Session σ) : Use → Session σ
  | .operation program span => (session.runFor device span program).2
  | .cancel => session.cancel

def useTrips (device : Device σ) (session : Session σ) : Use → List (Trip σ)
  | .operation program span => (session.givingUp span).programTrips device program
  | .cancel => []

def afterUses (device : Device σ) (session : Session σ) (uses : List Use) : Session σ :=
  uses.foldl (use device) session

def trips (device : Device σ) (session : Session σ) : List Use → List (Trip σ)
  | [] => []
  | first :: uses => session.useTrips device first ++ (session.use device first).trips device uses

/-- A step that leaves the connection as it is. -/
structure Aside (before after : Session σ) : Prop where
  config : after.config = before.config
  device : after.device = before.device
  inbox : after.inbox = before.inbox
  packetNumber : after.packetNumber = before.packetNumber
  desynchronized : after.desynchronized = before.desynchronized
  metrics : after.metrics = before.metrics
  traffic : after.traffic = before.traffic
  cancelled : before.cancelled = true → after.cancelled = true

inductive Reach (device : Device σ) (start : Session σ) : List (Trip σ) → Session σ → Prop where
  | start : Reach device start [] start
  | aside {trips : List (Trip σ)} {before after : Session σ}
      (hreach : Reach device start trips before) (haside : Aside before after) :
      Reach device start trips after
  | trip {trips : List (Trip σ)} {before : Session σ} (request : Request)
      (hreach : Reach device start trips before) :
      Reach device start (trips ++ [⟨before, request⟩]) (before.call device request).2

namespace Reach

variable {device : Device σ} {start middle final : Session σ} {first second : List (Trip σ)}

theorem trans (hfirst : Reach device start first middle)
    (hsecond : Reach device middle second final) :
    Reach device start (first ++ second) final := by
  induction hsecond with
  | start => simpa using hfirst
  | aside _ haside ih => exact .aside ih haside
  | trip request _ ih =>
      rw [← List.append_assoc]
      exact .trip request ih

/-- Each round trip of a run begins where those before it have led. -/
theorem before_of_append {earlier later : List (Trip σ)} {trip : Trip σ}
    {all : List (Trip σ)} (hreach : Reach device start all final)
    (hall : all = earlier ++ trip :: later) :
    Reach device start earlier trip.before := by
  induction hreach generalizing later with
  | start => simp at hall
  | aside _ _ ih => exact ih hall
  | @trip trips before request hreach ih =>
      rcases List.eq_nil_or_concat later with rfl | ⟨init, last, rfl⟩
      · obtain ⟨rfl, hlast⟩ := List.append_inj' hall rfl
        cases hlast
        exact hreach
      · rw [List.concat_eq_append, ← List.cons_append, ← List.append_assoc] at hall
        exact ih (List.append_inj' hall rfl).1

/-- The session after each round trip is reached by it and those before it. -/
theorem after_of_append {earlier later all : List (Trip σ)} {trip : Trip σ}
    (hreach : Reach device start all final) (hall : all = earlier ++ trip :: later) :
    Reach device start (earlier ++ [trip]) (trip.after device) :=
  .trip trip.request (hreach.before_of_append hall)

end Reach

theorem reach_run (device : Device σ) (program : Program α) (session : Session σ) :
    Reach device session (session.programTrips device program) (run device program session).2 := by
  induction program generalizing session with
  | done result => exact .start
  | halted cause => exact .start
  | checkpoint next ih => exact ih session.cancelled session
  | call request next ih =>
      have hstart : Reach device session [] session := .start
      have htrip := hstart.trip request
      unfold programTrips run
      cases hcall : session.call device request with
      | mk answer after =>
          rw [hcall] at htrip
          cases answer with
          | none => exact htrip
          | some answer => exact htrip.trans (ih answer after)
  | host action next ih =>
      have haside : Aside session { session with host := (session.host.perform action).2 } :=
        ⟨rfl, rfl, rfl, rfl, rfl, rfl, rfl, id⟩
      exact (Reach.aside .start haside).trans (ih (session.host.perform action).1 _)

theorem reach_use (device : Device σ) (session : Session σ) (use : Use) :
    Reach device session (session.useTrips device use) (session.use device use) := by
  cases use with
  | operation program span =>
      have hset : Aside session (session.givingUp span) :=
        ⟨rfl, rfl, rfl, rfl, rfl, rfl, rfl, id⟩
      have hrun := reach_run device program (session.givingUp span)
      exact .aside ((Reach.aside .start hset).trans hrun)
        ⟨rfl, rfl, rfl, rfl, rfl, rfl, rfl, id⟩
  | cancel => exact .aside .start ⟨rfl, rfl, rfl, rfl, rfl, rfl, rfl, fun _ => rfl⟩

theorem reach_afterUses (device : Device σ) (session : Session σ) (uses : List Use) :
    Reach device session (session.trips device uses) (session.afterUses device uses) := by
  induction uses generalizing session with
  | nil => exact .start
  | cons first uses ih =>
      exact (reach_use device session first).trans (ih (session.use device first))

end Session

end FileConduit

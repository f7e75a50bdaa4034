import FileConduit.Proofs.Session.History

/-!
# What a round trip does to the connection

Seen from the channel, a round trip does one of four things: nothing, a request that the channel
does not take, a request that goes out and stays without a reply, or a request and its reply.
-/

namespace FileConduit

namespace Trip

variable {σ : Type} {device : Device σ} {trip : Trip σ}

/-- What a round trip does to the connection: the frame that goes out, what the device sends for
it, the frame that comes back, and the session afterwards. -/
inductive Effect (trip : Trip σ) : Option Frame → List Arrival → Option Frame → Session σ → Prop
  | still : Effect trip none [] none trip.before
  /-- The channel does not take the request. -/
  | refused (state : σ) : Effect trip none [] none { trip.before.opened with device := state }
  /-- The request goes out and no frame comes. -/
  | unanswered (hflag : trip.before.desynchronized = false) {state : σ} {cancels : Bool}
      {arrivals : List Arrival} {receipt : Receipt} {inbox : Inbox} {metrics : Metrics}
      (hreceipt :
        (trip.before.waiting trip.request state cancels arrivals).receipt = (receipt, inbox))
      (hother : ∀ frame, receipt ≠ .frame frame) :
      Effect trip (some (trip.request.frame trip.before.packetNumber)) arrivals none
        { trip.before.waiting trip.request state cancels arrivals with inbox, metrics }
  /-- The request goes out and a frame comes back. -/
  | answered (hflag : trip.before.desynchronized = false) {state : σ} {cancels : Bool}
      {arrivals : List Arrival} {reply : Frame} {inbox : Inbox} {metrics : Metrics}
      (hreceipt :
        (trip.before.waiting trip.request state cancels arrivals).receipt = (.frame reply, inbox)) :
      Effect trip (some (trip.request.frame trip.before.packetNumber)) arrivals (some reply)
        { { trip.before.waiting trip.request state cancels arrivals with inbox }.received reply with
          metrics }

theorem reply?_of_exchange {answer : Option (Except ClientError Frame)} {after : Session σ}
    (hcancelled : trip.before.cancelled = false)
    (hexchange : trip.before.exchange device trip.request = (answer, after)) :
    trip.reply? device = answer.bind Except.toOption := by
  simp only [reply?, hcancelled, hexchange, Bool.false_eq_true, if_false]
  rcases answer with _ | ⟨error | reply⟩ <;> rfl

theorem sent?_of_taken (hcancelled : trip.before.cancelled = false)
    (hflag : trip.before.desynchronized = false) {cancels : Bool} {arrivals : List Arrival}
    {state : σ} (hreact : device.react trip.before.device trip.request =
      (.taken cancels arrivals, state)) :
    trip.sent? device = some (trip.request.frame trip.before.packetNumber) ∧
      trip.arrivals device = arrivals := by
  simp [sent?, Trip.arrivals, proceeds, hcancelled, hflag, hreact]

theorem sent?_of_refused {fault : ChannelFault} {state : σ}
    (hreact : device.react trip.before.device trip.request = (.refused fault, state)) :
    trip.sent? device = none ∧ trip.arrivals device = [] := by
  simp [sent?, arrivals, hreact]

theorem sent?_of_not_proceeds (device : Device σ) {trip : Trip σ}
    (hproceeds : trip.proceeds = false) :
    trip.sent? device = none ∧ trip.arrivals device = [] := by
  simp [sent?, arrivals, hproceeds]

theorem reply?_of_frame (hcancelled : trip.before.cancelled = false)
    (hflag : trip.before.desynchronized = false) {cancels : Bool} {arrivals : List Arrival}
    {state : σ} {reply : Frame} {inbox : Inbox}
    (hreact : device.react trip.before.device trip.request = (.taken cancels arrivals, state))
    (hreceipt :
      (trip.before.waiting trip.request state cancels arrivals).receipt = (.frame reply, inbox)) :
    trip.reply? device = some reply := by
  have hexchange := Session.exchange_of_taken hflag hreact
  rw [Session.awaitReply_of_frame hreceipt] at hexchange
  rw [reply?_of_exchange hcancelled hexchange]
  rfl

theorem effect (device : Device σ) (trip : Trip σ) :
    trip.Effect (trip.sent? device) (trip.arrivals device) (trip.reply? device)
      (trip.after device) := by
  have hcourse := trip.course device
  generalize trip.outcome device = outcome at hcourse
  generalize trip.after device = after at hcourse
  cases hcourse with
  | cancelled hcancelled =>
      have hproceeds : trip.proceeds = false := by simp [proceeds, hcancelled]
      obtain ⟨hsent, harrivals⟩ := sent?_of_not_proceeds device hproceeds
      have hreply : trip.reply? device = none := by simp [reply?, hcancelled]
      rw [hsent, harrivals, hreply]
      exact .still
  | desynchronized hcancelled hflag =>
      have hproceeds : trip.proceeds = false := by simp [proceeds, hflag]
      obtain ⟨hsent, harrivals⟩ := sent?_of_not_proceeds device hproceeds
      rw [hsent, harrivals,
        reply?_of_exchange hcancelled (Session.exchange_of_desynchronized hflag)]
      exact .still
  | refused hcancelled hflag hreact =>
      obtain ⟨hsent, harrivals⟩ := sent?_of_refused hreact
      rw [hsent, harrivals,
        reply?_of_exchange hcancelled (Session.exchange_of_refused hflag hreact)]
      exact .refused _
  | brokenOff hcancelled hflag hreact hreceipt hfailure =>
      obtain ⟨hsent, harrivals⟩ := sent?_of_taken hcancelled hflag hreact
      have hexchange := Session.exchange_of_taken hflag hreact
      rw [Session.awaitReply_of_failure hreceipt hfailure] at hexchange
      rw [hsent, harrivals, reply?_of_exchange hcancelled hexchange]
      obtain ⟨metrics, hmetrics⟩ := Session.countAny_eq
        { trip.before.waiting trip.request _ _ _ with inbox := _ } _
      rw [hmetrics]
      refine .unanswered hflag hreceipt fun frame hframe => ?_
      subst hframe
      cases hfailure
  | givenUp hcancelled hflag hreact hreceipt =>
      obtain ⟨hsent, harrivals⟩ := sent?_of_taken hcancelled hflag hreact
      have hexchange := Session.exchange_of_taken hflag hreact
      rw [Session.awaitReply_of_abandoned hreceipt] at hexchange
      rw [hsent, harrivals, reply?_of_exchange hcancelled hexchange]
      exact .unanswered hflag hreceipt (by simp)
  | answered hcancelled hflag hreact hreceipt =>
      obtain ⟨hsent, harrivals⟩ := sent?_of_taken hcancelled hflag hreact
      rw [hsent, harrivals, reply?_of_frame hcancelled hflag hreact hreceipt]
      obtain ⟨metrics, hmetrics⟩ := Session.observe_eq
        ({ trip.before.waiting trip.request _ _ _ with inbox := _ }.received _)
        (trip.request.answer trip.before.config.tellByteOrder _)
      rw [hmetrics]
      exact .answered hflag hreceipt

end Trip

end FileConduit

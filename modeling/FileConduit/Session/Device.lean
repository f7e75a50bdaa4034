import FileConduit.Request
import FileConduit.Session.Channel

/-!
# Devices

A device is whatever sits at the other end of the channel: to each request it reacts, as its
state tells.  Its reaction is any sequence of arrivals, not only well-formed replies, and the
channel may refuse to carry the request at all.
-/

namespace FileConduit

inductive Reaction where
  /-- The channel does not take the request. -/
  | refused (fault : ChannelFault)
  /-- The request arrives; the user may cancel just then. -/
  | taken (cancels : Bool) (arrivals : List Arrival)
  deriving DecidableEq, Repr, Inhabited

structure Device (σ : Type) where
  react : σ → Request → Reaction × σ

end FileConduit

/-!
# Traffic counters

Seven counters that start at zero and wrap at 2^64.
-/

namespace FileConduit

structure Metrics where
  framesSent : UInt64
  framesReceived : UInt64
  bytesSent : UInt64
  bytesReceived : UInt64
  statusErrors : UInt64
  protocolErrors : UInt64
  abandonedRoundTrips : UInt64
  deriving DecidableEq, Repr

namespace Metrics

def zero : Metrics :=
  ⟨0, 0, 0, 0, 0, 0, 0⟩

instance : Inhabited Metrics := ⟨zero⟩

inductive Event where
  | frameSent (bytes : UInt64)
  | frameReceived (bytes : UInt64)
  | statusError
  | protocolError
  | roundTripAbandoned
  deriving DecidableEq, Repr

def count (metrics : Metrics) : Event → Metrics
  | .frameSent bytes =>
      { metrics with
        framesSent := metrics.framesSent + 1
        bytesSent := metrics.bytesSent + bytes }
  | .frameReceived bytes =>
      { metrics with
        framesReceived := metrics.framesReceived + 1
        bytesReceived := metrics.bytesReceived + bytes }
  | .statusError => { metrics with statusErrors := metrics.statusErrors + 1 }
  | .protocolError => { metrics with protocolErrors := metrics.protocolErrors + 1 }
  | .roundTripAbandoned =>
      { metrics with abandonedRoundTrips := metrics.abandonedRoundTrips + 1 }

def toList (metrics : Metrics) : List UInt64 :=
  [metrics.framesSent, metrics.framesReceived, metrics.bytesSent, metrics.bytesReceived,
    metrics.statusErrors, metrics.protocolErrors, metrics.abandonedRoundTrips]

end Metrics

end FileConduit

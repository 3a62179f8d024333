/-
What an agent says of itself.

An agent reports in at times of its own choice, with the same members in a heartbeat and in the
roster: `AgentHeartbeat` and `AgentInfo` are one type.
-/
import PacketTelemetry.Json.Form

namespace PacketTelemetry

open Json

/-- The state of an agent, as it was reported last. -/
structure Agent where
  id : String
  hostName : Option String
  ip : Option String
  status : Option String
  /-- The time of the report, in the words of the agent. -/
  timestamp : Option String
deriving DecidableEq, Repr

/-- How an agent is written and read. -/
def Agent.record : Record Agent where
  expected := "struct AgentInfo"
  blank := ⟨"", none, none, none, none⟩
  members := [
    Form.text.needed "agentId" (·.id) fun a v => { a with id := v },
    Form.text.maybe "hostName" (·.hostName) fun a v => { a with hostName := v },
    Form.text.maybe "ip" (·.ip) fun a v => { a with ip := v },
    Form.text.maybe "status" (·.status) fun a v => { a with status := v },
    Form.text.maybe "timestamp" (·.timestamp) fun a v => { a with timestamp := v }]

/-- The form of an agent. -/
def Agent.form : Form Agent := Agent.record.form

end PacketTelemetry

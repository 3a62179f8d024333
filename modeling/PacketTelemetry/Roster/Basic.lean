/-
The roster: the last report of every agent, as `AgentRegistry` has it.

A report takes the place of an earlier one as a whole, and an agent that falls silent stays.
Agents stand in ascending order of their names at all times. The program keeps them in no order,
and its `snapshot` sorts them.
-/
import PacketTelemetry.Roster.Agent

namespace PacketTelemetry

/-- The last report of every agent, by its name. -/
structure Roster where
  reports : Table Agent
deriving Repr

namespace Roster

/-- A roster of nobody. -/
def empty : Roster := ⟨[]⟩

/-- The roster after a report: what `AgentRegistry::on_heartbeat` inserts. -/
def report (r : Roster) (a : Agent) : Roster := ⟨Table.put a.id a r.reports⟩

/-- All agents: `AgentRegistry::snapshot`. -/
def agents (r : Roster) : List Agent := Table.values r.reports

/-- The number of agents: `AgentRegistry::agent_count`. -/
def count (r : Roster) : Nat := r.reports.length

end Roster

end PacketTelemetry

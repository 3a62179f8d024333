/-
The command line.

The program starts with the file it is given. It has no sockets of its own, so on its host nothing
can be listened on, and it ends where it would begin to listen. Its clocks are those of UTC.
-/
import PacketTelemetry.Startup
import Std.Time.DateTime.Timestamp

namespace PacketTelemetry

/-- The text of a file, if there is such a file and it holds text. -/
def readText? (path : String) : IO (Option String) := do
  try
    let text ← IO.FS.readFile path
    return some text
  catch _ => return none

/-- The time of day. -/
def timeOfDay : IO Time.Instant := do
  let t ← Std.Time.Timestamp.now
  return ⟨t.toSecondsSinceUnixEpoch.val, 0⟩

end PacketTelemetry

open PacketTelemetry in
/-- Starts the program, prints what it says and ends with its status. -/
def main (args : List String) : IO UInt32 := do
  let path := args.headD Startup.standardPath
  let content ← readText? path
  let stdout ← IO.getStdout
  let host : Host := {
    readText := fun p => if p = path then content else none
    listensUdp := fun _ _ => false
    listensHttp := fun _ _ => false
    now := ← timeOfDay
    zone := .utc
    colours := ← stdout.isTty }
  let start := Startup.run host args
  IO.print start.printed
  if let some line := start.errorLine? then IO.eprintln line
  return start.status.toUInt32

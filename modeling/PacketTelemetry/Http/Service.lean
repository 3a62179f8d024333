/-
The collector as it is asked over HTTP, by the `router`.

A path names a resource, and a resource answers to some verbs: one that asks, and its twin that
leaves out the body, or one that tells. A body has to be JSON and to say so, and to have two
mebibytes at the most, which is what the server takes where nothing else is set; what stands
behind its first value is ignored. A stream of events is a new subscriber on a channel.
-/
import PacketTelemetry.Collector.Inbound
import PacketTelemetry.Http.MediaType
import PacketTelemetry.Http.Target
import PacketTelemetry.Text.Utf8

namespace PacketTelemetry.Http

open Json Time

/-! ## Requests -/

/-- A request, its path taken out of its target. -/
structure Request where
  method : String
  path : List Char
  contentType : Option String
  body : Source

/-- A request of these parts, if they can form one. -/
def Request.make? (method target : String) (contentType : Option String) (body : Source) :
    Option Request := do
  let path ← targetPath target
  if isToken method && (contentType.getD "").toList.all isHeaderChar then
    some ⟨method, path, contentType, body⟩
  else none

/-- What a path names. The parts that vary are as they stand in the path. -/
inductive Resource where
  | packets
  | batch
  | latest (count : List Char)
  | packetStream
  | agents
  | heartbeat
  | stream (channel : List Char)
deriving DecidableEq, Repr

/-- The resource of a path, by the routes of `router`. -/
def Resource.ofPath? (path : List Char) : Option Resource :=
  match (segments path).map String.ofList with
  | ["", "api", "v1", "packets"] => some .packets
  | ["", "api", "v1", "packets", "batch"] => some .batch
  | ["", "api", "v1", "packets", "latest", count] =>
    if count.isEmpty then none else some (.latest count.toList)
  | ["", "api", "v1", "packets", "stream"] => some .packetStream
  | ["", "api", "v1", "agents"] => some .agents
  | ["", "api", "v1", "agents", "heartbeat"] => some .heartbeat
  | ["", "api", "v1", "stream", channel] =>
    if channel.isEmpty then none else some (.stream channel.toList)
  | _ => none

/-- A count as it stands in a path: digits, a plus sign before them allowed, below `2 ^ 64`. -/
def count? (text : String) : Option Nat :=
  let digits := match text.toList with
    | '+' :: rest => rest
    | cs => cs
  if digits.isEmpty || !digits.all Char.isDigit then none
  else
    let n := digits.foldl (fun n c => n * 10 + (c.toNat - '0'.toNat)) 0
    if n < Decimal.twoTo 64 then some n else none

/-! ## Responses -/

/-- What a response carries. -/
inductive Content where
  | nothing
  | json (text : String)
  /-- Events, from a subscriber of a channel. -/
  | events (c : Channel) (id : Nat)
deriving DecidableEq, Repr

/-- The answer to a request. -/
structure Response where
  status : Nat
  content : Content
deriving DecidableEq, Repr

/-- An answer without a body. -/
def Response.bare (status : Nat) : Response := ⟨status, .nothing⟩

/-- An answer in JSON. -/
def Response.ofValue (status : Nat) (v : Value) : Response := ⟨status, .json v.render⟩

/-- The answer that tells why packets were not taken in or not found, by
`IngestError::into_response`. -/
def Response.ofError (e : IngestError) : Response :=
  let status := match e with
    | .noPackets => 400
    | .store _ => 500
  .ofValue status (.object [("error", .text e.message)])

/-- The status for a body that is not what is wanted. -/
def faultStatus : Fault → Nat
  | .malformed => 400
  | .truncated => 400
  | .mismatch => 422

/-- The most octets that a body may have: two mebibytes. -/
def maxBody : Nat := 2097152

/-- The value in the body of a request, or the status that refuses it. -/
def Request.value {α : Type} (r : Request) (f : Form α) : Except Nat α :=
  if !isJson (r.contentType.getD "") then .error 415
  else if !shorterThan (maxBody + 1) r.body then .error 413
  else (f.ofStart r.body).mapError faultStatus

/-- The event that carries an item of a channel, by the clocks of a place: what `sse` makes of
it. -/
def event (z : Zone) (c : Channel) (item : c.Item) : String :=
  "data: " ++ (c.form z).render item ++ "\n\n"

/-! ## Answers -/

/-- The state after a request, its answer, and the alerts raised by what it brought. -/
structure Served where
  collector : Collector
  response : Response
  alerts : List Alert

/-- An answer that changes nothing. -/
def Served.unchanged (c : Collector) (response : Response) : Served := ⟨c, response, []⟩

/-- An answer with packets, or with the reason why there are none: `latest_packets` and
`latest_by_id`. -/
def Served.packets (c : Collector) (found : Except IngestError (List StoredPacket)) : Served :=
  .unchanged c <| match found with
    | .ok ps => .ofValue 200 ((StoredPacket.form c.zone).list.write ps)
    | .error e => .ofError e

/-- An answer with the events of a channel: `sse`. -/
def Served.stream (c : Collector) (ch : Channel) : Served :=
  let (channels, id) := c.channels.subscribe ch
  ⟨{ c with channels }, ⟨200, .events ch id⟩, []⟩

/-- The channel that a part of a path names: `stream_channel`. Packets have a path of their own. -/
def streamChannel? (name : String) : Option Channel :=
  match Channel.ofName? name with
  | some .packets => none
  | found => found

/-- A resource is asked, or nothing if it cannot be. -/
def ask (c : Collector) : Resource → Option Served
  | .packets => some (.packets c (c.latestByTimestamp c.latestLimit))
  | .latest count =>
    some <| match (Text.Utf8.strict (unescapeOctets count)).bind count? with
      | some n => .packets c (c.latestById n)
      | none => .unchanged c (.bare 400)
  | .packetStream => some (.stream c .packets)
  | .agents => some (.unchanged c (.ofValue 200 (Agent.form.list.write c.roster.agents)))
  | .stream channel =>
    some <| match Text.Utf8.strict (unescapeOctets channel) with
      | none => .unchanged c (.bare 400)
      | some name =>
        match streamChannel? name with
        | some ch => .stream c ch
        | none => .unchanged c (.bare 404)
  | .batch => none
  | .heartbeat => none

/-- A packet is told of: `create_packet`. -/
def tellPacket (c : Collector) (now : Moment) (p : Packet) : Served :=
  match c.ingest p now with
  | .ok (c, kept, alerts) => ⟨c, .ofValue 200 ((StoredPacket.form c.zone).write kept), alerts⟩
  | .error e => .unchanged c (.ofError e)

/-- A batch is told of: `create_batch`. -/
def tellBatch (c : Collector) (now : Nat → Moment) (b : Batch) : Served :=
  match c.ingestBatch b now with
  | .ok (c, _, alerts) => ⟨c, .bare 202, alerts⟩
  | .error e => .unchanged c (.ofError e)

/-- A heartbeat is told of: `agent_heartbeat`. -/
def tellHeartbeat (c : Collector) (a : Agent) : Served :=
  ⟨c.directHeartbeat a, .bare 200, []⟩

/-- The value in the body of a request is told of, or the request refused. -/
def telling {α : Type} (c : Collector) (r : Request) (f : Form α) (tell : α → Served) : Served :=
  match r.value f with
  | .ok a => tell a
  | .error status => .unchanged c (.bare status)

/-- A resource is told what the body of a request says, or nothing if it cannot be told. -/
def tell (c : Collector) (now : Nat → Moment) (r : Request) : Resource → Option Served
  | .packets => some (telling c r Packet.form (tellPacket c (now 0)))
  | .batch => some (telling c r Batch.form (tellBatch c now))
  | .heartbeat => some (telling c r Agent.form (tellHeartbeat c))
  | _ => none

/-- An answer without its body: JSON is left empty, and nobody listens to events. -/
def Served.headOnly (s : Served) : Served :=
  match s.response.content with
  | .nothing => s
  | .json _ => { s with response := { s.response with content := .json "" } }
  | .events ch id =>
    { s with collector := { s.collector with channels := s.collector.channels.leave ch id } }

/-- A request is answered. `now` tells the moments at which its packets are taken in. -/
def serve (c : Collector) (now : Nat → Moment) (r : Request) : Served :=
  match Resource.ofPath? r.path with
  | none => .unchanged c (.bare 404)
  | some resource =>
    let answer :=
      if r.method = "GET" then ask c resource
      else if r.method = "HEAD" then (ask c resource).map (·.headOnly)
      else if r.method = "POST" then tell c now r resource
      else none
    answer.getD (.unchanged c (.bare 405))

end PacketTelemetry.Http

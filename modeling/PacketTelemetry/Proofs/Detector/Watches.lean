/-
The detector over a run of packets: what it comes to (`Detector.after`), and
the alerts each packet raised (`Detector.watched`).

A packet of an address moves the two things kept under that address and no
others, and each kind of alert is the doing of one watch. The laws of either
watch (`Detector.PortScan`, `Detector.TrafficSpike`) rest on this alone.
-/
import PacketTelemetry.Detector.Basic

namespace PacketTelemetry

open Time

/-- A stored packet, and the moment at which it is processed. -/
structure Sighting where
  packet : StoredPacket
  now : Moment
deriving DecidableEq, Repr

/-- A packet of which nothing counts but its address, its port and when it is processed. -/
def Sighting.of (ip : String) (port : Option Int32) (ticks : Int) : Sighting :=
  ⟨⟨0, ⟨0, 0⟩, { Packet.blank with srcIp := some ip, dstPort := port }⟩, .once ⟨0, 0⟩ ticks⟩

/-- The time of day at which a kind of alert is raised, if it is. -/
def Moment.raisedAt (now : Moment) : AlertKind → Instant
  | .portScan => now.scanned
  | .trafficSpike => now.spiked

/-- The alerts of one kind. -/
def alertsOf (kind : AlertKind) (alerts : List Alert) : List Alert :=
  alerts.filter fun a => a.kind = kind

/-- An alert but for the time it was raised. -/
def Alert.undated (a : Alert) : Alert := { a with detectedAt := ⟨0, 0⟩ }

namespace Detector

/-- The detector that packets lead to, one after another. -/
def after (d : Detector) (records : List Sighting) : Detector :=
  records.foldl (fun d s => (d.process s.packet s.now).1) d

/-- Packets, one after another, each with the alerts it raises. -/
def watched (d : Detector) : List Sighting → List (Sighting × List Alert)
  | [] => []
  | s :: rest => (s, (d.process s.packet s.now).2) :: watched (d.process s.packet s.now).1 rest

variable (d : Detector)

@[simp] theorem after_nil : d.after [] = d := rfl

@[simp] theorem after_cons (s : Sighting) (records : List Sighting) :
    d.after (s :: records) = (d.process s.packet s.now).1.after records := rfl

@[simp] theorem after_append (records records' : List Sighting) :
    d.after (records ++ records') = (d.after records).after records' :=
  List.foldl_append

theorem watched_append (records records' : List Sighting) :
    d.watched (records ++ records') = d.watched records ++ (d.after records).watched records' := by
  induction records generalizing d with
  | nil => rfl
  | cons s records ih => simp [watched, ih]

@[simp] theorem watched_fst (records : List Sighting) : (d.watched records).map (·.1) = records := by
  induction records generalizing d with
  | nil => rfl
  | cons s records ih => simp [watched, ih]

/-- The last packet of a run meets the detector that the others led to. -/
theorem watched_snoc (records : List Sighting) (s : Sighting) :
    d.watched (records ++ [s]) =
      d.watched records ++ [(s, ((d.after records).process s.packet s.now).2)] :=
  watched_append d records [s]

/-! ## One watch and the other -/

variable {d}

@[simp] theorem new_limits (limits : Limits) : (new limits).limits = limits := rfl

@[simp] theorem seePort?_limits (ip : String) (port : Option Int32) :
    (d.seePort? ip port).1.limits = d.limits := by
  cases port <;> rfl

@[simp] theorem seePort?_arrivals (ip : String) (port : Option Int32) :
    (d.seePort? ip port).1.arrivals = d.arrivals := by
  cases port <;> rfl

/-- The arrival watch does not see what the port watch did. -/
theorem seeArrival_seePort? (ip ip' : String) (port : Option Int32) (now : Int) :
    ((d.seePort? ip' port).1.seeArrival ip now).2 = (d.seeArrival ip now).2 := by
  simp [seeArrival, arrivalsOf, window]

@[simp] theorem process_limits (s : StoredPacket) (now : Moment) :
    (d.process s now).1.limits = d.limits := by
  unfold process
  split
  · rfl
  · split
    · rfl
    · simp [watch, seeArrival]

@[simp] theorem after_limits (records : List Sighting) : (d.after records).limits = d.limits := by
  induction records generalizing d with
  | nil => rfl
  | cons s records ih => rw [after_cons, ih, process_limits]

/-- What holds of each packet with its alerts, whatever came before, holds in every run. -/
theorem forall_watched {P : Sighting → List Alert → Prop}
    (h : ∀ (e : Detector) (s : Sighting), e.limits = d.limits → P s (e.process s.packet s.now).2)
    (records : List Sighting) : ∀ w ∈ d.watched records, P w.1 w.2 := by
  induction records generalizing d with
  | nil => simp [watched]
  | cons s records ih =>
    intro w hw
    rcases List.mem_cons.1 hw with rfl | hw
    · exact h d s rfl
    · exact ih (fun e s he => h e s (he.trans (process_limits _ _))) w hw

section

variable {s : StoredPacket} {x : String} (hx : x ≠ "") (hip : s.srcIp = some x) (now : Moment)

include hx hip

/-- A packet that says where it came from is watched. -/
theorem process_of : d.process s now = d.watch x s.dstPort now := by
  unfold process
  simp [hip, hx]

/-- The alerts of a packet: at most one of each watch, the port watch first. -/
theorem process_alerts :
    (d.process s now).2 =
      ((d.seePort? x s.dstPort).2.map (alert .portScan x now.scanned)).toList ++
        ((d.seeArrival x now.ticks).2.map (alert .trafficSpike x now.spiked)).toList := by
  rw [process_of hx hip]
  simp only [watch, seeArrival_seePort?]

theorem portScans_process :
    alertsOf .portScan (d.process s now).2 =
      ((d.seePort? x s.dstPort).2.map (alert .portScan x now.scanned)).toList := by
  rw [process_alerts hx hip]
  cases (d.seePort? x s.dstPort).2 <;> cases (d.seeArrival x now.ticks).2 <;> simp [alertsOf, alert]

theorem trafficSpikes_process :
    alertsOf .trafficSpike (d.process s now).2 =
      ((d.seeArrival x now.ticks).2.map (alert .trafficSpike x now.spiked)).toList := by
  rw [process_alerts hx hip]
  cases (d.seePort? x s.dstPort).2 <;> cases (d.seeArrival x now.ticks).2 <;> simp [alertsOf, alert]

theorem portsOf_process :
    (d.process s now).1.portsOf x =
      match s.dstPort with
      | none => d.portsOf x
      | some port => (watchPort d.limits.ports port (d.portsOf x)).1 := by
  rw [process_of hx hip]
  cases hp : s.dstPort <;>
    simp [watch, seePort?, seePort, seeArrival, portsOf, Table.get?_put_self]

theorem arrivalsOf_process :
    (d.process s now).1.arrivalsOf x =
      (watchArrival d.limits.arrivals d.window now.ticks (d.arrivalsOf x)).1 := by
  rw [process_of hx hip]
  simp [watch, seeArrival, arrivalsOf, window, Table.get?_put_self]

end

theorem undated_alert (kind : AlertKind) (ip : String) (t : Instant) (raised : Option Nat) :
    (raised.map (alert kind ip t)).toList.map (·.undated) =
      (raised.map (alert kind ip ⟨0, 0⟩)).toList := by
  cases raised <;> rfl

/-! ## One address and the others -/

section

variable {s : StoredPacket} {x : String} (hip : s.srcIp ≠ some x) (now : Moment)

include hip

theorem portsOf_process_other : (d.process s now).1.portsOf x = d.portsOf x := by
  unfold process
  split
  · rfl
  next ip hs =>
  have hne : x ≠ ip := fun h => hip (h ▸ hs)
  split
  · rfl
  · cases s.dstPort <;>
      simp [watch, seePort?, seePort, seeArrival, portsOf, Table.get?_put_other hne]

theorem arrivalsOf_process_other : (d.process s now).1.arrivalsOf x = d.arrivalsOf x := by
  unfold process
  split
  · rfl
  next ip hs =>
  have hne : x ≠ ip := fun h => hip (h ▸ hs)
  split
  · rfl
  · simp [watch, seeArrival, arrivalsOf, Table.get?_put_other hne]

end

/-- An alert is about the address of the packet that raised it. -/
theorem srcIp_of_mem_process {s : StoredPacket} {now : Moment} {a : Alert}
    (ha : a ∈ (d.process s now).2) : s.srcIp = some a.srcIp ∧ a.srcIp ≠ "" := by
  unfold process at ha
  split at ha
  · simp at ha
  next ip hs =>
  split at ha
  · simp at ha
  next hne =>
  have hip : a.srcIp = ip := by
    simp only [watch, List.mem_append, Option.mem_toList, Option.map_eq_some_iff] at ha
    rcases ha with ⟨n, -, rfl⟩ | ⟨n, -, rfl⟩ <;> rfl
  rw [hip]
  exact ⟨hs, by simpa using hne⟩

theorem detectedAt_of_mem_process {s : StoredPacket} {now : Moment} {a : Alert}
    (ha : a ∈ (d.process s now).2) : a.detectedAt = now.raisedAt a.kind := by
  unfold process at ha
  split at ha
  · simp at ha
  · split at ha
    · simp at ha
    · simp only [watch, List.mem_append, Option.mem_toList, Option.map_eq_some_iff] at ha
      rcases ha with ⟨n, -, rfl⟩ | ⟨n, -, rfl⟩ <;> rfl

/-- A packet raises at most one alert of each kind, that about ports first. -/
theorem kinds_process (s : StoredPacket) (now : Moment) :
    ((d.process s now).2.map (·.kind)).Sublist [.portScan, .trafficSpike] := by
  unfold process
  split
  · exact List.nil_sublist _
  · split
    · exact List.nil_sublist _
    · simp only [watch]
      generalize (Detector.seePort? _ _ _).2 = scan
      generalize (Detector.seeArrival _ _ _).2 = spike
      cases scan <;> cases spike <;> simp [alert]

end Detector

end PacketTelemetry

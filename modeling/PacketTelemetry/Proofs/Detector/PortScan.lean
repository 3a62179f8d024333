/-
Port scans, told of every run: the ports an address tries are cut from the
left into shortest pieces of so many distinct ports (`IsCut`), and an alert is
raised at the end of each piece and nowhere else. The ports kept for the
address are those of the piece that is not finished.

The list of ports is all that counts. When a packet came, how often a port was
tried within a piece, and what packets there were without a port, or from
elsewhere, cannot be told from the alerts.
-/
import Mathlib.Data.Finset.Card
import PacketTelemetry.Proofs.Detector.Watches

namespace PacketTelemetry

open Time

/-! ## Shortest pieces -/

section

variable {α : Type} [DecidableEq α]

/-- A list cut from the left into shortest pieces of `n` distinct items each, and a rest that
has fewer. -/
structure IsCut (n : Nat) (items : List α) (pieces : List (List α)) (rest : List α) : Prop where
  joined : pieces.flatten ++ rest = items
  full : ∀ piece ∈ pieces, piece.toFinset.card = n
  shortest : ∀ piece ∈ pieces, ∀ start, start <+: piece → start ≠ piece → start.toFinset.card < n
  unfinished : rest.toFinset.card < n

theorem card_toFinset_mono {l l' : List α} (h : l <+: l') :
    l.toFinset.card ≤ l'.toFinset.card :=
  Finset.card_le_card fun _ ha => List.mem_toFinset.2 (h.subset (List.mem_toFinset.1 ha))

omit [DecidableEq α] in
/-- A proper prefix of a list and one item more is a prefix of the list. -/
theorem isPrefix_of_isPrefix_snoc {l start : List α} {a : α} (h : start <+: l ++ [a])
    (hne : start ≠ l ++ [a]) : start <+: l := by
  rcases List.prefix_concat_iff.1 h with rfl | h
  · exact absurd rfl hne
  · exact h

namespace IsCut

variable {n : Nat} {items rest : List α} {pieces : List (List α)}

theorem nil (hn : 0 < n) : IsCut n ([] : List α) [] [] := ⟨rfl, by simp, by simp, by simpa using hn⟩

/-- An item that does not finish the rest. -/
theorem extend (hc : IsCut n items pieces rest) {a : α} (h : (rest ++ [a]).toFinset.card < n) :
    IsCut n (items ++ [a]) pieces (rest ++ [a]) := by
  refine ⟨?_, hc.full, hc.shortest, h⟩
  rw [← List.append_assoc, hc.joined]

/-- An item that makes a piece of the rest. -/
theorem finish (hc : IsCut n items pieces rest) {a : α} (h : (rest ++ [a]).toFinset.card = n) :
    IsCut n (items ++ [a]) (pieces ++ [rest ++ [a]]) [] := by
  refine ⟨?_, ?_, ?_, ?_⟩
  · rw [List.flatten_concat, List.append_nil, ← List.append_assoc, hc.joined]
  · intro piece hp
    rcases List.mem_append.1 hp with hp | hp
    · exact hc.full piece hp
    · rw [List.mem_singleton.1 hp, h]
  · intro piece hp start hs hne
    rcases List.mem_append.1 hp with hp | hp
    · exact hc.shortest piece hp start hs hne
    · rw [List.mem_singleton.1 hp] at hs hne
      exact Nat.lt_of_le_of_lt (card_toFinset_mono (isPrefix_of_isPrefix_snoc hs hne)) hc.unfinished
  · exact Nat.lt_of_le_of_lt (by simp) hc.unfinished

theorem tail {piece : List α} (hc : IsCut n items (piece :: pieces) rest) :
    IsCut n (pieces.flatten ++ rest) pieces rest :=
  ⟨rfl, fun p hp => hc.full p (.tail _ hp), fun p hp => hc.shortest p (.tail _ hp), hc.unfinished⟩

/-- A list with a first piece is not one without. -/
theorem not_nil {piece rest' : List α} (hc : IsCut n items (piece :: pieces) rest)
    (hc' : IsCut n items [] rest') : False := by
  have hp : piece <+: rest' := ⟨pieces.flatten ++ rest, by
    have hj := hc.joined.trans hc'.joined.symm
    simpa using hj⟩
  have hle := card_toFinset_mono hp
  have hfull := hc.full piece List.mem_cons_self
  have hrest := hc'.unfinished
  omega

/-- First pieces are equal: were one a proper prefix of the other, it would be too short. -/
theorem head_eq {piece piece' rest' : List α} {pieces' : List (List α)}
    (hc : IsCut n items (piece :: pieces) rest) (hc' : IsCut n items (piece' :: pieces') rest') :
    piece = piece' := by
  have hp : piece <+: items := ⟨pieces.flatten ++ rest, by simpa using hc.joined⟩
  have hp' : piece' <+: items := ⟨pieces'.flatten ++ rest', by simpa using hc'.joined⟩
  have hfull := hc.full piece List.mem_cons_self
  have hfull' := hc'.full piece' List.mem_cons_self
  by_contra hne
  rcases List.prefix_or_prefix_of_prefix hp hp' with h | h
  · have := hc'.shortest piece' List.mem_cons_self piece h hne
    omega
  · have := hc.shortest piece List.mem_cons_self piece' h (Ne.symm hne)
    omega

/-- There is one way to cut a list. -/
theorem unique {rest' : List α} {pieces' : List (List α)} (hc : IsCut n items pieces rest)
    (hc' : IsCut n items pieces' rest') : pieces' = pieces ∧ rest' = rest := by
  induction pieces generalizing items pieces' with
  | nil =>
    cases pieces' with
    | nil => exact ⟨rfl, hc'.joined.trans hc.joined.symm⟩
    | cons piece' pieces' => exact (hc'.not_nil hc).elim
  | cons piece pieces ih =>
    cases pieces' with
    | nil => exact (hc.not_nil hc').elim
    | cons piece' pieces' =>
      obtain rfl := hc.head_eq hc'
      have hrest : pieces'.flatten ++ rest' = pieces.flatten ++ rest := by
        have hj := hc'.joined.trans hc.joined.symm
        simpa using hj
      obtain ⟨rfl, rfl⟩ := ih hc.tail (hrest ▸ hc'.tail)
      exact ⟨rfl, rfl⟩

end IsCut

end

/-! ## Ports tried -/

/-- The port that a packet of an address tries. -/
def Sighting.tried? (x : String) (s : Sighting) : Option Int32 :=
  if s.packet.srcIp = some x then s.packet.dstPort else none

/-- The ports an address tries, in order. -/
def portsTried (x : String) (records : List Sighting) : List Int32 :=
  records.filterMap (·.tried? x)

/-- What is told of port scans, address and count, at each packet by which an address tries a
port. -/
def scansOf (x : String) (run : List (Sighting × List Alert)) : List (List (String × Nat)) :=
  (run.filter fun w => (w.1.tried? x).isSome).map fun w =>
    (alertsOf .portScan w.2).map fun a => (a.srcIp, a.count)

/-- What is to be told where the ports of an address are cut into pieces: each ends with an
alert. -/
def scansAt (x : String) (n : Nat) (pieces : List (List Int32)) (rest : List Int32) :
    List (List (String × Nat)) :=
  pieces.flatMap (fun piece => List.replicate (piece.length - 1) [] ++ [[(x, n)]]) ++
    List.replicate rest.length []

theorem scansAt_extend (x : String) (n : Nat) (pieces : List (List Int32)) (rest : List Int32)
    (port : Int32) : scansAt x n pieces (rest ++ [port]) = scansAt x n pieces rest ++ [[]] := by
  simp [scansAt, List.replicate_succ']

theorem scansAt_finish (x : String) (n : Nat) (pieces : List (List Int32)) (rest : List Int32)
    (port : Int32) :
    scansAt x n (pieces ++ [rest ++ [port]]) [] = scansAt x n pieces rest ++ [[(x, n)]] := by
  simp [scansAt]

theorem Sighting.tried?_eq_some {x : String} {s : Sighting} {port : Int32}
    (h : s.tried? x = some port) : s.packet.srcIp = some x ∧ s.packet.dstPort = some port := by
  unfold tried? at h
  split at h
  · next hip => exact ⟨hip, h⟩
  · cases h

namespace Detector

/-- The port watch lets the distinct ports grow until there are enough. -/
theorem watchPort_eq (limit : Nat) (port : Int32) {seen ports : List Int32} (hd : seen.Nodup)
    (hm : ∀ p, p ∈ seen ↔ p ∈ ports) :
    ∃ seen', seen'.Nodup ∧ (∀ p, p ∈ seen' ↔ p ∈ ports ++ [port]) ∧
      watchPort limit port seen =
        if limit ≤ (ports ++ [port]).toFinset.card then ([], some (ports ++ [port]).toFinset.card)
        else (seen', none) := by
  have hnodup : (if port ∈ seen then seen else port :: seen).Nodup := by
    split
    · exact hd
    · next hnot => exact List.nodup_cons.2 ⟨hnot, hd⟩
  have hmem : ∀ p, p ∈ (if port ∈ seen then seen else port :: seen) ↔ p ∈ ports ++ [port] := by
    intro p
    split
    · next hin => simpa [hm] using fun h : p = port => h ▸ (hm _).1 hin
    · simp [hm, or_comm]
  have hcard : (if port ∈ seen then seen else port :: seen).length =
      (ports ++ [port]).toFinset.card := by
    rw [← List.toFinset_card_of_nodup hnodup]
    congr 1
    ext p
    rw [List.mem_toFinset, List.mem_toFinset, hmem]
  exact ⟨_, hnodup, hmem, by simp only [watchPort, hcard]⟩

/-- What a run of packets has come to for the ports of an address. -/
structure ScanAccount (x : String) (limits : Limits) (records : List Sighting)
    (pieces : List (List Int32)) (rest : List Int32) : Prop where
  isCut : IsCut (max 1 limits.ports) (portsTried x records) pieces rest
  told : scansOf x ((new limits).watched records) = scansAt x (max 1 limits.ports) pieces rest
  distinct : (((new limits).after records).portsOf x).Nodup
  kept : ∀ port, port ∈ ((new limits).after records).portsOf x ↔ port ∈ rest

/-- A packet by which an address tries no port raises no alert about its ports, and leaves them
as they are. -/
theorem process_of_tried?_none (d : Detector) {x : String} (hx : x ≠ "") {s : Sighting}
    (ht : s.tried? x = none) :
    (d.process s.packet s.now).1.portsOf x = d.portsOf x ∧
      ∀ a ∈ (d.process s.packet s.now).2, a.kind = .portScan → a.srcIp ≠ x := by
  by_cases hip : s.packet.srcIp = some x
  · have hport : s.packet.dstPort = none := by simpa [Sighting.tried?, hip] using ht
    refine ⟨by rw [portsOf_process hx hip, hport], fun a ha hk => ?_⟩
    have hmem : a ∈ alertsOf .portScan (d.process s.packet s.now).2 :=
      List.mem_filter.2 ⟨ha, by simpa using hk⟩
    rw [portScans_process hx hip, hport] at hmem
    simp [seePort?] at hmem
  · refine ⟨portsOf_process_other hip _, fun a ha _ heq => ?_⟩
    exact hip (heq ▸ (srcIp_of_mem_process ha).1)

theorem portsTried_snoc (x : String) (records : List Sighting) (s : Sighting) :
    portsTried x (records ++ [s]) = portsTried x records ++ (s.tried? x).toList := by
  cases h : s.tried? x <;> simp [portsTried, h]

namespace ScanAccount

variable {x : String} {limits : Limits} {records : List Sighting} {pieces : List (List Int32)}
  {rest : List Int32}

theorem nil : ScanAccount x limits [] [] [] := ⟨.nil (by omega), rfl, .nil, fun _ => .rfl⟩

/-- A packet without a port, or from elsewhere. -/
theorem skip (acc : ScanAccount x limits records pieces rest) (hx : x ≠ "") {s : Sighting}
    (ht : s.tried? x = none) : ScanAccount x limits (records ++ [s]) pieces rest := by
  have hports := (process_of_tried?_none ((new limits).after records) hx ht).1
  refine ⟨?_, ?_, ?_, ?_⟩
  · simpa [portsTried_snoc, ht] using acc.isCut
  · rw [watched_snoc, ← acc.told]
    simp [scansOf, ht]
  · rw [after_append, after_cons, after_nil, hports]
    exact acc.distinct
  · rw [after_append, after_cons, after_nil, hports]
    exact acc.kept

/-- A packet with a port. Either the piece is not finished by it and nothing is told, or it is,
and the ports are let go. -/
theorem tries (acc : ScanAccount x limits records pieces rest) (hx : x ≠ "") {s : Sighting}
    {port : Int32} (ht : s.tried? x = some port) :
    (rest ++ [port]).toFinset.card < max 1 limits.ports ∧
        ScanAccount x limits (records ++ [s]) pieces (rest ++ [port]) ∨
      (rest ++ [port]).toFinset.card = max 1 limits.ports ∧
        ScanAccount x limits (records ++ [s]) (pieces ++ [rest ++ [port]]) [] := by
  obtain ⟨hip, hport⟩ := Sighting.tried?_eq_some ht
  obtain ⟨seen, hnodup, hmem, hwatch⟩ := watchPort_eq limits.ports port acc.distinct acc.kept
  have hports : ((new limits).after (records ++ [s])).portsOf x =
      (watchPort limits.ports port (((new limits).after records).portsOf x)).1 := by
    rw [after_append, after_cons, after_nil, portsOf_process hx hip, hport]
    simp only [after_limits, new_limits]
  have htold : scansOf x ((new limits).watched (records ++ [s])) =
      scansAt x (max 1 limits.ports) pieces rest ++
        [((watchPort limits.ports port (((new limits).after records).portsOf x)).2.map
          fun n => (x, n)).toList] := by
    have hscans : (alertsOf .portScan (((new limits).after records).process s.packet s.now).2).map
        (fun a => (a.srcIp, a.count)) =
          ((watchPort limits.ports port (((new limits).after records).portsOf x)).2.map
            fun n => (x, n)).toList := by
      rw [portScans_process hx hip, hport]
      simp only [seePort?, seePort, after_limits, new_limits]
      cases (watchPort _ _ _).2 <;> rfl
    rw [watched_snoc, ← acc.told, ← hscans]
    simp [scansOf, ht]
  have htried : portsTried x (records ++ [s]) = portsTried x records ++ [port] := by
    simp [portsTried_snoc, ht]
  have hle : (rest ++ [port]).toFinset.card ≤ rest.toFinset.card + 1 := by
    rw [List.toFinset_append]
    exact (Finset.card_union_le _ _).trans (by simp)
  have hpos : 0 < (rest ++ [port]).toFinset.card := Finset.card_pos.2 ⟨port, by simp⟩
  have hrest := acc.isCut.unfinished
  -- The rest had too few, so with one port more there are just enough or still too few.
  rw [hwatch] at hports htold
  split at hports
  · next hlimit =>
    have hcard : (rest ++ [port]).toFinset.card = max 1 limits.ports := by omega
    rw [if_pos hlimit, hcard] at htold
    refine .inr ⟨hcard, ⟨htried ▸ acc.isCut.finish hcard, ?_, ?_, ?_⟩⟩
    · rw [htold, scansAt_finish]
      rfl
    · rw [hports]
      exact .nil
    · rw [hports]
      exact fun _ => .rfl
  · next hlimit =>
    have hcard : (rest ++ [port]).toFinset.card < max 1 limits.ports := by omega
    rw [if_neg hlimit] at htold
    refine .inl ⟨hcard, ⟨htried ▸ acc.isCut.extend hcard, ?_, ?_, ?_⟩⟩
    · rw [htold, scansAt_extend]
      rfl
    · rw [hports]
      exact hnodup
    · rw [hports]
      exact hmem

/-- Every run has an account. -/
theorem of_run (x : String) (hx : x ≠ "") (limits : Limits) (records : List Sighting) :
    ∃ pieces rest, ScanAccount x limits records pieces rest := by
  induction records using List.reverseRecOn with
  | nil => exact ⟨[], [], nil⟩
  | append_singleton records s ih =>
    obtain ⟨pieces, rest, acc⟩ := ih
    cases ht : s.tried? x with
    | none => exact ⟨pieces, rest, acc.skip hx ht⟩
    | some port =>
      rcases acc.tries hx ht with ⟨-, acc⟩ | ⟨-, acc⟩
      · exact ⟨_, _, acc⟩
      · exact ⟨_, _, acc⟩

/-- A port tried again within a piece. -/
theorem again (acc : ScanAccount x limits records pieces rest) (hx : x ≠ "") {s : Sighting}
    {port : Int32} (ht : s.tried? x = some port) (hin : port ∈ rest) :
    alertsOf .portScan (((new limits).after records).process s.packet s.now).2 = [] := by
  obtain ⟨hip, hport⟩ := Sighting.tried?_eq_some ht
  obtain ⟨seen, -, -, hwatch⟩ := watchPort_eq limits.ports port acc.distinct acc.kept
  have hcard : (rest ++ [port]).toFinset.card = rest.toFinset.card := by
    congr 1
    ext p
    simpa using fun h : p = port => h ▸ hin
  have hpos : 0 < rest.toFinset.card := Finset.card_pos.2 ⟨port, List.mem_toFinset.2 hin⟩
  have hrest := acc.isCut.unfinished
  have hlimit : ¬ limits.ports ≤ (rest ++ [port]).toFinset.card := by omega
  rw [if_neg hlimit] at hwatch
  rw [portScans_process hx hip, hport]
  simp [seePort?, seePort, hwatch]

end ScanAccount

/-- **Port scans.** The ports an address tries have one cut into shortest pieces of as many
distinct ports as are needed, at least one. Where the address tries a port an alert is raised if
that ends a piece, which counts the ports of the piece, and none otherwise; no other packet
raises one about the address. What is kept are the ports of the piece that is not finished.
Nothing but the list of ports has a part in it, and none of its ports twice within a piece. -/
theorem portScan_segments (limits : Limits) (records : List Sighting) {x : String} (hx : x ≠ "") :
    ∃ pieces rest,
      (∀ pieces' rest', IsCut (max 1 limits.ports) (portsTried x records) pieces' rest' ↔
        pieces' = pieces ∧ rest' = rest) ∧
      scansOf x ((new limits).watched records) = scansAt x (max 1 limits.ports) pieces rest ∧
      (∀ w ∈ (new limits).watched records, w.1.tried? x = none →
        ∀ a ∈ w.2, a.kind = .portScan → a.srcIp ≠ x) ∧
      (((new limits).after records).portsOf x).Nodup ∧
      (∀ port, port ∈ ((new limits).after records).portsOf x ↔ port ∈ rest) ∧
      (∀ records', portsTried x records' = portsTried x records →
        scansOf x ((new limits).watched records') = scansOf x ((new limits).watched records)) ∧
      ∀ (s : Sighting) port, s.tried? x = some port → port ∈ rest →
        alertsOf .portScan (((new limits).after records).process s.packet s.now).2 = [] := by
  obtain ⟨pieces, rest, acc⟩ := ScanAccount.of_run x hx limits records
  refine ⟨pieces, rest, fun pieces' rest' => ⟨acc.isCut.unique, ?_⟩, acc.told, ?_, acc.distinct,
    acc.kept, fun records' hports => ?_, fun s port ht hin => acc.again hx ht hin⟩
  · rintro ⟨rfl, rfl⟩
    exact acc.isCut
  · exact forall_watched (P := fun s alerts => s.tried? x = none →
      ∀ a ∈ alerts, a.kind = .portScan → a.srcIp ≠ x)
      (fun d _ _ ht => (process_of_tried?_none d hx ht).2) records
  · obtain ⟨pieces', rest', acc'⟩ := ScanAccount.of_run x hx limits records'
    obtain ⟨rfl, rfl⟩ := acc.isCut.unique (hports ▸ acc'.isCut)
    rw [acc'.told, acc.told]

/-- Two ports are enough: an address tries one twice, then a second, and a third, while the clock
goes back and other packets come between. -/
theorem portScan_segments_of_two :
    scansOf "a" ((new ⟨2, 500, 10⟩).watched
      [.of "a" (some 80) 9, .of "a" (some 80) 5, .of "b" (some 22) 6, .of "a" none 7,
        .of "a" (some 443) 0, .of "a" (some 22) 8]) = [[], [], [("a", 2)], []] := by
  obtain ⟨pieces, rest, hcut, htold, -⟩ := portScan_segments ⟨2, 500, 10⟩
    [.of "a" (some 80) 9, .of "a" (some 80) 5, .of "b" (some 22) 6, .of "a" none 7,
      .of "a" (some 443) 0, .of "a" (some 22) 8] (x := "a") (by decide)
  have hshort : ∀ start ∈ [80, 80, 443].inits, start ≠ [80, 80, 443] →
      (start : List Int32).toFinset.card < 2 := by decide
  have hcut' : IsCut 2 [80, 80, 443, 22] [[80, 80, 443]] [(22 : Int32)] := by
    refine ⟨by decide, by decide, ?_, by decide⟩
    intro piece hp start hs
    rw [List.mem_singleton.1 hp] at hs ⊢
    exact hshort start ((List.mem_inits _ _).2 hs)
  obtain ⟨rfl, rfl⟩ := (hcut [[80, 80, 443]] [22]).1 hcut'
  exact htold

end Detector

end PacketTelemetry

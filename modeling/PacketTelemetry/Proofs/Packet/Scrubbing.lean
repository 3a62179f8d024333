/-
What becomes of a packet that is made fit to be kept: its texts lose their NUL
characters and nothing else (`Scrubbed`), and all of it that is no text stays
as it is (`Packet.Scrubbed`). No text has a NUL character after that
(`Packet.NulFree`), and to do it again changes nothing
(`Packet.normalize_normalize`).
-/
import Mathlib.Data.List.Forall2
import PacketTelemetry.Packet.Normal

namespace PacketTelemetry

/-! ## Texts -/

/-- A text, and what is left of it without its NUL characters: all others, in their order. -/
def Scrubbed (s t : String) : Prop := t.toList = s.toList.filter (· ≠ '\x00')

theorem scrubbed_scrub (s : String) : Scrubbed s (scrub s) := by
  rw [Scrubbed, scrub, String.toList_ofList]
  refine List.filter_congr fun c _ => ?_
  have hnul : c.toNat = 0 ↔ c = '\x00' := Char.toNat_inj (d := '\x00')
  simp [hnul]

namespace Scrubbed

variable {s t : String}

theorem nul_free (h : Scrubbed s t) : '\x00' ∉ t.toList := by
  rw [h]
  simp

/-- A text of nothing but NUL characters becomes empty. It is not lost. -/
theorem eq_empty (h : Scrubbed s t) (hs : ∀ c ∈ s.toList, c = '\x00') : t = "" := by
  have hnone : s.toList.filter (· ≠ '\x00') = [] := by simpa using hs
  exact String.toList_eq_nil_iff.1 (h.trans hnone)

theorem eq_of_nul_free (h : Scrubbed s t) (hs : '\x00' ∉ s.toList) : t = s := by
  have hall : s.toList.filter (· ≠ '\x00') = s.toList := by
    refine List.filter_eq_self.2 fun c hc => ?_
    have hne : c ≠ '\x00' := fun heq => hs (heq ▸ hc)
    simpa using hne
  exact String.toList_inj.1 (h.trans hall)

end Scrubbed

/-! ## Packets -/

namespace Packet

/-- The texts of a packet. -/
def texts (p : Packet) : List (Option String) :=
  [p.timestamp, p.srcMac, p.dstMac, p.arpOp, p.arpSrcIp, p.arpDstIp, p.srcIp, p.dstIp, p.protocol,
    p.ipFlags, p.tcpFlags, p.dnsQueryName, p.dnsQueryType, p.dnsAnswer, p.payload, p.httpInfo,
    p.tlsInfo, p.packetType, p.agentId, p.hostName, p.interfaceName]

/-- Its numbers of 32 bits. -/
def numbers (p : Packet) : List (Option Int32) :=
  [p.ttl, p.srcPort, p.dstPort, p.udpLen, p.icmpType, p.icmpCode, p.length]

/-- With the one number of 64 bits, that is all there is to a packet. -/
theorem ext_texts {p q : Packet} (ht : p.texts = q.texts) (hn : p.numbers = q.numbers)
    (hs : p.seq = q.seq) : p = q := by
  cases p
  cases q
  simp only [texts, numbers, List.cons.injEq, and_true] at ht hn hs
  simp [ht, hn, hs]

/-- A packet, and the packet with its texts scrubbed. What is absent stays absent, and what is no
text stays as it is. -/
structure Scrubbed (p q : Packet) : Prop where
  texts : List.Forall₂ (Option.Rel PacketTelemetry.Scrubbed) p.texts q.texts
  numbers : q.numbers = p.numbers
  seq : q.seq = p.seq

/-- A packet without a NUL character in any of its texts. -/
def NulFree (p : Packet) : Prop := ∀ t, some t ∈ p.texts → '\x00' ∉ t.toList

theorem scrubbed_normalize (p : Packet) : p.Scrubbed p.normalize := by
  refine ⟨?_, rfl, rfl⟩
  have htexts : p.normalize.texts = p.texts.map (Option.map scrub) := rfl
  rw [htexts, List.forall₂_map_right_iff, List.forall₂_same]
  intro t _
  cases t with
  | none => exact .none
  | some t => exact .some (scrubbed_scrub t)

theorem Scrubbed.nulFree {p q : Packet} (h : p.Scrubbed q) : q.NulFree := by
  have htexts := h.texts
  unfold NulFree
  generalize p.texts = ts, q.texts = us at htexts
  induction htexts with
  | nil => simp
  | cons hfirst _ ih =>
    intro t ht
    rcases List.mem_cons.1 ht with rfl | ht
    · cases hfirst with
      | some hscrubbed => exact hscrubbed.nul_free
    · exact ih t ht

/-- There is nothing to be scrubbed then. -/
theorem Scrubbed.eq_of_nulFree {p q : Packet} (h : p.Scrubbed q) (hp : p.NulFree) : q = p := by
  refine ext_texts ?_ h.numbers h.seq
  have htexts := h.texts
  unfold NulFree at hp
  generalize p.texts = ts, q.texts = us at htexts hp
  induction htexts with
  | nil => rfl
  | @cons t u _ _ hfirst _ ih =>
    have hsame : u = t := by
      cases hfirst with
      | none => rfl
      | some hscrubbed => rw [hscrubbed.eq_of_nul_free (hp _ List.mem_cons_self)]
    rw [hsame, ih fun t ht => hp t (List.mem_cons_of_mem _ ht)]

theorem nulFree_normalize (p : Packet) : p.normalize.NulFree := p.scrubbed_normalize.nulFree

/-- What is fit to be kept stays as it is. -/
theorem normalize_normalize (p : Packet) : p.normalize.normalize = p.normalize :=
  p.normalize.scrubbed_normalize.eq_of_nulFree p.nulFree_normalize

end Packet

end PacketTelemetry

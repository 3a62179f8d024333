/-
What is wrong with settings, in full and no more (`Settings.check_exact`).

Each problem stands for a rule that settings may break (`Settings.Breaks`). The
problems listed are those whose rules are broken (`Settings.mem_problems`), each
once and in the order of the sections (`Settings.problems_sublist`). A topic has
one problem at the most, so the topics that have none are as many as there are
names (`length_topicProblems`). Each problem is told in a line of its own,
whatever the names of the topics may hold (`splitOn_message`).
-/
import Mathlib.Data.Finset.Card
import PacketTelemetry.Settings.Validity

namespace PacketTelemetry

/-! ## Topics -/

theorem topicProblems_unnamed (seen : List String) (key : String)
    (entries : List (String × String)) :
    topicProblems seen ((key, "") :: entries) = .unnamedTopic key :: topicProblems seen entries :=
  if_pos rfl

theorem topicProblems_shared {seen : List String} {topic : String} (hname : topic ≠ "")
    (hseen : topic ∈ seen) (key : String) (entries : List (String × String)) :
    topicProblems seen ((key, topic) :: entries) =
      .sharedTopic key topic :: topicProblems seen entries := by
  rw [topicProblems, if_neg (mt String.isEmpty_iff.1 hname),
    if_pos (List.contains_iff_mem.2 hseen)]

theorem topicProblems_new {seen : List String} {topic : String} (hname : topic ≠ "")
    (hseen : topic ∉ seen) (key : String) (entries : List (String × String)) :
    topicProblems seen ((key, topic) :: entries) = topicProblems (topic :: seen) entries := by
  rw [topicProblems, if_neg (mt String.isEmpty_iff.1 hname),
    if_neg (mt List.contains_iff_mem.1 hseen)]

/-- What may be wrong with a topic. -/
def possibleTopicProblems (e : String × String) : List SettingsProblem :=
  [.unnamedTopic e.1, .sharedTopic e.1 e.2]

theorem topicProblems_sublist (seen : List String) (entries : List (String × String)) :
    (topicProblems seen entries).Sublist (entries.flatMap possibleTopicProblems) := by
  induction entries generalizing seen with
  | nil => exact .slnil
  | cons e entries ih =>
    obtain ⟨key, topic⟩ := e
    rw [List.flatMap_cons, possibleTopicProblems, List.cons_append, List.singleton_append]
    by_cases hname : topic = ""
    · subst hname
      rw [topicProblems_unnamed]
      exact .cons_cons _ (.cons _ (ih seen))
    by_cases hseen : topic ∈ seen
    · rw [topicProblems_shared hname hseen]
      exact .cons _ (.cons_cons _ (ih seen))
    · rw [topicProblems_new hname hseen]
      exact .cons _ (.cons _ (ih (topic :: seen)))

/-- A topic has a name that one before it has. -/
def SharesName (seen : List String) (entries : List (String × String)) (key topic : String) :
    Prop :=
  topic ≠ "" ∧ ∃ before after, entries = before ++ (key, topic) :: after ∧
    (topic ∈ seen ∨ topic ∈ before.map (·.2))

theorem sharesName_cons {seen : List String} {e : String × String}
    {entries : List (String × String)} {key topic : String} :
    SharesName seen (e :: entries) key topic ↔
      ((key, topic) = e ∧ topic ≠ "" ∧ topic ∈ seen) ∨
        SharesName (e.2 :: seen) entries key topic := by
  constructor
  · rintro ⟨hname, before, after, hsplit, hmem⟩
    cases before with
    | nil =>
      obtain ⟨rfl, rfl⟩ := List.cons.inj hsplit
      exact .inl ⟨rfl, hname, hmem.resolve_right List.not_mem_nil⟩
    | cons e' before =>
      obtain ⟨rfl, rfl⟩ := List.cons.inj hsplit
      refine .inr ⟨hname, before, after, rfl, ?_⟩
      rw [List.map_cons, List.mem_cons] at hmem
      rw [List.mem_cons, or_assoc]
      exact or_left_comm.1 hmem
  · rintro (⟨rfl, hname, hmem⟩ | ⟨hname, before, after, rfl, hmem⟩)
    · exact ⟨hname, [], entries, rfl, .inl hmem⟩
    · refine ⟨hname, e :: before, after, rfl, ?_⟩
      rw [List.map_cons, List.mem_cons]
      rw [List.mem_cons, or_assoc] at hmem
      exact or_left_comm.1 hmem

/-- A name that was seen already, or is none at all, makes no difference to what is shared. -/
theorem sharesName_known {seen : List String} {t : String} (h : t = "" ∨ t ∈ seen)
    {entries : List (String × String)} {key topic : String} :
    SharesName (t :: seen) entries key topic ↔ SharesName seen entries key topic := by
  refine and_congr_right fun hname => ?_
  have hsame : topic ∈ t :: seen ↔ topic ∈ seen := by
    rw [List.mem_cons, or_iff_right_iff_imp]
    rintro rfl
    exact h.resolve_left hname
  rw [hsame]

/-- The topics listed are those without a name, and those with a name that one before has. -/
theorem mem_topicProblems {seen : List String} {entries : List (String × String)}
    {p : SettingsProblem} :
    p ∈ topicProblems seen entries ↔
      (∃ key, p = .unnamedTopic key ∧ (key, "") ∈ entries) ∨
        ∃ key topic, p = .sharedTopic key topic ∧ SharesName seen entries key topic := by
  induction entries generalizing seen with
  | nil =>
    refine iff_of_false List.not_mem_nil ?_
    rintro (⟨key, -, hmem⟩ | ⟨key, topic, -, -, before, after, hsplit, -⟩)
    · cases hmem
    · cases before <;> cases hsplit
  | cons e entries ih =>
    obtain ⟨k, t⟩ := e
    simp only [sharesName_cons, List.mem_cons, Prod.mk.injEq]
    by_cases hname : t = ""
    · simp only [sharesName_known (.inl hname)]
      subst hname
      rw [topicProblems_unnamed, List.mem_cons, ih]
      grind
    by_cases hseen : t ∈ seen
    · simp only [sharesName_known (.inr hseen)]
      rw [topicProblems_shared hname hseen, List.mem_cons, ih]
      grind
    · rw [topicProblems_new hname hseen, ih]
      grind

/-- Topics are in order when each has a name and no two have one name. -/
theorem topicProblems_eq_nil {seen : List String} {entries : List (String × String)} :
    topicProblems seen entries = [] ↔
      (∀ e ∈ entries, e.2 ≠ "" ∧ e.2 ∉ seen) ∧ (entries.map (·.2)).Nodup := by
  induction entries generalizing seen with
  | nil => simp [topicProblems]
  | cons e entries ih =>
    obtain ⟨key, topic⟩ := e
    by_cases hname : topic = ""
    · subst hname
      rw [topicProblems_unnamed]
      exact iff_of_false (List.cons_ne_nil _ _) fun h => (h.1 (key, "") List.mem_cons_self).1 rfl
    by_cases hseen : topic ∈ seen
    · rw [topicProblems_shared hname hseen]
      exact iff_of_false (List.cons_ne_nil _ _) fun h =>
        (h.1 (key, topic) List.mem_cons_self).2 hseen
    rw [topicProblems_new hname hseen, ih, List.map_cons, List.nodup_cons, List.forall_mem_cons]
    constructor
    · rintro ⟨hall, hnodup⟩
      refine ⟨⟨⟨hname, hseen⟩, fun e' he' => ?_⟩, ?_, hnodup⟩
      · exact ⟨(hall e' he').1, fun h => (hall e' he').2 (List.mem_cons_of_mem _ h)⟩
      · intro hmem
        obtain ⟨e', he', heq⟩ := List.mem_map.1 hmem
        exact (hall e' he').2 (heq ▸ List.mem_cons_self)
    · rintro ⟨⟨_, hall⟩, hfresh, hnodup⟩
      refine ⟨fun e' he' => ⟨(hall e' he').1, fun hmem => ?_⟩, hnodup⟩
      rcases List.mem_cons.1 hmem with heq | hmem
      · exact hfresh (heq ▸ List.mem_map.2 ⟨e', he', rfl⟩)
      · exact (hall e' he').2 hmem

/-- Of the topics as many have no problem as there are names. -/
theorem length_topicProblems (seen : List String) (entries : List (String × String)) :
    (topicProblems seen entries).length +
      ((entries.map (·.2)).toFinset \ insert "" seen.toFinset).card = entries.length := by
  induction entries generalizing seen with
  | nil => simp [topicProblems]
  | cons e entries ih =>
    obtain ⟨key, topic⟩ := e
    rw [List.map_cons, List.toFinset_cons, List.length_cons]
    dsimp only
    by_cases hname : topic = ""
    · subst hname
      have hrest := ih seen
      rw [topicProblems_unnamed, Finset.insert_sdiff_of_mem _ (Finset.mem_insert_self _ _),
        List.length_cons]
      omega
    by_cases hseen : topic ∈ seen
    · have hrest := ih seen
      rw [topicProblems_shared hname hseen, Finset.insert_sdiff_of_mem _
        (Finset.mem_insert_of_mem (List.mem_toFinset.2 hseen)), List.length_cons]
      omega
    · have hrest := ih (topic :: seen)
      have hsplit : insert topic (entries.map (·.2)).toFinset \ insert "" seen.toFinset =
          insert topic ((entries.map (·.2)).toFinset \ insert "" (topic :: seen).toFinset) := by
        ext n
        simp only [Finset.mem_sdiff, Finset.mem_insert, List.mem_toFinset, List.mem_cons]
        grind
      -- A new name counts here, and no more among those behind it.
      rw [topicProblems_new hname hseen, hsplit, Finset.card_insert_of_notMem (by simp)]
      omega

/-! ## Rules -/

namespace Settings

/-- What may be wrong with settings, in the order in which it is listed. -/
def possibleProblems (s : Settings) : List SettingsProblem :=
  [.serverPort, .serverAddress, .latestLimit, .brokerListenPort, .brokerListenAddress,
      .brokerPort, .brokerHost] ++
    s.broker.topics.entries.flatMap possibleTopicProblems ++
    [.portThreshold, .spikeThreshold, .spikeWindow, .highWaterMark, .statsInterval]

/-- The rule a problem stands for is broken. -/
def Breaks (s : Settings) : SettingsProblem → Prop
  | .serverPort => s.server.port = 0
  | .serverAddress => s.server.address = ""
  | .latestLimit => s.server.latestLimit = 0
  | .brokerListenPort => s.broker.enabled = true ∧ s.broker.listenPort = 0
  | .brokerListenAddress => s.broker.enabled = true ∧ s.broker.listenAddress = ""
  | .brokerPort => s.broker.enabled = true ∧ s.broker.port = 0
  | .brokerHost => s.broker.enabled = true ∧ s.broker.host = ""
  | .unnamedTopic key => (key, "") ∈ s.broker.topics.entries
  | .sharedTopic key topic => SharesName [] s.broker.topics.entries key topic
  | .portThreshold => s.detection.ports = 0
  | .spikeThreshold => s.detection.arrivals = 0
  | .spikeWindow => s.detection.windowSeconds = 0
  | .highWaterMark => s.highWaterMark = 0
  | .statsInterval => s.statsInterval = 0

/-- Settings that break no rule. -/
structure Sensible (s : Settings) : Prop where
  serverPort : s.server.port ≠ 0
  serverAddress : s.server.address ≠ ""
  latestLimit : s.server.latestLimit ≠ 0
  portThreshold : s.detection.ports ≠ 0
  spikeThreshold : s.detection.arrivals ≠ 0
  spikeWindow : s.detection.windowSeconds ≠ 0
  highWaterMark : s.highWaterMark ≠ 0
  statsInterval : s.statsInterval ≠ 0
  topicsNamed : ∀ e ∈ s.broker.topics.entries, e.2 ≠ ""
  topicsApart : (s.broker.topics.entries.map (·.2)).Nodup
  broker : s.broker.enabled = true → s.broker.listenPort ≠ 0 ∧ s.broker.listenAddress ≠ "" ∧
    s.broker.port ≠ 0 ∧ s.broker.host ≠ ""

theorem mem_problemIf {condition : Bool} {p q : SettingsProblem} :
    p ∈ problemIf condition q ↔ condition = true ∧ p = q := by
  cases condition <;> simp [problemIf]

theorem problemIf_eq_nil {condition : Bool} {p : SettingsProblem} :
    problemIf condition p = [] ↔ condition = false := by
  cases condition <;> simp [problemIf]

theorem problemIf_sublist (condition : Bool) (p : SettingsProblem) :
    (problemIf condition p).Sublist [p] := by
  cases condition
  · exact List.nil_sublist _
  · exact .refl _

variable (s : Settings)

/-- The problems listed are those whose rules are broken. -/
theorem mem_problems {p : SettingsProblem} : p ∈ s.problems ↔ s.Breaks p := by
  have hbroker : p ∈ brokerProblems s.broker ↔ s.broker.enabled = true ∧
      (p = .brokerListenPort ∧ s.broker.listenPort = 0 ∨
        p = .brokerListenAddress ∧ s.broker.listenAddress = "" ∨
        p = .brokerPort ∧ s.broker.port = 0 ∨ p = .brokerHost ∧ s.broker.host = "") := by
    unfold brokerProblems
    split
    · next h => simp [mem_problemIf, h, and_comm]
    · next h => simp [h]
  unfold problems serverProblems limitProblems
  simp only [List.mem_append, mem_problemIf, hbroker, mem_topicProblems, decide_eq_true_eq,
    String.isEmpty_iff]
  cases p <;> simp [Breaks]

theorem serverProblems_sublist :
    (serverProblems s.server).Sublist [.serverPort, .serverAddress, .latestLimit] :=
  ((problemIf_sublist _ _).append (problemIf_sublist _ _)).append (problemIf_sublist _ _)

theorem brokerProblems_sublist : (brokerProblems s.broker).Sublist
    [.brokerListenPort, .brokerListenAddress, .brokerPort, .brokerHost] := by
  unfold brokerProblems
  split
  · exact (((problemIf_sublist _ _).append (problemIf_sublist _ _)).append
      (problemIf_sublist _ _)).append (problemIf_sublist _ _)
  · exact List.nil_sublist _

theorem limitProblems_sublist :
    (limitProblems s.detection).Sublist [.portThreshold, .spikeThreshold, .spikeWindow] :=
  ((problemIf_sublist _ _).append (problemIf_sublist _ _)).append (problemIf_sublist _ _)

/-- The problems are listed once each, in the order of the sections. -/
theorem problems_sublist : s.problems.Sublist s.possibleProblems := by
  have htopics := topicProblems_sublist [] s.broker.topics.entries
  have hall := ((((s.serverProblems_sublist.append s.brokerProblems_sublist).append htopics).append
    s.limitProblems_sublist).append
      (problemIf_sublist (s.highWaterMark = 0) SettingsProblem.highWaterMark)).append
        (problemIf_sublist (s.statsInterval = 0) SettingsProblem.statsInterval)
  simpa only [problems, possibleProblems, List.append_assoc, List.cons_append, List.nil_append]
    using hall

theorem nodup_possibleProblems : s.possibleProblems.Nodup := by
  simp [possibleProblems, Topics.entries, possibleTopicProblems]

theorem problems_eq_nil_iff : s.problems = [] ↔ s.Sensible := by
  have hbroker : brokerProblems s.broker = [] ↔ (s.broker.enabled = true →
      s.broker.listenPort ≠ 0 ∧ s.broker.listenAddress ≠ "" ∧ s.broker.port ≠ 0 ∧
        s.broker.host ≠ "") := by
    unfold brokerProblems
    split
    · next h => simp [problemIf_eq_nil, h]
    · next h => simp [h]
  unfold problems serverProblems limitProblems
  simp only [List.append_eq_nil_iff, problemIf_eq_nil, hbroker, topicProblems_eq_nil,
    decide_eq_false_iff_not, String.isEmpty_eq_false_iff, List.not_mem_nil, not_false_iff, and_true]
  constructor
  · rintro ⟨⟨⟨⟨⟨⟨⟨hport, haddress⟩, hlatest⟩, hused⟩, hnamed, hapart⟩, ⟨hports, harrivals⟩,
      hwindow⟩, hmark⟩, hinterval⟩
    exact ⟨hport, haddress, hlatest, hports, harrivals, hwindow, hmark, hinterval, hnamed, hapart,
      hused⟩
  · intro h
    exact ⟨⟨⟨⟨⟨⟨⟨h.serverPort, h.serverAddress⟩, h.latestLimit⟩, h.broker⟩, h.topicsNamed,
      h.topicsApart⟩, ⟨h.portThreshold, h.spikeThreshold⟩, h.spikeWindow⟩, h.highWaterMark⟩,
      h.statsInterval⟩

end Settings

/-! ## Lines -/

/-- The characters that may be taken for the end of a line. -/
def lineBreaks : List Char := ['\n', '\r', '\x0b', '\x0c', '\x85', '\u2028', '\u2029']

/-- A text in one line. -/
def Unbroken (cs : List Char) : Prop := ∀ c ∈ cs, c ∉ lineBreaks

instance (cs : List Char) : Decidable (Unbroken cs) := List.decidableBAll _ cs

theorem Unbroken.append {cs cs' : List Char} (h : Unbroken cs) (h' : Unbroken cs') :
    Unbroken (cs ++ cs') := fun c hc => (List.mem_append.1 hc).elim (h c) (h' c)

theorem unbroken_ofList {cs : List Char} (h : Unbroken cs) :
    Unbroken (String.ofList cs).toList := by
  rwa [String.toList_ofList]

theorem unbroken_toDigits {base n : Nat} (hbase : 1 < base) (hmost : base ≤ 16) :
    Unbroken (Nat.toDigits base n) := by
  have hdigit : ∀ d < 16, Nat.digitChar d ∉ lineBreaks := by decide
  induction n using Nat.strongRecOn with
  | ind n ih =>
    rw [Nat.toDigits_eq_if hbase]
    split
    · next hlt => exact List.forall_mem_singleton.2 (hdigit n (by omega))
    · next hge =>
      have hlast : Nat.digitChar (n % base) ∉ lineBreaks :=
        hdigit _ (Nat.lt_of_lt_of_le (Nat.mod_lt _ (by omega)) hmost)
      exact (ih _ (Nat.div_lt_self (by omega) hbase)).append (List.forall_mem_singleton.2 hlast)

theorem unbroken_toString (n : Nat) : Unbroken (toString n).toList :=
  unbroken_ofList (unbroken_toDigits (show 1 < 10 by decide) (by decide))

/-- Whatever is put in quotes stands in one line. -/
theorem unbroken_quoteChar (c : Char) : Unbroken (Text.quoteChar c) := by
  have hhidden : lineBreaks.all (fun c => !Text.isVisible c) = true := by decide +kernel
  unfold Text.quoteChar
  iterate 6 (split; next => decide)
  split
  · next hvisible =>
    refine List.forall_mem_singleton.2 fun hbreak => ?_
    have hnot := List.all_eq_true.1 hhidden c hbreak
    rw [hvisible] at hnot
    cases hnot
  · exact .append (.append (by decide) (unbroken_toDigits (by decide) (by decide))) (by decide)

theorem unbroken_quoted (s : String) : Unbroken (Text.quoted s).toList := by
  have hbody : Unbroken (s.toList.flatMap Text.quoteChar) := by
    intro c hc
    obtain ⟨d, -, hd⟩ := List.mem_flatMap.1 hc
    exact unbroken_quoteChar d c hd
  rw [Text.quoted, String.toList_ofList]
  exact .append (show Unbroken ['"'] by decide) (hbody.append (by decide))

namespace SettingsProblem

/-- The key a problem names. -/
def key : SettingsProblem → String
  | unnamedTopic key => key
  | sharedTopic key _ => key
  | _ => ""

/-- A problem is told in one line, if the key it names stands in one. -/
theorem unbroken_message {p : SettingsProblem} (hkey : Unbroken p.key.toList) :
    Unbroken p.message.toList := by
  cases p with
  | unnamedTopic key =>
    unfold message
    simp only [String.toList_append]
    exact .append (.append (unbroken_ofList (by decide)) hkey) (unbroken_ofList (by decide))
  | sharedTopic key topic =>
    unfold message
    simp only [String.toList_append]
    exact .append (.append (.append (.append (unbroken_ofList (by decide)) hkey)
      (unbroken_ofList (by decide))) (unbroken_quoted topic)) (unbroken_ofList (by decide))
  | _ =>
    refine unbroken_ofList ?_
    decide

/-- A problem of a topic. -/
def isTopic : SettingsProblem → Bool
  | unnamedTopic _ => true
  | sharedTopic _ _ => true
  | _ => false

end SettingsProblem

/-- Problems are numbered from one on. -/
theorem numberedLines_eq (start : Nat) (ps : List SettingsProblem) :
    numberedLines start ps =
      ps.mapIdx fun i p => "  " ++ toString (start + i) ++ ". " ++ p.message := by
  induction ps generalizing start with
  | nil => rfl
  | cons p ps ih =>
    rw [numberedLines, List.mapIdx_cons, ih]
    simp only [Nat.add_zero, Nat.add_assoc, Nat.add_comm 1]

/-- The lines of a list of problems: one that says how many there are, and one for each. -/
def problemLines (ps : List SettingsProblem) : List String :=
  ("config.toml contine " ++ toString ps.length ++ " erori de configurare:") ::
    ps.mapIdx fun i p => "  " ++ toString (i + 1) ++ ". " ++ p.message

theorem message_invalid {ps : List SettingsProblem} (hne : ps ≠ []) :
    (SettingsError.invalid ps).message = "\n".intercalate (problemLines ps) := by
  have hlines : numberedLines 1 ps ≠ [] := by
    rw [numberedLines_eq]
    simpa using hne
  have hsame : numberedLines 1 ps =
      ps.mapIdx fun i p => "  " ++ toString (i + 1) ++ ". " ++ p.message := by
    simp only [numberedLines_eq, Nat.add_comm 1]
  have hheader : " erori de configurare:\n" = " erori de configurare:" ++ "\n" := by
    decide +kernel
  unfold SettingsError.message
  rw [problemLines, ← hsame, String.intercalate_cons_of_ne_nil hlines, hheader]
  simp only [String.append_assoc]

theorem unbroken_problemLines {ps : List SettingsProblem}
    (hkeys : ∀ p ∈ ps, Unbroken p.key.toList) : ∀ line ∈ problemLines ps, Unbroken line.toList := by
  refine List.forall_mem_cons.2 ⟨?_, fun line hline => ?_⟩
  · simp only [String.toList_append]
    exact .append (.append (unbroken_ofList (by decide)) (unbroken_toString ps.length))
      (unbroken_ofList (by decide))
  · obtain ⟨i, hi, rfl⟩ := List.mem_mapIdx.1 hline
    simp only [String.toList_append]
    exact .append (.append (.append (by decide) (unbroken_toString (i + 1))) (by decide))
      (SettingsProblem.unbroken_message (hkeys _ (List.getElem_mem hi)))

/-- The lines of the message are those of the problems. -/
theorem splitOn_message {ps : List SettingsProblem} (hne : ps ≠ [])
    (hkeys : ∀ p ∈ ps, Unbroken p.key.toList) :
    (SettingsError.invalid ps).message.toList.splitOn '\n' =
      (problemLines ps).map String.toList := by
  have hlines := unbroken_problemLines hkeys
  rw [message_invalid hne, String.toList_intercalate]
  refine List.splitOn_intercalate '\n' ?_ ?_
  · intro cs hcs hfeed
    obtain ⟨line, hline, rfl⟩ := List.mem_map.1 hcs
    exact hlines line hline '\n' hfeed (by decide)
  · simp [problemLines]

theorem mem_intercalate {α : Type} {x c : α} {ls : List (List α)}
    (hc : c ∈ [x].intercalate ls) : c = x ∨ ∃ l ∈ ls, c ∈ l := by
  induction ls with
  | nil => cases hc
  | cons l ls ih =>
    cases ls with
    | nil =>
      rw [List.intercalate_singleton] at hc
      exact .inr ⟨l, List.mem_cons_self, hc⟩
    | cons l' ls =>
      rw [List.intercalate_cons_cons, List.mem_append, List.mem_append, List.mem_singleton] at hc
      rcases hc with (hc | hc) | hc
      · exact .inr ⟨l, List.mem_cons_self, hc⟩
      · exact .inl hc
      · exact (ih hc).imp_right fun ⟨l, hl, hc⟩ => ⟨l, List.mem_cons_of_mem _ hl, hc⟩

/-- No other character in the message may be taken for the end of a line. -/
theorem breaks_message {ps : List SettingsProblem} (hne : ps ≠ [])
    (hkeys : ∀ p ∈ ps, Unbroken p.key.toList) {c : Char}
    (hc : c ∈ (SettingsError.invalid ps).message.toList) (hbreak : c ∈ lineBreaks) : c = '\n' := by
  have hlines := unbroken_problemLines hkeys
  rw [message_invalid hne, String.toList_intercalate] at hc
  rcases mem_intercalate hc with hfeed | ⟨cs, hcs, hc⟩
  · exact hfeed
  · obtain ⟨line, hline, rfl⟩ := List.mem_map.1 hcs
    exact absurd hbreak (hlines line hline c hc)

namespace Settings

variable (s : Settings)

/-- The keys named in problems stand in one line. -/
theorem unbroken_keys : ∀ p ∈ s.problems, Unbroken p.key.toList := by
  have hkeys : ∀ e ∈ s.broker.topics.entries, Unbroken e.1.toList := by
    have hlist : ∀ k ∈ s.broker.topics.entries.map (·.1), Unbroken k.toList := by
      show ∀ k ∈ ["packets", "alerts", "heartbeats", "top_talkers", "top_ports", "protocol_stats",
        "raw_packets"], Unbroken k.toList
      decide
    exact fun e he => hlist e.1 (List.mem_map_of_mem he)
  intro p hp
  have hbreaks := s.mem_problems.1 hp
  cases p with
  | unnamedTopic key => exact hkeys (key, "") hbreaks
  | sharedTopic key topic =>
    obtain ⟨-, before, after, hsplit, -⟩ := hbreaks
    exact hkeys (key, topic) (hsplit ▸ List.mem_append_right before List.mem_cons_self)
  | _ => decide

theorem filter_isTopic :
    s.problems.filter SettingsProblem.isTopic = topicProblems [] s.broker.topics.entries := by
  have hnone : ∀ {ps qs : List SettingsProblem}, ps.Sublist qs →
      qs.filter SettingsProblem.isTopic = [] → ps.filter SettingsProblem.isTopic = [] :=
    fun hsub hqs => List.sublist_nil.1 (hqs ▸ hsub.filter _)
  have hall : ∀ p ∈ topicProblems [] s.broker.topics.entries, p.isTopic = true := by
    intro p hp
    rcases mem_topicProblems.1 hp with ⟨key, rfl, -⟩ | ⟨key, topic, rfl, -⟩ <;> rfl
  simp only [problems, List.filter_append, hnone s.serverProblems_sublist rfl,
    hnone s.brokerProblems_sublist rfl, List.filter_eq_self.2 hall,
    hnone s.limitProblems_sublist rfl, hnone (problemIf_sublist _ .highWaterMark) rfl,
    hnone (problemIf_sublist _ .statsInterval) rfl, List.nil_append, List.append_nil]

/-- **No rule is missed, and none is told twice.** Settings are taken exactly if they are sensible.
Otherwise those problems are listed whose rules are broken, each once and in one order; of the seven
topics as many have none as there are names. The message tells how many problems there are in its
first line and each problem in a line of its own, numbered from one on, and no other character in it
may be taken for the end of a line. -/
theorem check_exact :
    (s.check = .ok s ↔ s.Sensible) ∧
    ((∀ p, p ∈ s.problems ↔ s.Breaks p) ∧ s.problems.Sublist s.possibleProblems ∧
      s.possibleProblems.Nodup) ∧
    (s.problems.countP SettingsProblem.isTopic +
      ((s.broker.topics.entries.map (·.2)).toFinset.erase "").card = 7) ∧
    (¬ s.Sensible → s.check = .error (.invalid s.problems) ∧
      (SettingsError.invalid s.problems).message.toList.splitOn '\n' =
        (problemLines s.problems).map String.toList ∧
      ((SettingsError.invalid s.problems).message.toList.splitOn '\n').length =
        s.problems.length + 1 ∧
      ∀ c ∈ (SettingsError.invalid s.problems).message.toList, c ∈ lineBreaks → c = '\n') := by
  have hvalid := s.problems_eq_nil_iff
  refine ⟨?_, ⟨fun p => s.mem_problems, s.problems_sublist, s.nodup_possibleProblems⟩, ?_, ?_⟩
  · rw [← hvalid, check]
    split
    · next hempty => exact iff_of_true rfl (List.isEmpty_iff.1 hempty)
    · next hfilled => exact iff_of_false nofun (mt List.isEmpty_iff.2 hfilled)
  · have hcount := length_topicProblems [] s.broker.topics.entries
    rw [List.toFinset_nil, insert_empty_eq, ← Finset.erase_eq] at hcount
    rw [List.countP_eq_length_filter, filter_isTopic]
    exact hcount
  · intro hbroken
    have hne := mt hvalid.1 hbroken
    have hlines := splitOn_message hne s.unbroken_keys
    refine ⟨?_, hlines, ?_, fun c => breaks_message hne s.unbroken_keys⟩
    · rw [check, if_neg (mt List.isEmpty_iff.1 hne)]
    · rw [hlines]
      simp [problemLines]

/-- Settings that make sense without a broker, and some whose topics have two names among them, one
with a line feed and a quote in it. -/
theorem check_exact_of_two :
    ∃ s s', s = Settings.mk ⟨"::1", 8080, 1⟩ ⟨false, "", 0, "", 0, .standard⟩ .standard 1 0 1 ∧
      s' = Settings.mk ⟨"", 0, 0⟩
        ⟨true, "", 1, "", 0, ⟨"", "a\n\"", "b", "a\n\"", "", "b", "b"⟩⟩ ⟨0, 1, 0⟩ 0 0 1 ∧
      s.check = .ok s ∧
      s'.check = .error (.invalid [.serverPort, .serverAddress, .latestLimit, .brokerListenAddress,
        .brokerPort, .brokerHost, .unnamedTopic "packets", .sharedTopic "top_talkers" "a\n\"",
        .unnamedTopic "top_ports", .sharedTopic "protocol_stats" "b",
        .sharedTopic "raw_packets" "b", .portThreshold, .spikeWindow, .highWaterMark]) ∧
      ((SettingsError.invalid s'.problems).message.toList.splitOn '\n').length = 15 := by
  refine ⟨_, _, rfl, rfl, (check_exact _).1.2 ?_, ?_, ?_⟩
  · exact (problems_eq_nil_iff _).1 (by decide)
  · exact ((check_exact _).2.2.2 fun h => h.serverPort rfl).1
  · exact ((check_exact _).2.2.2 fun h => h.serverPort rfl).2.2.1

end Settings

end PacketTelemetry

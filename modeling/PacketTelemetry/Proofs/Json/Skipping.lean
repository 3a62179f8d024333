/-
Whatever can be read can be passed over, and what comes after it is the same
(`skipValue_of_readValue`).

The reader that passes over a value goes through the same characters, but asks
less of them. It keeps the brackets it stands in by itself and takes a step for
each value and for each mark between two of them, so that a value takes no more
steps than it has characters. The reader that keeps the value takes two for
each bracket at the most, and so the steps granted to a source suffice whenever
any do (`readValue_steps`).
-/
import PacketTelemetry.Proofs.Json.Records

namespace PacketTelemetry.Json

/-! ## Strings -/

/-- Where one passes over a string that would be read. The two halves of a pair are passed over one
after the other. -/
def InString.over : InString → OverString
  | .plain => .plain
  | .escaped => .escaped
  | .number owed _ _ => .number owed
  | .halfway _ => .plain
  | .halfwayEscaped _ => .escaped

theorem over_of_endEscape {value : Nat} {high : Option Nat} {c : Option Char} {next : InString}
    (h : endEscape value high = .ok (c, next)) : next.over = .plain := by
  unfold endEscape at h
  split at h
  · split at h
    · cases h
    · split at h <;> cases h <;> rfl
  · split at h
    · cases h
      rfl
    · cases h

theorem skipStringFrom_of_read {st : InString} {done : List Char} {s rest : Source} {t : String}
    (h : readStringFrom st done s = .ok (t, rest)) : skipStringFrom st.over s = .ok rest := by
  induction s generalizing st done with
  | nil =>
    rw [readStringFrom] at h
    cases h
  | cons x s ih =>
    cases st with
    | plain =>
      unfold readStringFrom at h
      cases x with
      | none => cases h
      | some c =>
        dsimp only at h
        split at h
        · next hc =>
          cases h
          simp [InString.over, skipStringFrom, hc]
        split at h
        · next hquote hc =>
          subst hc
          exact ih h
        split at h
        · cases h
        · next hquote hbackslash hcontrol =>
          simp only [InString.over, skipStringFrom, Option.some.injEq, hquote, hbackslash, hcontrol,
            if_false]
          exact ih h
    | escaped =>
      unfold readStringFrom at h
      cases x with
      | none => cases h
      | some c =>
        dsimp only at h
        split at h
        · next hc =>
          subst hc
          exact ih h
        · next hc =>
          split at h
          · next d hd =>
            simp only [InString.over, skipStringFrom, Option.some.injEq, hc, if_false,
              Option.bind_some, hd]
            exact ih h
          · cases h
    | number owed value high =>
      rw [readStringFrom] at h
      split at h
      · split at h <;> cases h
      · next d hd =>
        simp only [InString.over, skipStringFrom, hd]
        dsimp only at h
        split at h
        · next howed =>
          rw [if_pos howed]
          split at h
          · cases h
          · next next hend =>
            rw [← over_of_endEscape hend]
            exact ih h
          · next c next hend =>
            rw [← over_of_endEscape hend]
            exact ih h
        · next howed =>
          rw [if_neg howed]
          exact ih h
    | halfway high =>
      rw [readStringFrom] at h
      split at h
      · next hx =>
        subst hx
        exact ih h
      · cases h
    | halfwayEscaped high =>
      rw [readStringFrom] at h
      split at h
      · next hx =>
        subst hx
        exact ih h
      · cases h

theorem length_skipStringFrom {st : OverString} {s rest : Source}
    (h : skipStringFrom st s = .ok rest) : rest.length < s.length := by
  fun_induction skipStringFrom st s
  case case1 | case4 | case9 | case10 | case11 => cases h
  case case2 =>
    cases h
    exact Nat.lt_succ_self _
  case case3 ih | case5 ih | case6 ih | case7 ih | case8 ih | case12 ih | case13 ih =>
    exact Nat.lt_succ_of_lt (ih h)

theorem skipString_of_read {s rest : Source} {t : String} (h : readString s = .ok (t, rest)) :
    skipString s = .ok rest ∧ rest.length < s.length :=
  ⟨skipStringFrom_of_read h, length_skipStringFrom (skipStringFrom_of_read h)⟩

/-! ## Numbers and words -/

theorem length_takeDigits (s : Source) :
    (takeDigits s).1.length + (takeDigits s).2.length = s.length := by
  induction s with
  | nil => rfl
  | cons x s ih =>
    rw [takeDigits]
    split
    · simp only [List.length_cons]
      omega
    · exact Nat.zero_add _

theorem takeDigits_of_readDigits {s rest : Source} {ds : List Nat}
    (h : readDigits s = .ok (ds, rest)) : takeDigits s = (ds, rest) ∧ ds ≠ [] := by
  unfold readDigits at h
  split at h
  · cases h
  · cases h
  · next ds' rest' hend hmore htake =>
    cases h
    refine ⟨htake, ?_⟩
    rintro rfl
    cases rest with
    | nil => exact hend rfl rfl
    | cons x rest => exact hmore x rest rfl rfl

theorem skipDigits_of_read {s rest : Source} {ds : List Nat} (h : readDigits s = .ok (ds, rest)) :
    skipDigits s = .ok rest ∧ rest.length < s.length := by
  obtain ⟨htake, hne⟩ := takeDigits_of_readDigits h
  have hlength := length_takeDigits s
  have hpos := List.length_pos_iff.2 hne
  rw [htake] at hlength
  refine ⟨?_, by dsimp only at hlength; omega⟩
  unfold skipDigits
  rw [htake]
  split
  · next hnil => exact absurd (congrArg Prod.fst hnil) hne
  · next hsome =>
    cases hsome
    rfl

theorem length_readExponentSign (s : Source) : (readExponentSign s).2.length ≤ s.length := by
  unfold readExponentSign
  split
  · exact Nat.le_succ _
  · exact Nat.le_succ _
  · exact Nat.le_refl _

theorem skipExponent_of_read {s rest : Source} {e : Option (Bool × List Nat)}
    (h : readExponent s = .ok (e, rest)) : skipExponent s = .ok rest ∧ rest.length ≤ s.length := by
  rcases s with _ | ⟨_ | c, s⟩
  · cases h
    exact ⟨rfl, Nat.le_refl _⟩
  · cases h
    exact ⟨rfl, Nat.le_refl _⟩
  · simp only [readExponent] at h
    simp only [skipExponent]
    split at h
    · next hc =>
      obtain ⟨⟨ds, left⟩, hdigits, heq⟩ := exists_of_bind_eq_ok h
      cases heq
      obtain ⟨hskip, hlength⟩ := skipDigits_of_read hdigits
      have hsign := length_readExponentSign s
      rw [if_pos hc]
      refine ⟨hskip, ?_⟩
      show left.length ≤ s.length + 1
      omega
    · next hc =>
      cases h
      rw [if_neg hc]
      exact ⟨rfl, Nat.le_refl _⟩

theorem skipNumber_of_read {negative : Bool} {s rest : Source} {n : Number}
    (h : readNumber negative s = .ok (n, rest)) :
    skipNumber s = .ok rest ∧ rest.length < s.length := by
  obtain ⟨⟨numeral, rest'⟩, hnumeral, hvalue⟩ := exists_of_bind_eq_ok h
  have hrest : rest' = rest := by
    dsimp only at hvalue
    split at hvalue <;> cases hvalue
    rfl
  subst hrest
  obtain ⟨⟨whole, s₁⟩, hwhole, h⟩ := exists_of_bind_eq_ok hnumeral
  obtain ⟨⟨fraction, s₂⟩, hfraction, h⟩ := exists_of_bind_eq_ok h
  obtain ⟨⟨exponent, s₃⟩, hexponent, h⟩ := exists_of_bind_eq_ok h
  cases h
  obtain ⟨hskip, hlength⟩ := skipExponent_of_read hexponent
  obtain ⟨⟨ds, s'⟩, hdigits, h⟩ := exists_of_bind_eq_ok hwhole
  obtain ⟨htake, hne⟩ := takeDigits_of_readDigits hdigits
  have hshorter : s'.length < s.length := (skipDigits_of_read hdigits).2
  dsimp only at h hfraction hexponent hlength
  unfold skipNumber
  rw [htake]
  split
  · next heq => exact absurd (congrArg Prod.fst heq) hne
  · next d ds' left heq =>
    cases heq
    cases h
  · next ds' left _ _ heq =>
    cases heq
    have hs : s₁ = some '.' :: left := by split at h <;> cases h; rfl
    subst hs
    obtain ⟨⟨digits, s''⟩, hdigits', h'⟩ := exists_of_bind_eq_ok hfraction
    cases h'
    obtain ⟨hskip', hlength'⟩ := skipDigits_of_read hdigits'
    rw [hskip']
    refine ⟨hskip, ?_⟩
    have hpoint : (some '.' :: left).length = left.length + 1 := rfl
    omega
  · next ds' left _ _ hdot heq =>
    cases heq
    have hs : s₁ = s' := by split at h <;> cases h; rfl
    subst hs
    have hnone : readFraction s₁ = .ok (none, s₁) := by
      unfold readFraction
      split
      · exact (hdot _ rfl).elim
      · rfl
    rw [hnone] at hfraction
    cases hfraction
    exact ⟨hskip, by omega⟩

theorem length_readWord {word : List Char} {s rest : Source} (h : readWord word s = .ok rest) :
    rest.length ≤ s.length := by
  induction word generalizing s with
  | nil =>
    cases h
    exact Nat.le_refl _
  | cons c word ih =>
    cases s with
    | nil => cases h
    | cons x s =>
      rw [readWord] at h
      split at h
      · exact Nat.le_succ_of_le (ih h)
      · cases h

theorem skipScalar_of_read {c : Char} {s rest : Source} {v : Value}
    (h : readScalar c s = .ok (v, rest)) : skipScalar c s = .ok rest ∧ rest.length ≤ s.length := by
  have hword : ∀ {word : List Char} {w : Value},
      (readWord word s).map (w, ·) = .ok (v, rest) →
        readWord word s = .ok rest ∧ rest.length ≤ s.length := by
    intro word w h
    obtain ⟨rest', hread, heq⟩ := exists_of_map_eq_ok h
    cases heq
    exact ⟨hread, length_readWord hread⟩
  have hnumber : ∀ {negative : Bool} {s : Source},
      (readNumber negative s).map (fun read => (Value.number read.1, read.2)) = .ok (v, rest) →
        skipNumber s = .ok rest ∧ rest.length < s.length := by
    intro negative s h
    obtain ⟨⟨n, rest'⟩, hread, heq⟩ := exists_of_map_eq_ok h
    cases heq
    exact skipNumber_of_read hread
  unfold readScalar at h
  unfold skipScalar
  by_cases hnull : c = 'n'
  · rw [if_pos hnull] at h ⊢
    exact hword h
  rw [if_neg hnull] at h ⊢
  by_cases htrue : c = 't'
  · rw [if_pos htrue] at h ⊢
    exact hword h
  rw [if_neg htrue] at h ⊢
  by_cases hfalse : c = 'f'
  · rw [if_pos hfalse] at h ⊢
    exact hword h
  rw [if_neg hfalse] at h ⊢
  by_cases hquote : c = '"'
  · rw [if_pos hquote] at h ⊢
    obtain ⟨⟨t, rest'⟩, hread, heq⟩ := exists_of_map_eq_ok h
    cases heq
    exact (skipString_of_read hread).imp_right Nat.le_of_lt
  rw [if_neg hquote] at h ⊢
  by_cases hminus : c = '-'
  · rw [if_pos hminus] at h ⊢
    exact (hnumber h).imp_right Nat.le_of_lt
  rw [if_neg hminus] at h ⊢
  by_cases hdigit : c.isDigit = true
  · rw [if_pos hdigit] at h ⊢
    exact (hnumber h).imp_right Nat.le_of_lt_succ
  · rw [if_neg hdigit] at h
    cases h

/-! ## Values -/

theorem length_skipBlank (s : Source) : (skipBlank s).length ≤ s.length := by
  fun_induction skipBlank s with
  | case1 c rest hc ih => exact Nat.le_succ_of_le ih
  | case2 c rest hc => exact Nat.le_refl _
  | case3 s hs => exact Nat.le_refl _

theorem length_of_skipBlank {s rest : Source} {x : Option Char} (h : skipBlank s = x :: rest) :
    rest.length < s.length := by
  have hle := length_skipBlank s
  rw [h, List.length_cons] at hle
  exact hle

theorem length_inside {s inside : Source} {x : Option Char} (h : skipBlank s = x :: inside) :
    (skipBlank inside).length < s.length :=
  Nat.lt_of_le_of_lt (length_skipBlank inside) (length_of_skipBlank h)

theorem skipString_of_readKey {s rest : Source} {name : String}
    (h : readKey s = .ok (name, rest)) :
    ∃ s', skipBlank s = some '"' :: s' ∧ skipString s' = .ok rest ∧ rest.length < s.length := by
  unfold readKey at h
  split at h
  · cases h
  · next s' hblank =>
    obtain ⟨hskip, hlength⟩ := skipString_of_read h
    exact ⟨s', hblank, hskip, Nat.lt_trans hlength (length_of_skipBlank hblank)⟩
  · cases h

theorem length_readColon {s rest : Source} (h : readColon s = .ok rest) :
    rest.length < s.length := by
  unfold readColon at h
  split at h
  · cases h
  · next s' hblank =>
    cases h
    exact length_of_skipBlank hblank
  · cases h

/-- A name that can be read is passed over with its colon. -/
theorem skipName_of_read {s rest : Source} {name : String} (h : readName s = .ok (name, rest)) :
    skipName s = .ok rest ∧ rest.length < s.length := by
  obtain ⟨⟨name', s'⟩, hkey, h⟩ := exists_of_bind_eq_ok h
  obtain ⟨s'', hcolon, heq⟩ := exists_of_bind_eq_ok h
  cases heq
  obtain ⟨s₁, hblank, hskip, hlength⟩ := skipString_of_readKey hkey
  refine ⟨?_, Nat.lt_trans (length_readColon hcolon) hlength⟩
  rw [skipName, hblank]
  exact (congrArg (Except.bind · readColon) hskip).trans hcolon

/-! ## Steps over a value -/

/-- The reader that passes over a value takes a step, from where it stands and the brackets it
stands in to where it stands then. -/
inductive Over : OverValue → List Bracket → Source → OverValue → List Bracket → Source → Prop
  | emptyArray {within : List Bracket} {s inside rest : Source}
      (hopen : skipBlank s = some '[' :: inside) (hclose : skipBlank inside = some ']' :: rest) :
      Over .before within s .behind within rest
  | array {within : List Bracket} {s inside : Source} (hopen : skipBlank s = some '[' :: inside)
      (hfurther : Further ']' (skipBlank inside)) :
      Over .before within s .before (.array :: within) (skipBlank inside)
  | emptyObject {within : List Bracket} {s inside rest : Source}
      (hopen : skipBlank s = some '\x7b' :: inside)
      (hclose : skipBlank inside = some '\x7d' :: rest) :
      Over .before within s .behind within rest
  | object {within : List Bracket} {s inside rest : Source}
      (hopen : skipBlank s = some '\x7b' :: inside)
      (hfurther : Further '\x7d' (skipBlank inside))
      (hname : skipName (skipBlank inside) = .ok rest) :
      Over .before within s .before (.object :: within) rest
  | scalar {within : List Bracket} {s inside rest : Source} {c : Char}
      (hblank : skipBlank s = some c :: inside) (hbracket : c ≠ '[') (hbrace : c ≠ '\x7b')
      (hskip : skipScalar c inside = .ok rest) : Over .before within s .behind within rest
  | lastItem {within : List Bracket} {s rest : Source}
      (hclose : skipBlank s = some ']' :: rest) :
      Over .behind (.array :: within) s .behind within rest
  | nextItem {within : List Bracket} {s rest : Source}
      (hcomma : skipBlank s = some ',' :: rest) :
      Over .behind (.array :: within) s .before (.array :: within) rest
  | lastMember {within : List Bracket} {s rest : Source}
      (hclose : skipBlank s = some '\x7d' :: rest) :
      Over .behind (.object :: within) s .behind within rest
  | nextMember {within : List Bracket} {s inside rest : Source}
      (hcomma : skipBlank s = some ',' :: inside) (hname : skipName inside = .ok rest) :
      Over .behind (.object :: within) s .before (.object :: within) rest

theorem Over.skipFrom_eq {place place' : OverValue} {within within' : List Bracket} {s s' : Source}
    (h : Over place within s place' within' s') (more : Nat) :
    skipFrom (more + 1) place within s = skipFrom more place' within' s' := by
  cases h with
  | emptyArray hopen hclose =>
    rw [skipFrom, hopen]
    dsimp only
    rw [if_pos rfl, hclose]
    rfl
  | array hopen hfurther =>
    rw [skipFrom, hopen]
    dsimp only
    rw [if_pos rfl]
    split
    · next hnil => exact absurd hnil hfurther.1
    · next rest hcons => exact absurd hcons (hfurther.2 rest)
    · rfl
  | emptyObject hopen hclose =>
    rw [skipFrom, hopen]
    dsimp only
    rw [if_neg (by decide), if_pos rfl, hclose]
    rfl
  | object hopen hfurther hname =>
    rw [skipFrom, hopen]
    dsimp only
    rw [if_neg (by decide), if_pos rfl]
    split
    · next hnil => exact absurd hnil hfurther.1
    · next rest hcons => exact absurd hcons (hfurther.2 rest)
    · rw [hname]
  | scalar hblank hbracket hbrace hskip =>
    rw [skipFrom, hblank]
    dsimp only
    rw [if_neg hbracket, if_neg hbrace, hskip]
  | lastItem hclose =>
    rw [skipFrom, hclose]
    rfl
  | nextItem hcomma =>
    rw [skipFrom, hcomma]
    rfl
  | lastMember hclose =>
    rw [skipFrom, hclose]
    rfl
  | nextMember hcomma hname =>
    rw [skipFrom, hcomma]
    simp only [hname]

/-- One gets from before a value, inside the brackets `inner`, behind the last of these, and takes
no more steps than characters. -/
def Passes (inner : List Bracket) (s rest : Source) : Prop :=
  ∃ k, k + rest.length ≤ s.length ∧ ∀ more within,
    skipFrom (more + k) .before (inner ++ within) s = skipFrom more .behind within rest

/-- A value that takes one step. -/
theorem passes_of_step {s rest : Source} (hlength : rest.length < s.length)
    (hstep : ∀ within, Over .before within s .behind within rest) : Passes [] s rest :=
  ⟨1, by omega, fun more within => (hstep within).skipFrom_eq more⟩

/-- A bracket is opened in one step, and what stands inside is passed over after that. -/
theorem Passes.opened {bracket : Bracket} {s s' rest : Source} (h : Passes [bracket] s' rest)
    (hlength : s'.length < s.length)
    (hstep : ∀ within, Over .before within s .before (bracket :: within) s') :
    Passes [] s rest := by
  obtain ⟨k, hk, hrun⟩ := h
  refine ⟨k + 1, by omega, fun more within => ?_⟩
  exact ((hstep within).skipFrom_eq (more + k)).trans (hrun more within)

/-- Behind the last value in a bracket the bracket is closed in one step. -/
theorem Passes.closed {bracket : Bracket} {s s' rest : Source} (h : Passes [] s s')
    (hlength : rest.length < s'.length)
    (hstep : ∀ within, Over .behind (bracket :: within) s' .behind within rest) :
    Passes [bracket] s rest := by
  obtain ⟨k, hk, hrun⟩ := h
  refine ⟨1 + k, by omega, fun more within => ?_⟩
  rw [← Nat.add_assoc]
  exact (hrun (more + 1) (bracket :: within)).trans ((hstep within).skipFrom_eq more)

/-- Behind any other value the next one is reached in one step. -/
theorem Passes.followed {bracket : Bracket} {s s' s'' rest : Source} (h : Passes [] s s')
    (hlength : s''.length < s'.length)
    (hstep : ∀ within, Over .behind (bracket :: within) s' .before (bracket :: within) s'')
    (h' : Passes [bracket] s'' rest) : Passes [bracket] s rest := by
  obtain ⟨k, hk, hrun⟩ := h
  obtain ⟨k', hk', hrun'⟩ := h'
  refine ⟨k' + 1 + k, by omega, fun more within => ?_⟩
  rw [← Nat.add_assoc, ← Nat.add_assoc]
  calc skipFrom (more + k' + 1 + k) .before (bracket :: within) s
      = skipFrom (more + k' + 1) .behind (bracket :: within) s' :=
        hrun (more + k' + 1) (bracket :: within)
    _ = skipFrom (more + k') .before (bracket :: within) s'' :=
        (hstep within).skipFrom_eq (more + k')
    _ = skipFrom more .behind within rest := hrun' more within

/-- A value that is read is passed over; so are the items of an array, and the members of an
object once the name of the first one is behind. -/
theorem passes_of_read_all (fuel : Nat) :
    (∀ {levels s r}, readValue fuel levels s = .ok r → Passes [] s r.2) ∧
    (∀ {levels done s r}, readItems fuel levels done s = .ok r → Passes [.array] s r.2) ∧
    (∀ {levels done s r}, readMembers fuel levels done s = .ok r →
      ∃ s', skipName s = .ok s' ∧ s'.length < s.length ∧ Passes [.object] s' r.2) := by
  induction fuel with
  | zero =>
    refine ⟨fun h => ?_, fun h => ?_, fun h => ?_⟩
    · cases h
    · cases h
    · cases h
  | succ fuel ih =>
    obtain ⟨hvalue, hitems, hmembers⟩ := ih
    refine ⟨fun h => ?_, fun h => ?_, fun h => ?_⟩
    · cases readValue_iff.1 h with
      | emptyArray hopen hclose =>
        have hfirst := length_of_skipBlank hopen
        have hsecond := length_of_skipBlank hclose
        exact passes_of_step (Nat.lt_trans hsecond hfirst) fun _ => .emptyArray hopen hclose
      | array hopen hfurther h =>
        exact (hitems h).opened (length_inside hopen) fun _ => .array hopen hfurther
      | emptyObject hopen hclose =>
        have hfirst := length_of_skipBlank hopen
        have hsecond := length_of_skipBlank hclose
        exact passes_of_step (Nat.lt_trans hsecond hfirst) fun _ => .emptyObject hopen hclose
      | object hopen hfurther h =>
        obtain ⟨s', hname, hshorter, hpasses⟩ := hmembers h
        exact hpasses.opened (Nat.lt_trans hshorter (length_inside hopen)) fun _ =>
          .object hopen hfurther hname
      | scalar hblank hbracket hbrace h =>
        obtain ⟨hskip, hlength⟩ := skipScalar_of_read h
        have hshorter := Nat.lt_of_le_of_lt hlength (length_of_skipBlank hblank)
        exact passes_of_step hshorter fun _ => .scalar hblank hbracket hbrace hskip
    · cases readItems_iff.1 h with
      | last hread hclose =>
        exact (hvalue hread).closed (length_of_skipBlank hclose) fun _ => .lastItem hclose
      | next hread hcomma h =>
        exact (hvalue hread).followed (length_of_skipBlank hcomma)
          (fun _ => .nextItem hcomma) (hitems h)
    · cases readMembers_iff.1 h with
      | last hname hread hclose =>
        obtain ⟨hskip, hlength⟩ := skipName_of_read hname
        refine ⟨_, hskip, hlength, ?_⟩
        exact (hvalue hread).closed (length_of_skipBlank hclose) fun _ => .lastMember hclose
      | next hname hread hcomma h =>
        obtain ⟨hskip, hlength⟩ := skipName_of_read hname
        obtain ⟨s', hskip', hshorter, hpasses⟩ := hmembers h
        refine ⟨_, hskip, hlength, ?_⟩
        exact (hvalue hread).followed (Nat.lt_trans hshorter (length_of_skipBlank hcomma))
          (fun _ => .nextMember hcomma hskip') hpasses

/-- **What is read may be passed over.** A value that can be read, whatever it is, is passed over
as well, and the same is left behind it. -/
theorem skipValue_of_readValue {fuel levels : Nat} {s rest : Source} {v : Value}
    (h : readValue fuel levels s = .ok (v, rest)) : skipValue s = .ok rest := by
  obtain ⟨k, hk, hrun⟩ := (passes_of_read_all fuel).1 h
  obtain ⟨more, hmore⟩ : ∃ more, s.steps = more + 1 + k := ⟨s.steps - 1 - k, by
    rw [Source.steps]
    omega⟩
  rw [skipValue, hmore]
  exact hrun (more + 1) []

/-! ## Steps -/

theorem length_of_readValue {fuel levels : Nat} {s rest : Source} {v : Value}
    (h : readValue fuel levels s = .ok (v, rest)) : rest.length ≤ s.length := by
  obtain ⟨k, hk, -⟩ := (passes_of_read_all fuel).1 h
  exact Nat.le_trans (Nat.le_add_left _ _) hk

theorem ValueRead.length_pos {fuel levels : Nat} {s : Source} {r : Value × Source}
    (h : ValueRead fuel levels s r) : 0 < s.length := by
  cases h with
  | emptyArray h | array h | emptyObject h | object h | scalar h =>
    exact Nat.zero_lt_of_lt (length_of_skipBlank h)

/-- What is read in some steps is read in as many as the characters call for. An item takes its
step before it goes on with its value, and so items are granted one more. -/
theorem read_in_steps_all (fuel : Nat) :
    (∀ {levels s r}, readValue fuel levels s = .ok r →
      ∀ {steps}, 2 * s.length < steps + 1 → readValue steps levels s = .ok r) ∧
    (∀ {levels done s r}, readItems fuel levels done s = .ok r →
      ∀ {steps}, 2 * s.length < steps → readItems steps levels done s = .ok r) ∧
    (∀ {levels done s r}, readMembers fuel levels done s = .ok r →
      ∀ {steps}, 2 * s.length < steps → readMembers steps levels done s = .ok r) := by
  induction fuel with
  | zero =>
    refine ⟨fun h => ?_, fun h => ?_, fun h => ?_⟩
    · cases h
    · cases h
    · cases h
  | succ fuel ih =>
    obtain ⟨hvalue, hitems, hmembers⟩ := ih
    refine ⟨fun h steps hsteps => ?_, fun h steps hsteps => ?_, fun h steps hsteps => ?_⟩
    · have hpos := (readValue_iff.1 h).length_pos
      obtain ⟨steps, rfl⟩ : ∃ k, steps = k + 1 := ⟨steps - 1, by omega⟩
      refine readValue_iff.2 ?_
      cases readValue_iff.1 h with
      | emptyArray hopen hclose => exact .emptyArray hopen hclose
      | array hopen hfurther h =>
        have hlength := length_inside hopen
        exact .array hopen hfurther (hitems h (by omega))
      | emptyObject hopen hclose => exact .emptyObject hopen hclose
      | object hopen hfurther h =>
        have hlength := length_inside hopen
        exact .object hopen hfurther (hmembers h (by omega))
      | scalar hblank hbracket hbrace h => exact .scalar hblank hbracket hbrace h
    · obtain ⟨steps, rfl⟩ : ∃ k, steps = k + 1 := ⟨steps - 1, by omega⟩
      refine readItems_iff.2 ?_
      cases readItems_iff.1 h with
      | last hread hclose =>
        exact .last (hvalue hread (by omega)) hclose
      | next hread hcomma h =>
        have hlength := length_of_readValue hread
        have hshorter := length_of_skipBlank hcomma
        exact .next (hvalue hread (by omega)) hcomma (hitems h (by omega))
    · obtain ⟨steps, rfl⟩ : ∃ k, steps = k + 1 := ⟨steps - 1, by omega⟩
      refine readMembers_iff.2 ?_
      cases readMembers_iff.1 h with
      | last hname hread hclose =>
        have hbehind := (skipName_of_read hname).2
        exact .last hname (hvalue hread (by omega)) hclose
      | next hname hread hcomma h =>
        have hbehind := (skipName_of_read hname).2
        have hlength := length_of_readValue hread
        have hshorter := length_of_skipBlank hcomma
        exact .next hname (hvalue hread (by omega)) hcomma (hmembers h (by omega))

/-- The steps granted to a source do not decide what is read from it. -/
theorem readValue_steps {fuel levels : Nat} {s : Source} {r : Value × Source}
    (h : readValue fuel levels s = .ok r) : readValue s.steps levels s = .ok r :=
  (read_in_steps_all fuel).1 h (by rw [Source.steps]; omega)

end PacketTelemetry.Json

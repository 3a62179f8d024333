/-
Reading from a source and taking out of a value: for most forms the two come to
the same (`Form.Agrees`).

The first character of a value tells of what kind it is (`begins_of_reads`), and
a form looks at that character where it would look at the value. A form that
makes something of what another one gives agrees where that one does
(`Form.Agrees.refined`), and so do the members of a record.
-/
import PacketTelemetry.Proofs.Json.Skipping

namespace PacketTelemetry.Json

variable {α β σ : Type} {levels : Nat}

/-! ## Values in a source -/

/-- A source goes on with a value, and `rest` is what follows it. -/
def Reads (levels : Nat) (s : Source) (v : Value) (rest : Source) : Prop :=
  ∃ fuel, readValue fuel levels s = .ok (v, rest)

theorem reads_iff {s rest : Source} {v : Value} :
    Reads levels s v rest ↔ readValue s.steps levels s = .ok (v, rest) :=
  ⟨fun ⟨_, h⟩ => readValue_steps h, fun h => ⟨_, h⟩⟩

theorem skipBlank_skipBlank (s : Source) : skipBlank (skipBlank s) = skipBlank s := by
  fun_induction skipBlank s with
  | case1 c rest hc ih => exact ih
  | case2 c rest hc => rw [skipBlank, if_neg hc]
  | case3 s hs =>
    unfold skipBlank
    split
    · next c rest => exact absurd rfl (hs c rest)
    · rfl

theorem reads_skipBlank {s rest : Source} {v : Value} :
    Reads levels (skipBlank s) v rest ↔ Reads levels s v rest := by
  refine exists_congr fun fuel => ?_
  cases fuel with
  | zero => exact Iff.rfl
  | succ fuel => rw [readValue, readValue, skipBlank_skipBlank]

theorem array_of_readItems {fuel : Nat} {done : List Value} {s : Source} {r : Value × Source}
    (h : readItems fuel levels done s = .ok r) : ∃ vs, r.1 = .array vs := by
  induction fuel generalizing done s with
  | zero => cases h
  | succ fuel ih =>
    cases readItems_iff.1 h with
    | last => exact ⟨_, rfl⟩
    | next _ _ h => exact ih h

theorem object_of_readMembers {fuel : Nat} {done : Members} {s : Source} {r : Value × Source}
    (h : readMembers fuel levels done s = .ok r) : ∃ ms, r.1 = .object ms := by
  induction fuel generalizing done s with
  | zero => cases h
  | succ fuel ih =>
    cases readMembers_iff.1 h with
    | last => exact ⟨_, rfl⟩
    | next _ _ _ h => exact ih h

/-- A character a value may begin with. -/
def Value.Begins : Value → Char → Prop
  | .null, c => c = 'n'
  | .boolean true, c => c = 't'
  | .boolean false, c => c = 'f'
  | .number _, c => c = '-' ∨ c.isDigit = true
  | .text _, c => c = '"'
  | .array _, c => c = '['
  | .object _, c => c = '\x7b'

theorem Value.Begins.eq_null {v : Value} (h : v.Begins 'n') : v = .null := by
  cases v with
  | null => rfl
  | boolean b => cases b <;> cases h
  | number n => rcases h with h | h <;> cases h
  | text | array | object => cases h

theorem begins_of_readScalar {c : Char} {s rest : Source} {v : Value}
    (h : readScalar c s = .ok (v, rest)) : v.Begins c := by
  have hmap : ∀ {γ : Type} {x : Except Fault γ} {f : γ → Value × Source},
      x.map f = .ok (v, rest) → ∃ a, f a = (v, rest) := by
    intro γ x f hf
    obtain ⟨a, -, ha⟩ := exists_of_map_eq_ok hf
    exact ⟨a, ha⟩
  unfold readScalar at h
  split at h
  · next hc => obtain ⟨a, ha⟩ := hmap h; cases ha; exact hc
  split at h
  · next hc => obtain ⟨a, ha⟩ := hmap h; cases ha; exact hc
  split at h
  · next hc => obtain ⟨a, ha⟩ := hmap h; cases ha; exact hc
  split at h
  · next hc => obtain ⟨a, ha⟩ := hmap h; cases ha; exact hc
  split at h
  · next hc => obtain ⟨a, ha⟩ := hmap h; cases ha; exact .inl hc
  split at h
  · next hc => obtain ⟨a, ha⟩ := hmap h; cases ha; exact .inr hc
  · cases h

/-- The first character tells what kind of value follows, and scalars are read from it at once. -/
theorem begins_of_reads {s rest : Source} {v : Value} (h : Reads levels s v rest) :
    ∃ c s', skipBlank s = some c :: s' ∧ v.Begins c ∧
      (c ≠ '[' → c ≠ '\x7b' → readScalar c s' = .ok (v, rest)) := by
  obtain ⟨_ | fuel, h⟩ := h
  · cases h
  cases readValue_iff.1 h with
  | emptyArray hopen => exact ⟨_, _, hopen, rfl, fun hne => absurd rfl hne⟩
  | array hopen _ h =>
    obtain ⟨vs, hv⟩ := array_of_readItems h
    cases hv
    exact ⟨_, _, hopen, rfl, fun hne => absurd rfl hne⟩
  | emptyObject hopen => exact ⟨_, _, hopen, rfl, fun _ hne => absurd rfl hne⟩
  | object hopen _ h =>
    obtain ⟨ms, hv⟩ := object_of_readMembers h
    cases hv
    exact ⟨_, _, hopen, rfl, fun _ hne => absurd rfl hne⟩
  | scalar hblank _ _ h => exact ⟨_, _, hblank, begins_of_readScalar h, fun _ _ => h⟩

theorem reads_of_readScalar {c : Char} {s s' rest : Source} {v : Value}
    (hblank : skipBlank s = some c :: s') (hbracket : c ≠ '[') (hbrace : c ≠ '\x7b')
    (h : readScalar c s' = .ok (v, rest)) : Reads levels s v rest :=
  ⟨1, readValue_iff.2 (.scalar hblank hbracket hbrace h)⟩

/-! ## Forms -/

/-- A form that reads from a source what it takes out of the value that stands there. -/
def Form.Agrees (f : Form α) : Prop :=
  ∀ levels s a rest, f.read levels s = .ok (a, rest) ↔
    ∃ v, Reads levels s v rest ∧ f.take v = .ok a

theorem Form.agrees_text : Form.text.Agrees := by
  intro levels s a rest
  constructor
  · intro h
    simp only [text] at h
    split at h
    · next s' hblank =>
      refine ⟨.text a, reads_of_readScalar hblank (by decide) (by decide) ?_, rfl⟩
      simp [readScalar, h, Except.map]
    · cases h
  · rintro ⟨v, hreads, htake⟩
    obtain ⟨t, rfl⟩ : ∃ t, v = .text t := by
      cases v with
      | text t => exact ⟨t, rfl⟩
      | null | boolean | number | array | object => cases htake
    cases htake
    obtain ⟨c, s', hblank, rfl, hscalar⟩ := begins_of_reads hreads
    have hread := hscalar (by decide) (by decide)
    obtain ⟨⟨t, rest'⟩, hstring, heq⟩ : ∃ p, readString s' = .ok p ∧ _ :=
      exists_of_map_eq_ok hread
    cases heq
    simp only [text, hblank, hstring]

/-- A number is read as the value it is. -/
theorem readAnyNumber_iff {s rest : Source} {n : Number} :
    Form.readAnyNumber s = .ok (n, rest) ↔ Reads levels s (.number n) rest := by
  constructor
  · intro h
    unfold Form.readAnyNumber at h
    split at h
    · next s' hblank =>
      refine reads_of_readScalar hblank (by decide) (by decide) ?_
      simp [readScalar, h, Except.map]
    · next c s' _ hblank =>
      split at h
      · next hdigit =>
        refine reads_of_readScalar hblank (ne_of_isDigit hdigit rfl) (ne_of_isDigit hdigit rfl) ?_
        rw [readScalar_of_isDigit hdigit, h]
        rfl
      · cases h
    · cases h
  · intro h
    obtain ⟨c, s', hblank, hbegins, hscalar⟩ := begins_of_reads h
    unfold Form.readAnyNumber
    rw [hblank]
    rcases hbegins with rfl | hdigit
    · have hread := hscalar (by decide) (by decide)
      obtain ⟨⟨n', rest'⟩, hnumber, heq⟩ : ∃ p, readNumber true s' = .ok p ∧ _ :=
        exists_of_map_eq_ok hread
      cases heq
      exact hnumber
    · have hread := hscalar (ne_of_isDigit hdigit rfl) (ne_of_isDigit hdigit rfl)
      rw [readScalar_of_isDigit hdigit] at hread
      obtain ⟨⟨n', rest'⟩, hnumber, heq⟩ := exists_of_map_eq_ok hread
      cases heq
      split
      · next heq =>
        cases heq
        cases hdigit
      · next heq =>
        cases heq
        rw [if_pos hdigit]
        exact hnumber
      · next hnone => exact (hnone c s' rfl).elim

theorem Form.agrees_integer (least most : Int) (name : String) (ofInt : Int → α)
    (toInt : α → Int) : (Form.integer least most name ofInt toInt).Agrees := by
  intro levels s a rest
  constructor
  · intro h
    obtain ⟨⟨n, rest'⟩, hnumber, h⟩ := exists_of_bind_eq_ok h
    cases n with
    | integer n =>
      dsimp only at h
      split at h
      · next hrange =>
        cases h
        refine ⟨.number (.integer n), readAnyNumber_iff.1 hnumber, ?_⟩
        simp only [integer, hrange, and_self, if_true]
      · cases h
    | fractional x => cases h
  · rintro ⟨v, hreads, htake⟩
    simp only [integer] at htake
    split at htake
    · next n =>
      split at htake
      · next hrange =>
        cases htake
        simp only [integer, bind, Except.bind, readAnyNumber_iff.2 hreads, hrange, and_self,
          if_true]
      · cases htake
    · cases htake

theorem Form.agrees_int32 : Form.int32.Agrees := agrees_integer _ _ _ _ _

theorem Form.agrees_int64 : Form.int64.Agrees := agrees_integer _ _ _ _ _

theorem Form.Agrees.optional {f : Form α} (h : f.Agrees) : f.optional.Agrees := by
  intro levels s a rest
  constructor
  · intro hread
    simp only [Form.optional] at hread
    split at hread
    · next s' hblank =>
      obtain ⟨rest', hword, heq⟩ := exists_of_map_eq_ok hread
      cases heq
      refine ⟨.null, reads_of_readScalar hblank (by decide) (by decide) ?_, rfl⟩
      simp only [readScalar, hword, if_true]
      rfl
    · next hnone =>
      obtain ⟨⟨b, rest'⟩, hb, heq⟩ := exists_of_map_eq_ok hread
      cases heq
      obtain ⟨v, hreads, htake⟩ := (h _ _ _ _).1 hb
      have hv := reads_skipBlank.1 hreads
      obtain ⟨c, s', hblank, hbegins, -⟩ := begins_of_reads hv
      refine ⟨v, hv, ?_⟩
      cases v with
      | null =>
        cases hbegins
        exact (hnone s' hblank).elim
      | _ => simp only [Form.optional, htake, Except.map]
  · rintro ⟨v, hreads, htake⟩
    obtain ⟨c, s', hblank, hbegins, hscalar⟩ := begins_of_reads hreads
    by_cases hnull : v = .null
    · subst hnull
      cases hbegins
      cases htake
      have hread := hscalar (by decide) (by decide)
      simp only [readScalar, if_true] at hread
      obtain ⟨rest', hword, heq⟩ := exists_of_map_eq_ok hread
      cases heq
      simp only [Form.optional, hblank, hword]
      rfl
    · have hletter : c ≠ 'n' := by
        rintro rfl
        exact hnull hbegins.eq_null
      have htaken : ∃ b, f.take v = .ok b ∧ some b = a := by
        simp only [Form.optional] at htake
        exact exists_of_map_eq_ok htake
      obtain ⟨b, hb, rfl⟩ := htaken
      have hread := (h _ _ _ _).2 ⟨v, reads_skipBlank.2 hreads, hb⟩
      simp only [Form.optional, hblank] at hread ⊢
      split
      · next heq =>
        cases heq
        exact (hletter rfl).elim
      · rw [hread]
        rfl

/-- A form that makes something of what another one gives, if it can, agrees where that one does. -/
theorem Form.Agrees.refined {f : Form β} (h : f.Agrees) {f' : Form α} (make : β → Option α)
    {next : β × Source → Except Fault (α × Source)} {next' : Value → β → Except Mismatch α}
    (hread : ∀ levels s, f'.read levels s = (f.read levels s).bind next)
    (htake : ∀ v, f'.take v = (f.take v).bind (next' v))
    (hnext : ∀ b rest a rest', next (b, rest) = .ok (a, rest') ↔ make b = some a ∧ rest = rest')
    (hnext' : ∀ v b a, next' v b = .ok a ↔ make b = some a) : f'.Agrees := by
  intro levels s a rest
  rw [hread]
  constructor
  · intro hmade
    obtain ⟨⟨b, rest'⟩, hb, hmade⟩ := exists_of_bind_eq_ok hmade
    obtain ⟨ha, rfl⟩ := (hnext b rest' a rest).1 hmade
    obtain ⟨v, hreads, hv⟩ := (h _ _ _ _).1 hb
    refine ⟨v, hreads, ?_⟩
    rw [htake, hv]
    exact (hnext' v b a).2 ha
  · rintro ⟨v, hreads, hmade⟩
    rw [htake] at hmade
    obtain ⟨b, hv, hmade⟩ := exists_of_bind_eq_ok hmade
    rw [(h _ _ _ _).2 ⟨v, hreads, hv⟩]
    exact (hnext b rest a rest).2 ⟨(hnext' v b a).1 hmade, rfl⟩

/-- A member that is read as it would be taken out of the value that stands there. -/
def Member.Agrees (m : Member σ) : Prop :=
  ∀ levels y s y' rest, m.read levels y s = .ok (y', rest) ↔
    ∃ v, Reads levels s v rest ∧ m.take y v = .ok y'

theorem Form.Agrees.member {f : Form α} (h : f.Agrees) (name : String) (required : Bool)
    (get : σ → α) (set : σ → α → σ) : (f.member name required get set).Agrees := by
  intro levels y s y' rest
  constructor
  · intro hread
    obtain ⟨a, ha, rfl⟩ := exists_of_member_read hread
    obtain ⟨v, hreads, htake⟩ := (h _ _ _ _).1 ha
    refine ⟨v, hreads, ?_⟩
    simp only [Form.member, htake]
    rfl
  · rintro ⟨v, hreads, htake⟩
    obtain ⟨a, ha, rfl⟩ := exists_of_map_eq_ok htake
    simp only [Form.member, (h _ _ _ _).2 ⟨v, hreads, ha⟩]
    rfl

end PacketTelemetry.Json

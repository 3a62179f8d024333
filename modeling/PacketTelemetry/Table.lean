/-
Values kept under names, in ascending order of the names.

`put` gives a name its value, in place of an earlier value of that name, and `get?` finds it:
`get?_put_self` and `get?_put_other` say what one sees of the other. A name stands in a table
once, as long as only `put` has made it: `Ordered.put` keeps the names apart.
-/
namespace PacketTelemetry

/-- Values under names. -/
abbrev Table (α : Type) := List (String × α)

namespace Table

variable {α : Type}

/-- A table in which a name has a value, and all others the value they had. -/
def put (name : String) (a : α) : Table α → Table α
  | [] => [(name, a)]
  | (n, b) :: rest =>
    if name < n then (name, a) :: (n, b) :: rest
    else if name = n then (name, a) :: rest
    else (n, b) :: put name a rest

/-- The value of a name. -/
def get? (name : String) : Table α → Option α
  | [] => none
  | (n, a) :: rest => if n = name then some a else get? name rest

/-- The values, in the order of their names. -/
def values (t : Table α) : List α := t.map (·.2)

/-- The last value given to each name, out of a list of names and values. -/
def ofList (entries : List (String × α)) : Table α :=
  entries.foldl (fun t e => put e.1 e.2 t) []

@[simp] theorem get?_nil (name : String) : get? name ([] : Table α) = none := rfl

theorem get?_put_self (name : String) (a : α) (t : Table α) :
    get? name (put name a t) = some a := by
  fun_induction put name a t with
  | case1 => simp [get?]
  | case2 => simp [get?]
  | case3 => simp [get?]
  | case4 n b rest _ hne ih => simp [get?, Ne.symm hne, ih]

theorem get?_put_other {name other : String} (h : other ≠ name) (a : α) (t : Table α) :
    get? other (put name a t) = get? other t := by
  fun_induction put name a t with
  | case1 => simp [get?, Ne.symm h]
  | case2 => simp [get?, Ne.symm h]
  | case3 => simp [get?, Ne.symm h]
  | case4 n b rest _ _ ih => simp [get?, ih]

/-! ## Names -/

/-- The names, as they stand. -/
def names (t : Table α) : List String := t.map (·.1)

/-- Names in ascending order, each of them once. -/
def Ordered (t : Table α) : Prop := (names t).Pairwise (· < ·)

instance (t : Table α) : Decidable (Ordered t) :=
  inferInstanceAs (Decidable ((names t).Pairwise (· < ·)))

@[simp] theorem names_cons (e : String × α) (t : Table α) : names (e :: t) = e.1 :: names t := rfl

theorem isSome_get?_iff {name : String} {t : Table α} : (get? name t).isSome ↔ name ∈ names t := by
  fun_induction get? name t with
  | case1 => simp [names]
  | case2 => simp
  | case3 n _ rest hne ih => simpa [Ne.symm hne] using ih

theorem mem_names_put {name other : String} {a : α} {t : Table α} :
    other ∈ names (put name a t) ↔ other = name ∨ other ∈ names t := by
  fun_induction put name a t with
  | case1 => simp [names]
  | case2 => simp
  | case3 => simp
  | case4 n b rest _ _ ih =>
    rw [names_cons, names_cons, List.mem_cons, List.mem_cons, ih, or_left_comm]

theorem Ordered.put {t : Table α} (h : Ordered t) (name : String) (a : α) :
    Ordered (put name a t) := by
  fun_induction Table.put name a t with
  | case1 => simp [Ordered, names]
  | case2 n b rest hlt =>
    have hrest := List.pairwise_cons.1 h
    refine List.pairwise_cons.2 ⟨fun m hm => ?_, h⟩
    rcases List.mem_cons.1 hm with rfl | hm
    · exact hlt
    · exact String.lt_trans hlt (hrest.1 m hm)
  | case3 => exact h
  | case4 n b rest hle hne ih =>
    have hlt : n < name := Std.lt_of_le_of_ne (String.not_lt.1 hle) (Ne.symm hne)
    have hrest := List.pairwise_cons.1 h
    refine List.pairwise_cons.2 ⟨fun m hm => ?_, ih hrest.2⟩
    rcases mem_names_put.1 hm with rfl | hm
    · exact hlt
    · exact hrest.1 m hm

/-- Names in order are distinct. -/
theorem Ordered.nodup {t : Table α} (h : Ordered t) : (names t).Nodup := by
  refine List.Pairwise.imp ?_ h
  rintro n _ hlt rfl
  exact String.lt_irrefl n hlt

/-- What is in order is found where it stands. -/
theorem get?_of_mem {t : Table α} (h : Ordered t) {e : String × α} (he : e ∈ t) :
    get? e.1 t = some e.2 := by
  induction t with
  | nil => cases he
  | cons e' t ih =>
    obtain ⟨hhead, htail⟩ := List.pairwise_cons.1 h
    rcases List.mem_cons.1 he with rfl | he
    · exact if_pos rfl
    · have hne : e'.1 ≠ e.1 := String.ne_of_lt (hhead e.1 (List.mem_map_of_mem he))
      exact (if_neg hne).trans (ih htail he)

/-! ## Tables made in order -/

theorem names_append (t t' : Table α) : names (t ++ t') = names t ++ names t' := List.map_append

theorem Ordered.of_append {t t' : Table α} (h : Ordered (t ++ t')) : Ordered t := by
  rw [Ordered, names_append, List.pairwise_append] at h
  exact h.1

/-- A name behind all others goes behind them. -/
theorem put_of_ordered {t : Table α} {name : String} {a : α} (h : Ordered (t ++ [(name, a)])) :
    put name a t = t ++ [(name, a)] := by
  induction t with
  | nil => rfl
  | cons e t ih =>
    obtain ⟨hhead, htail⟩ := List.pairwise_cons.1 h
    have hlt : e.1 < name := hhead name (by simp)
    rw [List.cons_append, put, if_neg (String.lt_asymm hlt), if_neg (Ne.symm (String.ne_of_lt hlt)),
      ih htail]

/-- Names in order are kept as they stand. -/
theorem ofList_of_ordered {t : Table α} (h : Ordered t) : ofList t = t := by
  have hbehind : ∀ (t' done : Table α), Ordered (done ++ t') →
      t'.foldl (fun t e => put e.1 e.2 t) done = done ++ t' := by
    intro t'
    induction t' with
    | nil => exact fun done _ => (List.append_nil done).symm
    | cons e t' ih =>
      intro done hall
      rw [List.append_cons] at hall ⊢
      rw [List.foldl_cons, put_of_ordered hall.of_append, ih _ hall]
  exact hbehind t [] h

/-- Whatever is put into a table, its names are in order. -/
theorem ordered_ofList (entries : List (String × α)) : Ordered (ofList entries) := by
  have hfold : ∀ (es : List (String × α)) (t : Table α), Ordered t →
      Ordered (es.foldl (fun t e => put e.1 e.2 t) t) := by
    intro es
    induction es with
    | nil => exact fun t h => h
    | cons e es ih => exact fun t h => ih _ (h.put e.1 e.2)
  exact hfold entries [] List.Pairwise.nil

/-- What is in a table after a value was put in was there before, or is that value. -/
theorem mem_of_mem_put {name : String} {a : α} {t : Table α} {e : String × α}
    (h : e ∈ put name a t) : e = (name, a) ∨ e ∈ t := by
  fun_induction put name a t with
  | case1 => exact .inl (List.mem_singleton.1 h)
  | case2 => exact List.mem_cons.1 h
  | case3 =>
    rcases List.mem_cons.1 h with rfl | h
    · exact .inl rfl
    · exact .inr (List.mem_cons_of_mem _ h)
  | case4 n b rest _ _ ih =>
    rcases List.mem_cons.1 h with rfl | h
    · exact .inr List.mem_cons_self
    · exact (ih h).imp_right (List.mem_cons_of_mem _)

theorem mem_of_mem_ofList {entries : List (String × α)} {e : String × α}
    (h : e ∈ ofList entries) : e ∈ entries := by
  have hfold : ∀ (es : List (String × α)) (t : Table α),
      e ∈ es.foldl (fun t e => put e.1 e.2 t) t → e ∈ es ∨ e ∈ t := by
    intro es
    induction es with
    | nil => exact fun t h => .inr h
    | cons e' es ih =>
      intro t h
      rcases ih _ h with h | h
      · exact .inl (List.mem_cons_of_mem _ h)
      · rcases mem_of_mem_put h with rfl | h
        · exact .inl List.mem_cons_self
        · exact .inr h
  exact (hfold entries [] h).resolve_right List.not_mem_nil

theorem put_perm {name : String} {a : α} {t : Table α} (h : name ∉ names t) :
    (put name a t).Perm ((name, a) :: t) := by
  fun_induction put name a t with
  | case1 => exact .refl _
  | case2 => exact .refl _
  | case3 => exact absurd List.mem_cons_self h
  | case4 n b rest _ _ ih =>
    refine .trans (.cons _ (ih fun hmem => h (List.mem_cons_of_mem _ hmem))) (.swap _ _ _)

/-- Names that stand once each are only put in order. -/
theorem ofList_perm {entries : List (String × α)} (h : (names entries).Nodup) :
    (ofList entries).Perm entries := by
  have hfold : ∀ (es : List (String × α)) (t : Table α), (names (es ++ t)).Nodup →
      (es.foldl (fun t e => put e.1 e.2 t) t).Perm (es ++ t) := by
    intro es
    induction es with
    | nil => exact fun t _ => .refl t
    | cons e es ih =>
      intro t hnodup
      obtain ⟨hnew, hrest⟩ := List.nodup_cons.1 hnodup
      have hput : (put e.1 e.2 t).Perm (e :: t) := by
        refine put_perm fun hmem => hnew ?_
        obtain ⟨e', he', hname⟩ := List.mem_map.1 hmem
        exact List.mem_map.2 ⟨e', List.mem_append_right es he', hname⟩
      have hmiddle : (es ++ put e.1 e.2 t).Perm (e :: (es ++ t)) :=
        (hput.append_left es).trans List.perm_middle
      have hnames : (names (es ++ put e.1 e.2 t)).Perm (names (e :: es ++ t)) :=
        hmiddle.map fun e : String × α => e.1
      exact (ih _ (hnames.nodup_iff.2 hnodup)).trans hmiddle
  have hall := hfold entries [] (by rwa [List.append_nil])
  rwa [List.append_nil] at hall

end Table

end PacketTelemetry

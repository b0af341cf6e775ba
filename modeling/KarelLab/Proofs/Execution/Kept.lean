import KarelLab.Proofs.Execution.Points

/-!
# Where a running program keeps values

The value of a name is kept with the names of the whole program or with those of a call. A name is
looked up where the innermost function around binds it. Of all that a program does only the binding of a
name changes what is kept, at one place and for one name; to open a call adds nothing, and to close one
forgets what the call kept.
-/

namespace KarelLab.Execution

/-! ## Where values are kept -/

def Machine.value? (m : Machine) (place : Option Nat) (name : String) : Option Value :=
  match place with
  | none => m.globals.find? name
  | some k => (m.calls[k]?).bind (·.find? name)

def Machine.Holds (m : Machine) (place : Option Nat) (name : String) : Prop :=
  ∃ i, m.value? place name = some (.int i)

/-- Where a name is looked up that some functions around bind, the innermost first. -/
def placeOf (scopes : List LocalScope) (name : String) : Option Nat :=
  (scopes.find? (·.names.contains name)).map (·.place)

def Context.place (ctx : Context) : Option Nat := ctx.scopes.head?.map (·.place)

def Context.Binds (ctx : Context) (name : String) : Prop :=
  ∀ own ∈ ctx.scopes.head?, name ∈ own.names

variable {m after : Machine} {ctx : Context} {name n : String} {v : Value} {place : Option Nat}

theorem mem_of_placeOf {scopes : List LocalScope} {k : Nat} (h : placeOf scopes name = some k) :
    ∃ s ∈ scopes, s.place = k := by
  obtain ⟨s, hs, hk⟩ := Option.map_eq_some_iff.mp h
  exact ⟨s, List.mem_of_find?_eq_some hs, hk⟩

theorem placeOf_cons_of_mem {own : LocalScope} {outer : List LocalScope} (h : name ∈ own.names) :
    placeOf (own :: outer) name = some own.place := by
  rw [placeOf, List.find?_cons_of_pos (by simpa using h)]
  rfl

theorem placeOf_cons_of_notMem {own : LocalScope} {outer : List LocalScope}
    (h : name ∉ own.names) : placeOf (own :: outer) name = placeOf outer name := by
  rw [placeOf, List.find?_cons_of_neg (by simpa using h)]
  rfl

theorem placeOf_of_binds (h : ctx.Binds name) : placeOf ctx.scopes name = ctx.place := by
  unfold Context.Binds at h
  rw [Context.place]
  cases hs : ctx.scopes with
  | nil => rfl
  | cons own outer =>
    rw [hs] at h
    exact placeOf_cons_of_mem (h own rfl)

/-- A value that is kept in a call is kept in one that is open. -/
theorem lt_size_of_value? {k : Nat} (h : m.value? (some k) n = some v) : k < m.calls.size := by
  obtain ⟨names, hnames, -⟩ := Option.bind_eq_some_iff.mp h
  exact (Array.getElem?_eq_some_iff.mp hnames).1

theorem globalValue_cases (ctx : Context) (n : String) (line : Nat) (m : Machine) :
    (∃ v, m.globals.find? n = some v ∧ Run.globalValue ctx n line m = .ok v m) ∨
      (m.globals.find? n = none ∧ (Run.globalValue ctx n line m = .ok .counting m ∨
        ∃ f, Run.globalValue ctx n line m = .error f m)) := by
  rw [Run.globalValue, Run.get_bind]
  cases hv : m.globals.find? n with
  | some v => exact .inl ⟨v, rfl, rfl⟩
  | none =>
    refine .inr ⟨rfl, ?_⟩
    dsimp only
    cases ctx.library with
    | standard =>
      dsimp only
      split
      · exact .inl rfl
      · exact .inr ⟨_, rfl⟩
    | replaced typeName => exact .inr ⟨_, rfl⟩

/-- A name reads as the value that is kept where it is looked up. If there is none, it is the counting
function or it cannot be read. -/
theorem read_cases (ctx : Context) (n : String) (line : Nat) (m : Machine) :
    (∃ v, m.value? (placeOf ctx.scopes n) n = some v ∧ Run.read ctx n line m = .ok v m) ∨
      (m.value? (placeOf ctx.scopes n) n = none ∧ (Run.read ctx n line m = .ok .counting m ∨
        ∃ f, Run.read ctx n line m = .error f m)) := by
  cases hs : ctx.scopes with
  | nil =>
    rw [read_eq_globalValue (by simp [hs])]
    exact globalValue_cases ctx n line m
  | cons own outer =>
    unfold Run.read
    rw [hs]
    dsimp only
    by_cases hown : n ∈ own.names
    · rw [if_pos (List.contains_iff_mem.mpr hown), Run.get_bind, placeOf_cons_of_mem hown,
        Machine.value?, ← Run.localValue?]
      cases Run.localValue? m own n with
      | some v => exact .inl ⟨v, rfl, rfl⟩
      | none => exact .inr ⟨rfl, .inr ⟨_, rfl⟩⟩
    · rw [if_neg (by simpa using hown), placeOf_cons_of_notMem hown, placeOf]
      cases outer.find? (·.names.contains n) with
      | none => exact globalValue_cases ctx n line m
      | some scope =>
        dsimp only [Option.map_some]
        rw [Run.get_bind, Machine.value?, ← Run.localValue?]
        cases Run.localValue? m scope n with
        | some v => exact .inl ⟨v, rfl, rfl⟩
        | none => exact .inr ⟨rfl, .inr ⟨_, rfl⟩⟩

/-- A number that is kept where a name is looked up is what the name reads as. -/
theorem exists_read_eq_ok (h : m.Holds (placeOf ctx.scopes name) name) (line : Nat) :
    ∃ i, Run.read ctx name line m = .ok (.int i) m := by
  obtain ⟨i, hi⟩ := h
  rcases read_cases ctx name line m with ⟨v, hv, hread⟩ | ⟨hnone, -⟩
  · cases hi.symm.trans hv
    exact ⟨i, hread⟩
  · cases hi.symm.trans hnone

/-! ## What changes them -/

theorem Bindings.find?_set_of_ne {bs : Bindings} {k : String} (h : k ≠ n) (v : Value) :
    (set n v bs).find? k = bs.find? k := by
  have hn : ¬ n = k := fun hn => h hn.symm
  induction bs with
  | nil => simp [set, find?, hn]
  | cons c rest ih =>
    unfold find? at ih ⊢
    rw [set]
    split
    · rename_i hc
      subst hc
      rw [List.find?_cons_of_neg (by simpa using hn), List.find?_cons_of_neg (by simpa using hn)]
    · by_cases hk : c.1 = k
      · rw [List.find?_cons_of_pos (by simpa using hk), List.find?_cons_of_pos (by simpa using hk)]
      · rw [List.find?_cons_of_neg (by simpa using hk), List.find?_cons_of_neg (by simpa using hk), ih]

theorem bind_eq_ok {u : Unit} (h : Run.bind ctx n v m = .ok u after) :
    (ctx.scopes = [] ∧ after = { m with globals := m.globals.set n v }) ∨
      ∃ own outer, ctx.scopes = own :: outer ∧
        after = { m with calls := m.calls.modify own.place (·.set n v) } := by
  rw [Run.bind] at h
  cases hs : ctx.scopes with
  | nil =>
    rw [hs] at h
    cases h
    exact .inl ⟨rfl, rfl⟩
  | cons own outer =>
    rw [hs] at h
    cases h
    exact .inr ⟨own, outer, rfl, rfl⟩

/-- To bind a name changes its value where names are bound, and nothing else. -/
theorem value?_of_bind {u : Unit} (h : Run.bind ctx n v m = .ok u after) (place : Option Nat)
    (k : String) : after.value? place k = m.value? place k ∨
      (place = ctx.place ∧ k = n ∧ after.value? place k = some v) := by
  rw [Context.place]
  rcases bind_eq_ok h with ⟨hs, rfl⟩ | ⟨own, outer, hs, rfl⟩
  · cases place with
    | some q => exact .inl rfl
    | none =>
      by_cases hk : k = n
      · subst hk
        exact .inr ⟨by rw [hs]; rfl, rfl, Bindings.find?_set m.globals k v⟩
      · exact .inl (Bindings.find?_set_of_ne hk v)
  · cases place with
    | none => exact .inl rfl
    | some q =>
      simp only [Machine.value?]
      rw [Array.getElem?_modify]
      split
      · rename_i hq
        subst hq
        cases m.calls[own.place]? with
        | none => exact .inl rfl
        | some names =>
          by_cases hk : k = n
          · subst hk
            exact .inr ⟨by rw [hs]; rfl, rfl, Bindings.find?_set names k v⟩
          · exact .inl (Bindings.find?_set_of_ne hk v)
      · exact .inl rfl

/-- A name that is bound has its value where names are bound. -/
theorem value?_place_of_bind {u : Unit} (h : Run.bind ctx n v m = .ok u after)
    (hopen : ∀ s ∈ ctx.scopes, s.place < m.calls.size) : after.value? ctx.place n = some v := by
  rw [Context.place]
  rcases bind_eq_ok h with ⟨hs, rfl⟩ | ⟨own, outer, hs, rfl⟩
  · rw [hs]
    exact Bindings.find?_set m.globals n v
  · rw [hs] at hopen ⊢
    have hlt : own.place < m.calls.size := hopen own List.mem_cons_self
    simp only [Machine.value?, List.head?_cons, Option.map_some]
    rw [Array.getElem?_modify, if_pos rfl, Array.getElem?_eq_getElem hlt]
    exact Bindings.find?_set _ n v

theorem size_of_bind {u : Unit} (h : Run.bind ctx n v m = .ok u after) :
    after.calls.size = m.calls.size := by
  rcases bind_eq_ok h with ⟨-, rfl⟩ | ⟨own, outer, -, rfl⟩
  · rfl
  · exact Array.size_modify

/-- A call that is opened keeps nothing yet. -/
theorem value?_push (m : Machine) (place : Option Nat) (n : String) :
    Machine.value? { m with calls := m.calls.push [] } place n = m.value? place n := by
  cases place with
  | none => rfl
  | some k =>
    simp only [Machine.value?]
    rw [Array.getElem?_push]
    split
    · rename_i hk
      rw [hk, Array.getElem?_eq_none (Nat.le_refl _)]
      rfl
    · rfl

/-- With the last call only its own values are forgotten. -/
theorem value?_pop {k : Nat} (hk : k + 1 < m.calls.size) (n : String) :
    Machine.value? { m with calls := m.calls.pop } (some k) n = m.value? (some k) n := by
  simp only [Machine.value?]
  rw [Array.getElem?_pop, if_pos (by omega)]

end KarelLab.Execution

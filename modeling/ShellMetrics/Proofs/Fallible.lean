import Mathlib.Data.List.Forall2

/-!
# Computations that can fail

A computation ends in a result or in a fault.  A chain of steps ends in a result if all of its
steps do, and otherwise in the fault of the first step that has one.  The same is said of a step
that is made for each element of a list.
-/

namespace ShellMetrics.Fallible

variable {ε ε' α β σ : Type}

/-! ## Single steps -/

@[simp] theorem pure_eq_ok_iff {a b : α} : (pure a : Except ε α) = .ok b ↔ a = b := by
  change Except.ok a = .ok b ↔ a = b
  exact Except.ok.injEq a b ▸ Iff.rfl

@[simp] theorem pure_ne_error {a : α} {e : ε} : (pure a : Except ε α) ≠ .error e := nofun

/-- Two steps succeed if the first does and the second does with its result. -/
theorem bind_eq_ok_iff {x : Except ε α} {f : α → Except ε β} {b : β} :
    x >>= f = .ok b ↔ ∃ a, x = .ok a ∧ f a = .ok b := by
  cases x with
  | error e => simp [bind, Except.bind]
  | ok a => simp [bind, Except.bind]

/-- Two steps fail if the first does, or if the second does with its result. -/
theorem bind_eq_error_iff {x : Except ε α} {f : α → Except ε β} {e : ε} :
    x >>= f = .error e ↔ x = .error e ∨ ∃ a, x = .ok a ∧ f a = .error e := by
  cases x with
  | error e' => simp [bind, Except.bind]
  | ok a => simp [bind, Except.bind]

/-- A test that ends a computation with a result does not end it with a fault. -/
theorem ite_pure_eq_error_iff {c : Prop} [Decidable c] {a : α} {x : Except ε α} {e : ε} :
    (if c then pure a else x) = .error e ↔ ¬ c ∧ x = .error e := by
  by_cases h : c <;> simp [h]

theorem mapError_eq_ok_iff {x : Except ε α} {f : ε → ε'} {a : α} :
    x.mapError f = .ok a ↔ x = .ok a := by
  cases x <;> simp [Except.mapError]

theorem mapError_eq_error_iff {x : Except ε α} {f : ε → ε'} {e' : ε'} :
    x.mapError f = .error e' ↔ ∃ e, x = .error e ∧ f e = e' := by
  cases x <;> simp [Except.mapError]

theorem eq_ok_of_toOption_eq_some {x : Except ε α} {a : α} (h : x.toOption = some a) :
    x = .ok a := by
  cases x with
  | error e => exact absurd h nofun
  | ok b => exact congrArg _ (Option.some.inj h)

theorem exists_eq_ok_of_isSome_toOption {x : Except ε α} (h : x.toOption.isSome = true) :
    ∃ a, x = .ok a := by
  obtain ⟨a, ha⟩ := Option.isSome_iff_exists.1 h
  exact ⟨a, eq_ok_of_toOption_eq_some ha⟩

theorem exists_eq_error_of_toOption_eq_none {x : Except ε α} (h : x.toOption = none) :
    ∃ e, x = .error e := by
  cases x with
  | error e => exact ⟨e, rfl⟩
  | ok a => exact absurd h nofun

/-! ## One step for each element -/

/-- A list is gone through if each of its items gives its result. -/
theorem mapM_eq_ok_iff {f : α → Except ε β} {items : List α} {results : List β} :
    items.mapM f = .ok results ↔
      List.Forall₂ (fun item result ↦ f item = .ok result) items results := by
  induction items generalizing results with
  | nil =>
    rw [List.mapM_nil, pure_eq_ok_iff, List.forall₂_nil_left_iff]
    exact eq_comm
  | cons item items ih =>
    rw [List.mapM_cons, List.forall₂_cons_left_iff]
    simp only [bind_eq_ok_iff, pure_eq_ok_iff, ih]
    constructor
    · rintro ⟨result, hitem, rest, hrest, rfl⟩
      exact ⟨result, rest, hitem, hrest, rfl⟩
    · rintro ⟨result, rest, hitem, hrest, rfl⟩
      exact ⟨result, hitem, rest, hrest, rfl⟩

/-- A fault of the whole is a fault of one of the steps. -/
theorem exists_mem_of_mapM_eq_error {f : α → Except ε β} {items : List α} {e : ε}
    (h : items.mapM f = .error e) : ∃ item ∈ items, f item = .error e := by
  induction items with
  | nil => simp at h
  | cons item items ih =>
    rw [List.mapM_cons, bind_eq_error_iff] at h
    rcases h with hitem | ⟨_, _, hrest⟩
    · exact ⟨item, List.mem_cons_self, hitem⟩
    · rw [bind_eq_error_iff] at hrest
      obtain hrest | ⟨_, _, hpure⟩ := hrest
      · obtain ⟨other, hother, he⟩ := ih hrest
        exact ⟨other, List.mem_cons_of_mem _ hother, he⟩
      · exact absurd hpure pure_ne_error

theorem exists_of_mapM_eq_ok {f : α → Except ε β} {items : List α} {results : List β}
    (h : items.mapM f = .ok results) {item : α} (hitem : item ∈ items) :
    ∃ result, f item = .ok result := by
  rw [mapM_eq_ok_iff] at h
  induction h with
  | nil => simp at hitem
  | cons hfirst _ ih =>
    rcases List.mem_cons.1 hitem with rfl | hrest
    · exact ⟨_, hfirst⟩
    · exact ih hrest

theorem exists_of_mem_mapM {f : α → Except ε β} {items : List α} {results : List β}
    (h : items.mapM f = .ok results) {result : β} (hresult : result ∈ results) :
    ∃ item ∈ items, f item = .ok result := by
  rw [mapM_eq_ok_iff] at h
  induction h with
  | nil => simp at hresult
  | cons hfirst _ ih =>
    rcases List.mem_cons.1 hresult with rfl | hrest
    · exact ⟨_, List.mem_cons_self, hfirst⟩
    · obtain ⟨item, hitem, hok⟩ := ih hrest
      exact ⟨item, List.mem_cons_of_mem _ hitem, hok⟩

/-- A list is gone through if no item fails. -/
theorem exists_mapM_eq_ok_iff {f : α → Except ε β} {items : List α} :
    (∃ results, items.mapM f = .ok results) ↔ ∀ item ∈ items, ∃ result, f item = .ok result := by
  constructor
  · rintro ⟨results, h⟩ item hitem
    exact exists_of_mapM_eq_ok h hitem
  · intro h
    cases hmap : items.mapM f with
    | ok results => exact ⟨results, rfl⟩
    | error e =>
      obtain ⟨item, hitem, he⟩ := exists_mem_of_mapM_eq_error hmap
      obtain ⟨result, hresult⟩ := h item hitem
      rw [hresult] at he
      exact absurd he nofun

theorem forM_eq_ok_iff {check : α → Except ε PUnit} {items : List α} :
    items.forM check = .ok () ↔ ∀ item ∈ items, check item = .ok () := by
  induction items with
  | nil => simp
  | cons first items ih =>
    rw [List.forM, bind_eq_ok_iff, List.forall_mem_cons, ← ih]
    constructor
    · rintro ⟨_, hfirst, hrest⟩
      exact ⟨hfirst, hrest⟩
    · rintro ⟨hfirst, hrest⟩
      exact ⟨_, hfirst, hrest⟩

/-- Checks that are made in order end in the fault of the first that fails. -/
theorem forM_eq_error_iff {check : α → Except ε PUnit} {items : List α} {e : ε} :
    items.forM check = .error e ↔
      ∃ before item after, items = before ++ item :: after ∧
        (∀ other ∈ before, check other = .ok ()) ∧ check item = .error e := by
  induction items with
  | nil => simp
  | cons first items ih =>
    rw [List.forM, bind_eq_error_iff]
    constructor
    · rintro (hfirst | ⟨_, hfirst, hrest⟩)
      · exact ⟨[], first, items, rfl, by simp, hfirst⟩
      · obtain ⟨before, item, after, rfl, hbefore, hitem⟩ := ih.1 hrest
        exact ⟨first :: before, item, after, rfl, List.forall_mem_cons.2 ⟨hfirst, hbefore⟩, hitem⟩
    · rintro ⟨before, item, after, hitems, hbefore, hitem⟩
      cases before with
      | nil =>
        obtain ⟨rfl, rfl⟩ := List.cons.inj hitems
        exact .inl hitem
      | cons other before =>
        obtain ⟨rfl, rfl⟩ := List.cons.inj hitems
        obtain ⟨hfirst, hbefore⟩ := List.forall_mem_cons.1 hbefore
        exact .inr ⟨_, hfirst, ih.2 ⟨before, item, after, rfl, hbefore, hitem⟩⟩

/-- What a test that can fail says, a fault counting as a no. -/
def accepts (test : α → Except ε Bool) (item : α) : Bool := (test item).toOption.getD false

theorem accepts_eq_true_iff {test : α → Except ε Bool} {item : α} :
    accepts test item = true ↔ test item = .ok true := by
  unfold accepts
  cases test item <;> simp [Except.toOption]

theorem filterAuxM_eq_ok_iff {test : α → Except ε Bool} {items kept found : List α} :
    items.filterAuxM test kept = .ok found ↔
      (∀ item ∈ items, ∃ answer, test item = .ok answer) ∧
        found = (items.filter (accepts test)).reverse ++ kept := by
  induction items generalizing kept with
  | nil =>
    rw [List.filterAuxM, pure_eq_ok_iff]
    simp [eq_comm]
  | cons item items ih =>
    rw [List.filterAuxM, bind_eq_ok_iff]
    simp only [ih, List.forall_mem_cons]
    constructor
    · rintro ⟨answer, htest, hrest, hfound⟩
      refine ⟨⟨⟨answer, htest⟩, hrest⟩, ?_⟩
      cases answer <;> simpa [List.filter_cons, accepts, htest, Except.toOption] using hfound
    · rintro ⟨⟨⟨answer, htest⟩, hrest⟩, hfound⟩
      refine ⟨answer, htest, hrest, ?_⟩
      cases answer <;> simpa [List.filter_cons, accepts, htest, Except.toOption] using hfound

/-- A list is filtered if no test fails, and then holds what the test accepts. -/
theorem filterM_eq_ok_iff {test : α → Except ε Bool} {items found : List α} :
    items.filterM test = .ok found ↔
      (∀ item ∈ items, ∃ answer, test item = .ok answer) ∧
        found = items.filter (accepts test) := by
  rw [List.filterM, bind_eq_ok_iff]
  simp only [filterAuxM_eq_ok_iff, pure_eq_ok_iff]
  constructor
  · rintro ⟨_, ⟨htests, rfl⟩, rfl⟩
    exact ⟨htests, by simp⟩
  · rintro ⟨htests, rfl⟩
    exact ⟨_, ⟨htests, rfl⟩, by simp⟩

/-- A fault of the whole is a fault of one of the tests. -/
theorem exists_mem_of_filterAuxM_eq_error {test : α → Except ε Bool} {items kept : List α} {e : ε}
    (h : items.filterAuxM test kept = .error e) : ∃ item ∈ items, test item = .error e := by
  induction items generalizing kept with
  | nil => exact absurd h pure_ne_error
  | cons item items ih =>
    rw [List.filterAuxM, bind_eq_error_iff] at h
    rcases h with hitem | ⟨_, _, hrest⟩
    · exact ⟨item, List.mem_cons_self, hitem⟩
    · obtain ⟨other, hother, he⟩ := ih hrest
      exact ⟨other, List.mem_cons_of_mem _ hother, he⟩

/-- The fault in filtering a list is that of an item. -/
theorem exists_mem_of_filterM_eq_error {test : α → Except ε Bool} {items : List α} {e : ε}
    (h : items.filterM test = .error e) : ∃ item ∈ items, test item = .error e := by
  rw [List.filterM, bind_eq_error_iff] at h
  obtain h | ⟨_, _, hpure⟩ := h
  · exact exists_mem_of_filterAuxM_eq_error h
  · exact absurd hpure pure_ne_error

/-- A fault of a run of steps is a fault of one of them, in some state that the run reaches. -/
theorem exists_mem_of_foldlM_eq_error {step : σ → α → Except ε σ} {items : List α} {state : σ}
    {e : ε} (h : items.foldlM step state = .error e) :
    ∃ item ∈ items, ∃ reached, step reached item = .error e := by
  induction items generalizing state with
  | nil => exact absurd h pure_ne_error
  | cons item items ih =>
    rw [List.foldlM_cons, bind_eq_error_iff] at h
    rcases h with hitem | ⟨next, _, hrest⟩
    · exact ⟨item, List.mem_cons_self, state, hitem⟩
    · obtain ⟨other, hother, reached, he⟩ := ih hrest
      exact ⟨other, List.mem_cons_of_mem _ hother, reached, he⟩

/-- Runs whose steps fail alike, whatever the states are, fail alike. -/
theorem foldlM_eq_error_iff_of_steps {step step' : σ → α → Except ε σ} {items : List α}
    (h : ∀ item ∈ items, ∀ state state' e,
      step state item = .error e ↔ step' state' item = .error e)
    {state state' : σ} {e : ε} :
    items.foldlM step state = .error e ↔ items.foldlM step' state' = .error e := by
  induction items generalizing state state' with
  | nil => exact ⟨fun h ↦ absurd h pure_ne_error, fun h ↦ absurd h pure_ne_error⟩
  | cons item items ih =>
    obtain ⟨hitem, hrest⟩ := List.forall_mem_cons.1 h
    rw [List.foldlM_cons, List.foldlM_cons]
    cases hstep : step state item with
    | error fault => rw [(hitem state state' fault).1 hstep]; rfl
    | ok next =>
      cases hstep' : step' state' item with
      | error fault =>
        rw [(hitem state state' fault).2 hstep'] at hstep
        exact absurd hstep nofun
      | ok next' => exact ih hrest

/-- A run with a step that fails in every state fails. -/
theorem exists_foldlM_eq_error {step : σ → α → Except ε σ} {items : List α} {item : α}
    (hitem : item ∈ items) (h : ∀ state, ∃ e, step state item = .error e) (state : σ) :
    ∃ e, items.foldlM step state = .error e := by
  induction items generalizing state with
  | nil => exact absurd hitem List.not_mem_nil
  | cons first items ih =>
    rw [List.foldlM_cons]
    cases hstep : step state first with
    | error e => exact ⟨e, rfl⟩
    | ok next =>
      rcases List.mem_cons.1 hitem with rfl | hrest
      · obtain ⟨e, he⟩ := h state
        rw [he] at hstep
        exact absurd hstep nofun
      · exact ih hrest next

/-- A run of steps that succeed in every state succeeds. -/
theorem exists_foldlM_eq_ok {step : σ → α → Except ε σ} {items : List α}
    (h : ∀ item ∈ items, ∀ state, ∃ next, step state item = .ok next) (state : σ) :
    ∃ result, items.foldlM step state = .ok result := by
  induction items generalizing state with
  | nil => exact ⟨state, rfl⟩
  | cons item items ih =>
    obtain ⟨hitem, hrest⟩ := List.forall_mem_cons.1 h
    obtain ⟨next, hnext⟩ := hitem state
    obtain ⟨result, hresult⟩ := ih hrest next
    exact ⟨result, bind_eq_ok_iff.2 ⟨next, hnext, hresult⟩⟩

/-- What every step keeps holds at the end of a run. -/
theorem of_foldlM_eq_ok {kept : σ → Prop} {step : σ → α → Except ε σ} {items : List α}
    {state result : σ}
    (hstep : ∀ item state next, kept state → step state item = .ok next → kept next)
    (hstate : kept state) (h : items.foldlM step state = .ok result) : kept result := by
  induction items generalizing state with
  | nil =>
    obtain rfl := Except.ok.inj h
    exact hstate
  | cons item items ih =>
    rw [List.foldlM_cons, bind_eq_ok_iff] at h
    obtain ⟨next, hnext, hrest⟩ := h
    exact ih (hstep item state next hstate hnext) hrest

end ShellMetrics.Fallible

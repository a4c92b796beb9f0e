/-
This file says when a computation that may be refused succeeds.
-/

namespace DocumentQuery.Attempt

variable {Failure First Second : Type}

@[simp] theorem pure_eq_ok_iff {first second : First} :
    (pure first : Except Failure First) = .ok second ↔ first = second := by
  change Except.ok first = .ok second ↔ _
  rw [Except.ok.injEq]

@[simp] theorem throw_eq_ok_iff {failure : Failure} {value : First} :
    (throw failure : Except Failure First) = .ok value ↔ False := by
  change Except.error failure = .ok value ↔ _
  simp

/-- A sequence succeeds exactly when both of its steps do. -/
@[simp] theorem bind_eq_ok_iff {attempt : Except Failure First}
    {next : First → Except Failure Second} {result : Second} :
    (attempt >>= next) = .ok result ↔
      ∃ value, attempt = .ok value ∧ next value = .ok result := by
  cases attempt with
  | error failure =>
      change Except.error failure = .ok result ↔ _
      simp
  | ok value =>
      change next value = .ok result ↔ _
      simp

theorem pure_eq_error_iff {value : First} {failure : Failure} :
    (pure value : Except Failure First) = .error failure ↔ False := by
  change Except.ok value = .error failure ↔ _
  simp

/-- A sequence fails with the failure of its first step that fails. -/
theorem bind_eq_error_iff {attempt : Except Failure First} {next : First → Except Failure Second}
    {failure : Failure} :
    (attempt >>= next) = .error failure ↔
      attempt = .error failure ∨ ∃ value, attempt = .ok value ∧ next value = .error failure := by
  cases attempt with
  | error other =>
      change Except.error other = .error failure ↔ _
      simp
  | ok value =>
      change next value = .error failure ↔ _
      simp

/-- A changed attempt succeeds with the change of a value exactly when the attempt has that
value. -/
@[simp] theorem map_eq_ok_iff {attempt : Except Failure First} {change : First → Second}
    {result : Second} :
    attempt.map change = .ok result ↔ ∃ value, attempt = .ok value ∧ change value = result := by
  cases attempt <;> simp [Except.map]

@[simp] theorem mapped_eq_ok_iff {attempt : Except Failure First} {change : First → Second}
    {result : Second} :
    change <$> attempt = .ok result ↔ ∃ value, attempt = .ok value ∧ change value = result :=
  map_eq_ok_iff

/-- Renaming its failure changes nothing about when an attempt succeeds. -/
@[simp] theorem mapError_eq_ok_iff {Other : Type} {attempt : Except Failure First}
    {change : Failure → Other} {result : First} :
    attempt.mapError change = .ok result ↔ attempt = .ok result := by
  cases attempt with
  | ok found =>
      constructor
      · rintro ⟨⟩
        rfl
      · rintro ⟨⟩
        rfl
  | error fault =>
      constructor
      · rintro ⟨⟩
      · rintro ⟨⟩

@[simp] theorem map_eq_error_iff {attempt : Except Failure First} {change : First → Second}
    {failure : Failure} : attempt.map change = .error failure ↔ attempt = .error failure := by
  cases attempt <;> simp [Except.map]

/-- A step over a whole list succeeds exactly when it succeeds at each item. -/
theorem mapM_succeeds_iff {step : First → Except Failure Second} {items : List First} :
    (∃ results, items.mapM step = .ok results) ↔ ∀ item ∈ items, ∃ result, step item = .ok result := by
  induction items with
  | nil =>
      rw [List.mapM_nil]
      simp
  | cons first rest continued =>
      simp only [List.mapM_cons, bind_eq_ok_iff, pure_eq_ok_iff, List.forall_mem_cons, ← continued]
      constructor
      · intro accepted
        obtain ⟨_, result, one, others, more, _⟩ := accepted
        exact ⟨⟨result, one⟩, others, more⟩
      · intro accepted
        obtain ⟨⟨result, one⟩, others, more⟩ := accepted
        exact ⟨_, result, one, others, more, rfl⟩

/-- Each result of a step over a list comes from one of its items. -/
theorem mem_of_mapM {step : First → Except Failure Second} {items : List First}
    {results : List Second} (stepped : items.mapM step = .ok results) :
    ∀ result ∈ results, ∃ item ∈ items, step item = .ok result := by
  induction items generalizing results with
  | nil =>
      rw [List.mapM_nil, pure_eq_ok_iff] at stepped
      simp [← stepped]
  | cons first rest continued =>
      simp only [List.mapM_cons, bind_eq_ok_iff, pure_eq_ok_iff] at stepped
      obtain ⟨result, one, others, more, rfl⟩ := stepped
      rw [List.forall_mem_cons]
      refine ⟨⟨first, List.mem_cons_self, one⟩, ?_⟩
      intro other member
      obtain ⟨item, inside, stepped⟩ := continued more other member
      exact ⟨item, List.mem_cons_of_mem first inside, stepped⟩

/-- A step that succeeds wherever another one does gives the same results over a list. -/
theorem mapM_kept {step other : First → Except Failure Second} {items : List First}
    {results : List Second}
    (kept : ∀ item result, step item = .ok result → other item = .ok result)
    (stepped : items.mapM step = .ok results) : items.mapM other = .ok results := by
  induction items generalizing results with
  | nil => exact stepped
  | cons first rest continued =>
      simp only [List.mapM_cons, bind_eq_ok_iff, pure_eq_ok_iff] at stepped ⊢
      obtain ⟨result, one, others, more, rfl⟩ := stepped
      exact ⟨result, kept first result one, others, continued more, rfl⟩

/-- What each step keeps of its item is kept in the whole list. -/
theorem map_of_mapM {Key : Type} {step : First → Except Failure Second} {items : List First}
    {results : List Second} {before : First → Key} {after : Second → Key}
    (stepped : items.mapM step = .ok results)
    (kept : ∀ item result, step item = .ok result → after result = before item) :
    results.map after = items.map before := by
  induction items generalizing results with
  | nil =>
      rw [List.mapM_nil, pure_eq_ok_iff] at stepped
      rw [← stepped, List.map_nil, List.map_nil]
  | cons first rest continued =>
      simp only [List.mapM_cons, bind_eq_ok_iff, pure_eq_ok_iff] at stepped
      obtain ⟨result, one, others, more, rfl⟩ := stepped
      rw [List.map_cons, List.map_cons, kept first result one, continued more]

/-- A check of a whole list succeeds exactly when it succeeds at each item. -/
theorem forM_eq_ok_iff {check : First → Except Failure Unit} {items : List First} {done : Unit} :
    items.forM check = .ok done ↔ ∀ item ∈ items, check item = .ok () := by
  induction items with
  | nil =>
      rw [List.forM_eq_forM, List.forM_nil]
      simp
  | cons first rest continued =>
      rw [List.forM_eq_forM] at continued ⊢
      simp only [List.forM_cons, bind_eq_ok_iff, List.forall_mem_cons, continued]
      exact ⟨fun ⟨_, one, more⟩ => ⟨one, more⟩, fun ⟨one, more⟩ => ⟨(), one, more⟩⟩

/-- A step over an optional item succeeds exactly when it succeeds at the item that is there. -/
theorem optionMapM_succeeds_iff {step : First → Except Failure Second} {item : Option First} :
    (∃ result, item.mapM step = .ok result) ↔
      ∀ value, item = some value → ∃ result, step value = .ok result := by
  cases item with
  | none =>
      rw [Option.mapM_none]
      simp
  | some value =>
      rw [Option.mapM_some]
      simp only [mapped_eq_ok_iff, Option.some.injEq, forall_eq']
      exact ⟨fun ⟨_, result, one, _⟩ => ⟨result, one⟩, fun ⟨result, one⟩ => ⟨_, result, one, rfl⟩⟩

/-- A step that succeeds wherever another one does gives the same result over an optional item. -/
theorem optionMapM_kept {step other : First → Except Failure Second} {item : Option First}
    {result : Option Second}
    (kept : ∀ value result, step value = .ok result → other value = .ok result)
    (stepped : item.mapM step = .ok result) : item.mapM other = .ok result := by
  cases item with
  | none => exact stepped
  | some value =>
      rw [Option.mapM_some, mapped_eq_ok_iff] at stepped ⊢
      obtain ⟨found, one, rfl⟩ := stepped
      exact ⟨found, kept value found one, rfl⟩

end DocumentQuery.Attempt

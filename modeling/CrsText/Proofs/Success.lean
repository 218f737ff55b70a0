import CrsText.Wkt.Report
import Mathlib.Data.List.Forall2

/-! When a computation that may fail succeeds. A report succeeds as the computation of its result
does, whatever it notes on the way.
-/

set_option autoImplicit false

namespace CrsText

variable {ε α β : Type}

@[simp] theorem ok_bind (value : α) (next : α → Except ε β) : Except.ok value >>= next = next value :=
  rfl

@[simp] theorem error_bind (failure : ε) (next : α → Except ε β) :
    Except.error failure >>= next = .error failure := rfl

theorem bind_eq_ok {first : Except ε α} {next : α → Except ε β} {result : β} :
    first >>= next = .ok result ↔ ∃ value, first = .ok value ∧ next value = .ok result := by
  cases first <;> simp [Bind.bind, Except.bind]

theorem pure_eq_ok {value result : α} : (pure value : Except ε α) = .ok result ↔ value = result := by
  simp [pure, Except.pure]

theorem map_eq_ok {first : Except ε α} {next : α → β} {result : β} :
    next <$> first = .ok result ↔ ∃ value, first = .ok value ∧ next value = result := by
  cases first <;> simp [Functor.map, Except.map]

theorem mapM_eq_ok {read : α → Except ε β} {values : List α} {results : List β} :
    values.mapM read = .ok results ↔
      List.Forall₂ (fun value result => read value = .ok result) values results := by
  induction values generalizing results with
  | nil => cases results <;> simp [pure_eq_ok]
  | cons value rest ih =>
    rw [List.mapM_cons]
    cases results with
    | nil =>
      simp only [bind_eq_ok, pure_eq_ok, reduceCtorEq, and_false, exists_false, false_iff]
      rintro ⟨⟩
    | cons result others =>
      simp only [bind_eq_ok, pure_eq_ok, ih, List.forall₂_cons, List.cons.injEq]
      constructor
      · intro succeeded
        obtain ⟨_, head, _, tail, rfl, rfl⟩ := succeeded
        exact ⟨head, tail⟩
      · intro pairs
        obtain ⟨head, tail⟩ := pairs
        exact ⟨result, head, others, tail, rfl, rfl⟩

def Succeeds (computation : Except ε α) : Prop := ∃ result, computation = .ok result

@[simp] theorem exists_eq_ok {computation : Except ε α} :
    (∃ result, computation = .ok result) ↔ Succeeds computation := .rfl

@[simp] theorem succeeds_ok (value : α) : Succeeds (.ok value : Except ε α) := ⟨value, rfl⟩

@[simp] theorem succeeds_pure (value : α) : Succeeds (pure value : Except ε α) := ⟨value, rfl⟩

@[simp] theorem not_succeeds_error (failure : ε) : ¬ Succeeds (.error failure : Except ε α) := by
  intro succeeded
  obtain ⟨result, same⟩ := succeeded
  cases same

@[simp] theorem not_succeeds_throw (failure : ε) : ¬ Succeeds (throw failure : Except ε α) :=
  not_succeeds_error failure

theorem succeeds_bind {first : Except ε α} {next : α → Except ε β} :
    Succeeds (first >>= next) ↔ ∃ value, first = .ok value ∧ Succeeds (next value) := by
  cases first <;> simp [Bind.bind, Except.bind]

@[simp] theorem succeeds_map {first : Except ε α} {next : α → β} :
    Succeeds (next <$> first) ↔ Succeeds first := by
  cases first <;> simp [Functor.map, Except.map]

/-- A traversal succeeds if every one of its computations does. -/
theorem succeeds_mapM {read : α → Except ε β} {values : List α} :
    Succeeds (values.mapM read) ↔ ∀ value ∈ values, Succeeds (read value) := by
  induction values with
  | nil => simp
  | cons value rest ih => simp [List.mapM_cons, succeeds_bind, ih]

/-- A traversal fails as the first of its computations that does. -/
theorem mapM_eq_error {read : α → Except ε β} {values : List α} {failure : ε} :
    values.mapM read = .error failure ↔ ∃ before value after, values = before ++ value :: after ∧
      (∀ other ∈ before, Succeeds (read other)) ∧ read value = .error failure := by
  constructor
  · intro failed
    induction values with
    | nil => cases failed
    | cons first rest ih =>
      rw [List.mapM_cons] at failed
      cases here : read first with
      | error other =>
        rw [here] at failed
        cases failed
        exact ⟨[], first, rest, rfl, by simp, here⟩
      | ok result =>
        cases later : rest.mapM read with
        | ok results => simp [here, later, pure, Except.pure] at failed
        | error other =>
          simp only [here, later, ok_bind, error_bind, Except.error.injEq] at failed
          obtain ⟨before, value, after, rfl, succeeded, same⟩ := ih (by rw [later, failed])
          refine ⟨first :: before, value, after, rfl, ?_, same⟩
          exact List.forall_mem_cons.mpr ⟨⟨result, here⟩, succeeded⟩
  · rintro ⟨before, value, after, rfl, succeeded, failed⟩
    induction before with
    | nil => simp [failed]
    | cons first before ih =>
      obtain ⟨⟨result, here⟩, others⟩ := List.forall_mem_cons.mp succeeded
      simp [List.mapM_cons, here, ih others]

theorem exists_of_mem_mapM {read : α → Except ε β} {values : List α} {results : List β} {result : β}
    (succeeded : values.mapM read = .ok results) (member : result ∈ results) :
    ∃ value ∈ values, read value = .ok result := by
  have pairs := mapM_eq_ok.mp succeeded
  obtain ⟨index, bound, rfl⟩ := List.mem_iff_getElem.mp member
  have source : index < values.length := pairs.length_eq ▸ bound
  exact ⟨values[index], List.getElem_mem source, pairs.get source bound⟩

theorem exists_result_of_mem_mapM {read : α → Except ε β} {values : List α} {results : List β}
    {value : α} (succeeded : values.mapM read = .ok results) (member : value ∈ values) :
    ∃ result ∈ results, read value = .ok result := by
  have pairs := mapM_eq_ok.mp succeeded
  obtain ⟨index, bound, rfl⟩ := List.mem_iff_getElem.mp member
  have target : index < results.length := pairs.length_eq ▸ bound
  exact ⟨results[index], List.getElem_mem target, pairs.get bound target⟩

theorem rel_getElem? {related : α → β → Prop} {values : List α} {others : List β}
    (pairs : List.Forall₂ related values others) (index : Nat) :
    Option.Rel related values[index]? others[index]? := by
  induction pairs generalizing index with
  | nil => exact .none
  | cons head tail ih =>
    cases index with
    | zero => exact .some head
    | succ index => exact ih index

namespace Report

-- The result of a report is computed without its notices, so every question about success is one
-- about results.
@[simp] theorem result_pure (value : α) : (pure value : Report α).result = .ok value := rfl

@[simp] theorem result_ok (value : α) : (ok value).result = .ok value := rfl

@[simp] theorem result_fail (failure : Failure) :
    (fail failure : Report α).result = .error failure := rfl

@[simp] theorem result_note (notice : Notice) : (note notice).result = .ok ⟨⟩ := rfl

@[simp] theorem result_lift (result : Except Failure α) :
    (liftM result : Report α).result = result := rfl

@[simp] theorem result_bind (report : Report α) (next : α → Report β) :
    (report >>= next).result = report.result >>= fun value => (next value).result := by
  cases report with
  | mk notices result => cases result <;> rfl

@[simp] theorem result_map (next : α → β) (report : Report α) :
    (next <$> report).result = next <$> report.result := by
  cases report with
  | mk notices result => cases result <;> rfl

@[simp] theorem result_mapM (write : α → Report β) (values : List α) :
    (values.mapM write).result = values.mapM fun value => (write value).result := by
  induction values with
  | nil => rfl
  | cons value rest ih => simp only [List.mapM_cons, result_bind, ih, result_pure]; rfl

end Report

end CrsText

import CrsText.Proofs.Success
import Mathlib.Data.Set.Basic

/-! What a report notes on its way. A failure ends the notices together with the report; a report that
succeeds notes what each of its parts notes.
-/

set_option autoImplicit false

namespace CrsText

namespace Report

variable {α β : Type}

theorem notices_bind_ok {report : Report α} {value : α} (done : report.result = .ok value)
    (next : α → Report β) :
    (report >>= next).notices = report.notices ++ (next value).notices := by
  obtain ⟨notices, result⟩ := report
  cases done
  rfl

theorem notices_bind_error {report : Report α} {failure : Failure}
    (failed : report.result = .error failure) (next : α → Report β) :
    (report >>= next).notices = report.notices := by
  obtain ⟨notices, result⟩ := report
  cases failed
  rfl

@[simp] theorem notices_map (next : α → β) (report : Report α) :
    (next <$> report).notices = report.notices := by
  obtain ⟨notices, result⟩ := report
  cases result with
  | error failure => rfl
  | ok value => exact List.append_nil notices

/-- A traversal to the end notes what each of its reports notes, in order. -/
theorem notices_mapM {write : α → Report β} {values : List α}
    (succeeds : ∀ value ∈ values, Succeeds (write value).result) :
    (values.mapM write).notices = values.flatMap fun value => (write value).notices := by
  induction values with
  | nil => rfl
  | cons value rest ih =>
    obtain ⟨⟨result, done⟩, others⟩ := List.forall_mem_cons.mp succeeds
    rw [List.mapM_cons, notices_bind_ok done, bind_pure_comp, notices_map, ih others,
      List.flatMap_cons]

/-- A traversal ends with the notices of the first report that fails. -/
theorem notices_mapM_of_error {write : α → Report β} {before after : List α} {value : α}
    {failure : Failure} (succeeds : ∀ other ∈ before, Succeeds (write other).result)
    (failed : (write value).result = .error failure) :
    ((before ++ value :: after).mapM write).notices =
      (before ++ [value]).flatMap fun other => (write other).notices := by
  induction before with
  | nil =>
    rw [List.nil_append, List.mapM_cons, notices_bind_error failed, List.nil_append,
      List.flatMap_singleton]
  | cons first before ih =>
    obtain ⟨⟨result, done⟩, others⟩ := List.forall_mem_cons.mp succeeds
    rw [List.cons_append, List.mapM_cons, notices_bind_ok done, bind_pure_comp, notices_map,
      ih others, List.cons_append, List.flatMap_cons]

/-- If the report succeeds, it notes these losses and no others. -/
def Tells (report : Report α) (losses : Set Notice) : Prop :=
  Succeeds report.result → ∀ notice, notice ∈ report.notices ↔ notice ∈ losses

namespace Tells

theorem pure (value : α) : (pure value : Report α).Tells ∅ := fun _ _ =>
  iff_of_false List.not_mem_nil (Set.notMem_empty _)

theorem lift (result : Except Failure α) : (liftM result : Report α).Tells ∅ := fun _ _ =>
  iff_of_false List.not_mem_nil (Set.notMem_empty _)

theorem fail (failure : Failure) (losses : Set Notice) : (fail failure : Report α).Tells losses :=
  fun succeeds => absurd succeeds (not_succeeds_error failure)

theorem note (notice : Notice) : (note notice).Tells {notice} := fun _ _ => List.mem_singleton

theorem congr {report : Report α} {losses others : Set Notice} (tells : report.Tells losses)
    (same : losses = others) : report.Tells others := same ▸ tells

theorem bind {report : Report α} {next : α → Report β} {losses others : Set Notice}
    (first : report.Tells losses)
    (second : ∀ value, report.result = .ok value → (next value).Tells others) :
    (report >>= next).Tells (losses ∪ others) := by
  intro succeeds notice
  rw [result_bind, succeeds_bind] at succeeds
  obtain ⟨value, done, later⟩ := succeeds
  rw [notices_bind_ok done, List.mem_append, first ⟨value, done⟩ notice,
    second value done later notice, Set.mem_union]

/-- What is looked up on the way is not noted. -/
theorem lift_bind {result : Except Failure α} {next : α → Report β} {losses : Set Notice}
    (second : ∀ value, result = .ok value → (next value).Tells losses) :
    ((liftM result : Report α) >>= next).Tells losses :=
  ((lift result).bind second).congr (Set.empty_union losses)

theorem map {report : Report α} {losses : Set Notice} (next : α → β) (tells : report.Tells losses) :
    (next <$> report).Tells losses := by
  intro succeeds notice
  rw [result_map, succeeds_map] at succeeds
  rw [notices_map, tells succeeds notice]

theorem mapM {write : α → Report β} {losses : α → Set Notice} {values : List α}
    (each : ∀ value ∈ values, (write value).Tells (losses value)) :
    (values.mapM write).Tells {notice | ∃ value ∈ values, notice ∈ losses value} := by
  intro succeeds notice
  rw [result_mapM, succeeds_mapM] at succeeds
  simp only [notices_mapM succeeds, List.mem_flatMap, Set.mem_ofPred_eq]
  refine exists_congr fun value => and_congr_right fun member => ?_
  exact each value member (succeeds value member) notice

end Tells

end Report

end CrsText

import CrsText.Proofs.Success

/-! Two computations that may fail, run side by side. They are alike if they fail with the same
failure or succeed with related values.
-/

set_option autoImplicit false

namespace CrsText

variable {ε α α' β β' : Type}

inductive Alike (related : α → α' → Prop) : Except ε α → Except ε α' → Prop where
  | error (failure : ε) : Alike related (.error failure) (.error failure)
  | ok {value : α} {other : α'} : related value other → Alike related (.ok value) (.ok other)

namespace Alike

variable {related : α → α' → Prop} {relatedNext : β → β' → Prop} {first : Except ε α}
  {second : Except ε α'}

theorem bind {next : α → Except ε β} {nextSecond : α' → Except ε β'}
    (alike : Alike related first second)
    (step : ∀ value other, related value other → Alike relatedNext (next value) (nextSecond other)) :
    Alike relatedNext (first >>= next) (second >>= nextSecond) := by
  cases alike with
  | error failure => exact .error failure
  | ok same => exact step _ _ same

/-- Whatever goes on alike with related values gives the same result. -/
theorem bind_eq {next : α → Except ε β} {nextSecond : α' → Except ε β}
    (alike : Alike related first second)
    (step : ∀ value other, related value other → next value = nextSecond other) :
    first >>= next = second >>= nextSecond := by
  cases alike with
  | error failure => rfl
  | ok same => exact step _ _ same

end Alike

/-- The same for a report that looks something up. -/
theorem Alike.lift_bind_eq {related : α → α' → Prop} {first : Except Failure α}
    {second : Except Failure α'} {next : α → Report β} {nextSecond : α' → Report β}
    (alike : Alike related first second)
    (step : ∀ value other, related value other → next value = nextSecond other) :
    (liftM first : Report α) >>= next = (liftM second : Report α') >>= nextSecond := by
  cases alike with
  | error failure => rfl
  | ok same => exact congrArg (Report.ok () >>= fun _ => ·) (step _ _ same)

theorem mapM_eq_of_forall₂ {m : Type → Type} [Monad m] [LawfulMonad m] {related : α → α' → Prop}
    {read : α → m β} {readOther : α' → m β} {values : List α} {others : List α'}
    (pairs : List.Forall₂ related values others)
    (same : ∀ value ∈ values, ∀ other, related value other → read value = readOther other) :
    values.mapM read = others.mapM readOther := by
  induction pairs with
  | nil => rfl
  | cons head tail ih =>
    have rest := ih fun value member => same value (List.mem_cons_of_mem _ member)
    rw [List.mapM_cons, List.mapM_cons, same _ List.mem_cons_self _ head, rest]

theorem mapM_congr {read other : α → Except ε β} {values : List α}
    (same : ∀ value ∈ values, read value = other value) : values.mapM read = values.mapM other := by
  induction values with
  | nil => rfl
  | cons value rest ih =>
    have tail := ih fun other member => same other (List.mem_cons_of_mem value member)
    rw [List.mapM_cons, List.mapM_cons, same value List.mem_cons_self, tail]

theorem mapM_map {read : α → Except ε β} {next : β → β'} (values : List α) :
    (values.mapM fun value => (read value).map next) = (values.mapM read).map (List.map next) := by
  induction values with
  | nil => rfl
  | cons value rest ih =>
    rw [List.mapM_cons, List.mapM_cons, ih]
    cases read value with
    | error failure => rfl
    | ok result => cases rest.mapM read <;> rfl

end CrsText

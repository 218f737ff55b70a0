import CrsText.Proofs.Success

/-! The types that a failing conversion blames. Whatever is put together from parts blames only what one
of the parts does.
-/

set_option autoImplicit false

namespace CrsText

variable {α β : Type} {named : String → Prop}

/-- If the computation fails because a type is not supported, then that is one of the named types. -/
def BlamesOnly (named : String → Prop) (computation : Except Failure α) : Prop :=
  ∀ typeName, computation = .error (.unsupportedType typeName) → named typeName

@[simp] theorem blamesOnly_ok (value : α) : BlamesOnly named (.ok value : Except Failure α) := nofun

@[simp] theorem blamesOnly_pure (value : α) : BlamesOnly named (pure value : Except Failure α) := nofun

@[simp] theorem blamesOnly_error {failure : Failure} :
    BlamesOnly named (.error failure : Except Failure α) ↔
      ∀ typeName, failure = .unsupportedType typeName → named typeName := by
  simp [BlamesOnly]

@[simp] theorem blamesOnly_throw {failure : Failure} :
    BlamesOnly named (throw failure : Except Failure α) ↔
      ∀ typeName, failure = .unsupportedType typeName → named typeName :=
  blamesOnly_error

theorem Succeeds.blamesOnly {computation : Except Failure α} (succeeds : Succeeds computation) :
    BlamesOnly named computation := by
  obtain ⟨value, rfl⟩ := succeeds
  exact blamesOnly_ok value

theorem BlamesOnly.mono {other : String → Prop} {computation : Except Failure α}
    (blames : BlamesOnly named computation) (weaker : ∀ typeName, named typeName → other typeName) :
    BlamesOnly other computation :=
  fun typeName failed => weaker typeName (blames typeName failed)

theorem BlamesOnly.bind {first : Except Failure α} {next : α → Except Failure β}
    (start : BlamesOnly named first) (rest : ∀ value, BlamesOnly named (next value)) :
    BlamesOnly named (first >>= next) := by
  intro typeName failed
  cases outcome : first with
  | ok value => exact rest value typeName (by simpa [outcome] using failed)
  | error failure => exact start typeName (by simpa [outcome] using failed)

@[simp] theorem blamesOnly_map {first : Except Failure α} {next : α → β} :
    BlamesOnly named (next <$> first) ↔ BlamesOnly named first := by
  cases first <;> simp [Functor.map, Except.map]

theorem blamesOnly_mapM {read : α → Except Failure β} {values : List α}
    (each : ∀ value ∈ values, BlamesOnly named (read value)) : BlamesOnly named (values.mapM read) := by
  intro typeName failed
  obtain ⟨before, value, after, rfl, -, here⟩ := mapM_eq_error.mp failed
  exact each value (by simp) typeName here

end CrsText

import CrsText.Proofs.Success
import CrsText.Proofs.Wkt.Tree

/-! The steps in which a text is written, kept up to a failure. The tree of a system says nothing of a
text that was given up half-way; its trace does.
-/

set_option autoImplicit false

namespace CrsText

@[ext] structure Writing (α : Type) where
  steps : List Step
  result : Except Failure α

namespace Writing

variable {α β : Type}

def ok (value : α) : Writing α := ⟨[], .ok value⟩

def ofExcept (result : Except Failure α) : Writing α := ⟨[], result⟩

def fail (failure : Failure) : Writing α := ⟨[], .error failure⟩

def perform (step : Step) : Writing Unit := ⟨[step], .ok ()⟩

/-- A failure ends the text with the steps made so far. -/
def bind (written : Writing α) (next : α → Writing β) : Writing β :=
  match written.result with
  | .ok value => ⟨written.steps ++ (next value).steps, (next value).result⟩
  | .error failure => ⟨written.steps, .error failure⟩

instance : Monad Writing where
  pure := ok
  bind := bind

instance : MonadLift (Except Failure) Writing where
  monadLift := ofExcept

protected theorem ok_bind (value : α) (next : α → Writing β) : (ok value).bind next = next value := by
  simp [ok, bind]

protected theorem bind_ok (written : Writing α) : written.bind ok = written := by
  cases written with
  | mk steps result => cases result <;> simp [ok, bind]

protected theorem bind_assoc {γ : Type} (written : Writing α) (next : α → Writing β)
    (last : β → Writing γ) :
    (written.bind next).bind last = written.bind fun value => (next value).bind last := by
  cases written with
  | mk steps result =>
    cases result with
    | error failure => rfl
    | ok value => cases outcome : (next value).result <;> simp [bind, outcome]

instance : LawfulMonad Writing :=
  LawfulMonad.mk' Writing (fun written => written.bind_ok)
    (fun value next => Writing.ok_bind value next)
    (fun written next last => written.bind_assoc next last)

def openNode (keyword : String) : Writing Unit := perform (.openNode keyword)

def closeNode : Writing Unit := perform .closeNode

def openGroup : Writing Unit := perform .openGroup

def closeGroup : Writing Unit := perform .closeGroup

def text (content : String) : Writing Unit := perform (.text content)

def token (content : String) : Writing Unit := perform (.token content)

def whenGiven (given : Option α) (write : α → Writing Unit) : Writing Unit :=
  match given with
  | some value => write value
  | none => pure ()

def whenHolds (condition : Bool) (written : Writing Unit) : Writing Unit :=
  if condition then written else pure ()

def outcome (written : Writing Unit) : Except Failure (List Step) :=
  (fun _ => written.steps) <$> written.result

@[simp] theorem map_ok {ε : Type} (next : α → β) (value : α) :
    next <$> (.ok value : Except ε α) = .ok (next value) := rfl

@[simp] theorem map_error {ε : Type} (next : α → β) (failure : ε) :
    next <$> (.error failure : Except ε α) = .error failure := rfl

theorem bind_ok_eq_map {ε : Type} (first : Except ε α) (next : α → β) :
    (first >>= fun value => .ok (next value)) = next <$> first := by
  cases first <;> rfl

-- The outcome of a text is put together from those of its parts.
@[simp] theorem outcome_pure (value : Unit) : (pure value : Writing Unit).outcome = .ok [] := rfl

@[simp] theorem outcome_fail (failure : Failure) :
    (fail failure : Writing Unit).outcome = .error failure := rfl

@[simp] theorem outcome_openNode (keyword : String) :
    (openNode keyword).outcome = .ok [.openNode keyword] := rfl

@[simp] theorem outcome_closeNode : closeNode.outcome = .ok [.closeNode] := rfl

@[simp] theorem outcome_openGroup : openGroup.outcome = .ok [.openGroup] := rfl

@[simp] theorem outcome_closeGroup : closeGroup.outcome = .ok [.closeGroup] := rfl

@[simp] theorem outcome_text (content : String) : (text content).outcome = .ok [.text content] := rfl

@[simp] theorem outcome_token (content : String) : (token content).outcome = .ok [.token content] :=
  rfl

@[simp] theorem outcome_bind (written : Writing Unit) (next : Unit → Writing Unit) :
    (written >>= next).outcome =
      written.outcome >>= fun steps => (steps ++ ·) <$> (next ()).outcome := by
  obtain ⟨steps, result⟩ := written
  cases result with
  | error failure => rfl
  | ok value =>
    cases later : (next value).result <;> simp [outcome, Bind.bind, bind, later, Except.bind]

@[simp] theorem outcome_lift (result : Except Failure α) (next : α → Writing Unit) :
    ((liftM result : Writing α) >>= next).outcome = result >>= fun value => (next value).outcome := by
  cases result with
  | error failure => rfl
  | ok value =>
    simp [outcome, liftM, monadLift, MonadLift.monadLift, ofExcept, Bind.bind, bind, Except.bind]

/-- Of a list of parts each is written as an item, or fails as the item does. -/
theorem outcome_forM {write : α → Writing Unit} {read : α → Except Failure Item} (values : List α)
    (each : ∀ value ∈ values, (write value).outcome = Item.steps <$> read value) :
    (forM values write).outcome = Item.stepsOfAll <$> values.mapM read := by
  induction values with
  | nil => rfl
  | cons value rest ih =>
    have tail := ih fun other member => each other (List.mem_cons_of_mem value member)
    rw [List.mapM_cons, List.forM_cons, outcome_bind, each value List.mem_cons_self, tail]
    cases read value with
    | error failure => rfl
    | ok item => cases rest.mapM read <;> rfl

theorem outcome_forM_ok {write : α → Writing Unit} {item : α → Item} (values : List α)
    (each : ∀ value ∈ values, (write value).outcome = .ok (item value).steps) :
    (forM values write).outcome = .ok (Item.stepsOfAll (values.map item)) := by
  have all : (values.mapM fun value => (pure (item value) : Except Failure Item)) =
      pure (values.map item) := List.mapM_pure
  have written : (forM values write).outcome = Item.stepsOfAll <$> values.mapM fun value =>
      (pure (item value) : Except Failure Item) := outcome_forM values each
  rw [written, all]
  rfl

end Writing

namespace Item

@[simp] theorem stepsOfAll_append (items others : List Item) :
    stepsOfAll (items ++ others) = stepsOfAll items ++ stepsOfAll others := by
  simp [stepsOfAll_eq_flatMap]

end Item

end CrsText

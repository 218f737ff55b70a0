import CrsText.Failure

/-! Computations that may fail and that note what a dialect leaves out. Notices made before a
failure are kept.
-/

set_option autoImplicit false

namespace CrsText

/-- Something that the older dialect cannot express. -/
inductive Notice where
  | epochDropped (datum : String)
  | ensembleCollapsed (ensemble : String)
  | usageDropped
  | identifiersDropped (count : Nat)
  deriving DecidableEq, Repr

namespace Notice

def message : Notice → String
  | .epochDropped datum =>
    "Dropping frame reference epoch of " ++ datum ++ ": not expressible in " ++ Dialect.wkt1.name
  | .ensembleCollapsed ensemble => "Collapsing datum ensemble " ++ ensemble ++ " to a single datum"
  | .usageDropped => "Dropping usage and remarks: not expressible in " ++ Dialect.wkt1.name
  | .identifiersDropped count =>
    "Dropping " ++ Token.integer count ++ " identifiers: not expressible in " ++ Dialect.wkt1.name

end Notice

@[ext] structure Report (α : Type) where
  notices : List Notice
  result : Except Failure α

namespace Report

variable {α β : Type}

def ok (value : α) : Report α := ⟨[], .ok value⟩

def ofExcept (result : Except Failure α) : Report α := ⟨[], result⟩

def fail (failure : Failure) : Report α := ⟨[], .error failure⟩

def note (notice : Notice) : Report PUnit := ⟨[notice], .ok ⟨⟩⟩

/-- A failure ends the computation with the notices made so far. -/
def bind (report : Report α) (next : α → Report β) : Report β :=
  match report.result with
  | .ok value => ⟨report.notices ++ (next value).notices, (next value).result⟩
  | .error failure => ⟨report.notices, .error failure⟩

instance : Monad Report where
  pure := ok
  bind := bind

instance : MonadLift (Except Failure) Report where
  monadLift := ofExcept

theorem ok_bind (value : α) (next : α → Report β) : (ok value).bind next = next value := by
  simp [ok, bind]

theorem bind_ok (report : Report α) : report.bind ok = report := by
  cases report with
  | mk notices result => cases result <;> simp [ok, bind]

theorem bind_assoc {γ : Type} (report : Report α) (next : α → Report β) (last : β → Report γ) :
    (report.bind next).bind last = report.bind fun value => (next value).bind last := by
  cases report with
  | mk notices result =>
    cases result with
    | error failure => rfl
    | ok value => cases outcome : (next value).result <;> simp [bind, outcome]

instance : LawfulMonad Report :=
  LawfulMonad.mk' Report (fun report => bind_ok report) (fun value next => ok_bind value next)
    (fun report next last => bind_assoc report next last)

end Report

end CrsText

import CrsText.Proofs.Writing.Methods
import CrsText.Proofs.Wkt.Segment

/-! The order in which levels are opened and closed while a text is written. A part may close only
what it has opened itself, and where it comes to its end it has closed all of that.
-/

set_option autoImplicit false

namespace CrsText

namespace Level

@[simp] theorem withValue_withValue (levels : List Level) :
    withValue (withValue levels) = withValue levels := by
  cases levels <;> rfl

/-- The levels of the start, whose innermost one may have got its first value. -/
def Kept (start levels : List Level) : Prop := levels = start ∨ levels = withValue start

theorem Kept.refl (levels : List Level) : Kept levels levels := .inl rfl

theorem Kept.withValue {start levels : List Level} (kept : Kept start levels) :
    Kept start (Level.withValue levels) := by
  rcases kept with rfl | rfl
  · exact .inr rfl
  · exact .inr (withValue_withValue start)

theorem Kept.eq_nil {levels : List Level} (kept : Kept [] levels) : levels = [] := by
  rcases kept with rfl | rfl <;> rfl

/-- What was open at the start is still open, with the levels inside that were opened since. -/
def Within (start levels : List Level) : Prop :=
  ∃ own outer, levels = own ++ outer ∧ Kept start outer

theorem Within.withValue {start levels : List Level} (within : Within start levels) :
    Within start (Level.withValue levels) := by
  obtain ⟨own, outer, rfl, kept⟩ := within
  cases own with
  | nil => exact ⟨[], _, rfl, kept.withValue⟩
  | cons level own => exact ⟨{ level with hasValues := true } :: own, outer, rfl, kept⟩

theorem Within.trans {start levels later : List Level} (within : Within start levels)
    (since : Within levels later) : Within start later := by
  obtain ⟨own, outer, rfl, kept⟩ := since
  -- Below what was opened since, a first value at most has come to the levels in between.
  obtain ⟨others, base, rfl, same⟩ : Within start outer := by
    rcases kept with rfl | rfl
    · exact within
    · exact within.withValue
  exact ⟨own ++ others, base, (List.append_assoc own others base).symm, same⟩

end Level

namespace Step

/-- A step closes the kind of level that stands innermost, and only one that was opened since the
start. A group begins behind a value. -/
def InOrder (start levels : List Level) : Step → Prop
  | .closeNode =>
    ∃ level outer, levels = level :: outer ∧ level.isGroup = false ∧ Level.Within start outer
  | .closeGroup =>
    ∃ level outer, levels = level :: outer ∧ level.isGroup = true ∧ Level.Within start outer
  | .openGroup => ∃ level outer, levels = level :: outer ∧ level.hasValues = true
  | .openNode _ | .text _ | .token _ => True

theorem InOrder.widen {start levels now : List Level} {step : Step}
    (ordered : step.InOrder levels now) (within : Level.Within start levels) :
    step.InOrder start now := by
  cases step with
  | closeNode =>
    obtain ⟨level, outer, same, isNode, since⟩ := ordered
    exact ⟨level, outer, same, isNode, within.trans since⟩
  | closeGroup =>
    obtain ⟨level, outer, same, isGroup, since⟩ := ordered
    exact ⟨level, outer, same, isGroup, within.trans since⟩
  | openGroup => exact ordered
  | openNode keyword => trivial
  | text content => trivial
  | token content => trivial

def AllInOrder (start : List Level) : List Level → List Step → Prop
  | _, [] => True
  | levels, step :: rest =>
    step.InOrder start levels ∧ AllInOrder start (step.levelsAfter levels) rest

theorem allInOrder_append {start levels : List Level} {steps others : List Step} :
    AllInOrder start levels (steps ++ others) ↔
      AllInOrder start levels steps ∧ AllInOrder start (levelsAfterAll levels steps) others := by
  induction steps generalizing levels with
  | nil => simp [AllInOrder]
  | cons step rest ih => simp [AllInOrder, ih, and_assoc]

theorem AllInOrder.widen {start levels now : List Level} {steps : List Step}
    (ordered : AllInOrder levels now steps) (within : Level.Within start levels) :
    AllInOrder start now steps := by
  induction steps generalizing now with
  | nil => trivial
  | cons step rest ih => exact ⟨ordered.1.widen within, ih ordered.2⟩

theorem AllInOrder.inOrder {start levels : List Level} {done todo : List Step} {step : Step}
    (ordered : AllInOrder start levels (done ++ step :: todo)) :
    step.InOrder start (levelsAfterAll levels done) :=
  (allInOrder_append.mp ordered).2.1

end Step

/-- The levels opened since the start and not closed yet, each a group or not. All but the innermost
one have a value, and the innermost one does where that is asked. -/
inductive Pending (start : List Level) : List Bool → Bool → List Level → Prop where
  | outside {levels : List Level} {valued : Bool} : Level.Kept start levels →
      (valued = true → ∀ level ∈ levels.head?, level.hasValues = true) →
      Pending start [] valued levels
  | inside {own : List Bool} {levels : List Level} {isGroup hasValues valued : Bool} :
      Pending start own true levels → (valued = true → hasValues = true) →
      Pending start (isGroup :: own) valued (⟨hasValues, isGroup⟩ :: levels)

namespace Pending

variable {start levels : List Level} {own : List Bool} {isGroup valued : Bool}

theorem refl (levels : List Level) : Pending levels [] false levels :=
  .outside (.refl levels) nofun

theorem kept (pending : Pending start [] valued levels) : Level.Kept start levels := by
  cases pending with
  | outside same => exact same

theorem within (pending : Pending start own valued levels) : Level.Within start levels := by
  induction pending with
  | outside same => exact ⟨[], _, rfl, same⟩
  | inside _ _ ih =>
    obtain ⟨own, outer, rfl, same⟩ := ih
    exact ⟨_ :: own, outer, rfl, same⟩

theorem withValue (pending : Pending start own valued levels) :
    Pending start own true (Level.withValue levels) := by
  cases pending with
  | outside same =>
    refine .outside same.withValue fun _ level innermost => ?_
    cases levels with
    | nil => cases innermost
    | cons first outer =>
      obtain rfl : { first with hasValues := true } = level := Option.some.inj innermost
      rfl
  | inside outer _ => exact .inside outer fun _ => rfl

theorem mono {asked : Bool} (pending : Pending start own valued levels)
    (less : asked = true → valued = true) : Pending start own asked levels := by
  cases pending with
  | outside same hasValue => exact .outside same fun given => hasValue (less given)
  | inside outer hasValue => exact .inside outer fun given => hasValue (less given)

theorem keep {after : List Level} (pending : Pending start own valued levels)
    (kept : Level.Kept levels after) : Pending start own valued after := by
  rcases kept with rfl | rfl
  · exact pending
  · exact pending.withValue.mono fun _ => rfl

theorem openNode (pending : Pending start own valued levels) :
    Pending start (false :: own) false (⟨false, false⟩ :: Level.withValue levels) :=
  .inside pending.withValue nofun

theorem openGroup (pending : Pending start own true levels) :
    Pending start (true :: own) true (⟨true, true⟩ :: levels) :=
  .inside pending fun _ => rfl

theorem close (pending : Pending start (isGroup :: own) valued levels) :
    ∃ level outer, levels = level :: outer ∧ level.isGroup = isGroup ∧
      Pending start own true outer := by
  cases pending with
  | inside outer _ => exact ⟨_, _, rfl, rfl, outer⟩

theorem ne_nil (pending : Pending start (isGroup :: own) valued levels) : levels ≠ [] := by
  obtain ⟨level, outer, rfl, -, -⟩ := pending.close
  exact List.cons_ne_nil level outer

theorem head_hasValues (pending : Pending start own true levels) (ne : levels ≠ []) :
    ∃ level outer, levels = level :: outer ∧ level.hasValues = true := by
  cases levels with
  | nil => exact absurd rfl ne
  | cons level outer =>
    refine ⟨level, outer, rfl, ?_⟩
    cases pending with
    | outside _ hasValue => exact hasValue rfl level rfl
    | inside _ hasValue => exact hasValue rfl

end Pending

namespace Writing

variable {α : Type}

/-- From levels of which some are pending, all steps are in order, and at the end what was pending is
closed. A failure may come before the end. -/
def Closes (start : List Level) (own : List Bool) (valued : Bool) (written : Writing Unit) : Prop :=
  ∀ levels, Pending start own valued levels →
    Step.AllInOrder start levels written.steps ∧
      (written.result = .ok () → Level.Kept start (Step.levelsAfterAll levels written.steps))

def Balanced (written : Writing Unit) : Prop := ∀ start, Closes start [] false written

def BalancedInside (written : Writing Unit) : Prop :=
  ∀ start, start ≠ [] → Closes start [] false written

theorem Balanced.inside {written : Writing Unit} (balanced : Balanced written) :
    BalancedInside written :=
  fun start _ => balanced start

namespace Closes

variable {start : List Level} {own : List Bool} {isGroup valued : Bool} {next : Unit → Writing Unit}

theorem done : Closes start [] valued (pure ()) :=
  fun _ pending => ⟨trivial, fun _ => pending.kept⟩

theorem fail (failure : Failure) : Closes start own valued (Writing.fail failure) :=
  fun _ _ => ⟨trivial, nofun⟩

theorem last {written : Writing Unit} (closes : Closes start own valued (written >>= pure)) :
    Closes start own valued written := by
  rwa [bind_pure] at closes

/-- A step that is in order leaves the rest to be closed. -/
theorem perform {step : Step} {others : List Bool} {given : Bool}
    (ordered : ∀ levels, Pending start own valued levels →
      step.InOrder start levels ∧ Pending start others given (step.levelsAfter levels))
    (rest : Closes start others given (next ())) :
    Closes start own valued (Writing.perform step >>= next) := by
  intro levels pending
  obtain ⟨first, after⟩ := ordered levels pending
  obtain ⟨later, kept⟩ := rest _ after
  exact ⟨⟨first, later⟩, kept⟩

theorem openNode {keyword : String} (rest : Closes start (false :: own) false (next ())) :
    Closes start own valued (Writing.openNode keyword >>= next) :=
  perform (fun _ pending => ⟨trivial, pending.openNode⟩) rest

theorem text {content : String} (rest : Closes start own true (next ())) :
    Closes start own valued (Writing.text content >>= next) :=
  perform (fun _ pending => ⟨trivial, pending.withValue⟩) rest

theorem token {content : String} (rest : Closes start own true (next ())) :
    Closes start own valued (Writing.token content >>= next) :=
  perform (fun _ pending => ⟨trivial, pending.withValue⟩) rest

theorem closeNode (rest : Closes start own true (next ())) :
    Closes start (false :: own) valued (Writing.closeNode >>= next) := by
  refine perform (fun levels pending => ?_) rest
  obtain ⟨level, outer, rfl, isNode, beneath⟩ := pending.close
  exact ⟨⟨level, outer, rfl, isNode, beneath.within⟩, beneath⟩

theorem closed : Closes start [false] valued Writing.closeNode := last (closeNode done)

/-- Outside of any level a group has no value to follow. -/
theorem openGroup (inside : start ≠ []) (rest : Closes start [true] true (next ())) :
    Closes start [] true (Writing.openGroup >>= next) := by
  refine perform (fun levels pending => ⟨pending.head_hasValues ?_, pending.openGroup⟩) rest
  -- Nothing is pending here, so the innermost level is one of the start.
  intro none
  rcases pending.kept with rfl | rfl
  · exact inside none
  · cases start with
    | nil => exact inside rfl
    | cons level outer => cases none

theorem closedGroup : Closes start [true] valued Writing.closeGroup := by
  have rest : Closes start [] true (pure ()) := done
  refine last (perform (fun levels pending => ?_) rest)
  obtain ⟨level, outer, rfl, isGroup, beneath⟩ := pending.close
  exact ⟨⟨level, outer, rfl, isGroup, beneath.within⟩, beneath⟩

/-- What a result gives is used where there is one. -/
theorem lift {result : Except Failure α} {next : α → Writing Unit}
    (rest : ∀ value, Closes start own valued (next value)) :
    Closes start own valued ((liftM result : Writing α) >>= next) := by
  cases result with
  | error failure => exact fail failure
  | ok value =>
    have same : ((liftM (.ok value : Except Failure α) : Writing α) >>= next) = next value :=
      Writing.ok_bind value next
    rw [same]
    exact rest value

/-- A part that closes what it opens leaves everything else pending as it was. -/
theorem part {written : Writing Unit}
    (closes : ∀ levels, Pending start own valued levels → Closes levels [] false written)
    (rest : Closes start own valued (next ())) : Closes start own valued (written >>= next) := by
  intro levels pending
  -- For the part, the levels that are open now are the start, and all of them lie within the start
  -- of the whole.
  obtain ⟨ordered, kept⟩ := closes levels pending levels (.refl levels)
  obtain ⟨steps, result⟩ := written
  cases result with
  | error failure => exact ⟨ordered.widen pending.within, nofun⟩
  | ok value =>
    obtain ⟨later, closed⟩ := rest _ (pending.keep (kept rfl))
    refine ⟨Step.allInOrder_append.mpr ⟨ordered.widen pending.within, later⟩, fun done => ?_⟩
    have all := closed done
    rwa [← Step.levelsAfterAll_append] at all

theorem call {written : Writing Unit} (balanced : Balanced written)
    (rest : Closes start own valued (next ())) : Closes start own valued (written >>= next) :=
  .part (fun levels _ => balanced levels) rest

theorem callInside {written : Writing Unit} (balanced : BalancedInside written)
    (rest : Closes start (isGroup :: own) valued (next ())) :
    Closes start (isGroup :: own) valued (written >>= next) :=
  .part (fun levels pending => balanced levels pending.ne_nil) rest

end Closes

namespace Balanced

theorem done : Balanced (pure ()) := fun _ => .done

theorem fail (failure : Failure) : Balanced (Writing.fail failure) := fun _ => .fail failure

theorem lift (result : Except Failure Unit) : Balanced (liftM result) :=
  fun _ => .last <| .lift fun _ => .done

theorem bind {first : Writing Unit} {next : Unit → Writing Unit} (balanced : Balanced first)
    (rest : Balanced (next ())) : Balanced (first >>= next) :=
  fun start => .call balanced (rest start)

theorem pick {older newer : Writing Unit} (dialect : Dialect) (first : Balanced older)
    (second : Balanced newer) : Balanced (dialect.pick older newer) := by
  cases dialect
  · exact first
  · exact second

theorem forM {values : List α} {write : α → Writing Unit}
    (each : ∀ value ∈ values, Balanced (write value)) : Balanced (forM values write) := by
  induction values with
  | nil => exact done
  | cons value rest ih =>
    rw [List.forM_cons]
    exact (each value List.mem_cons_self).bind
      (ih fun other member => each other (List.mem_cons_of_mem value member))

theorem whenGiven {given : Option α} {write : α → Writing Unit}
    (each : ∀ value, Balanced (write value)) : Balanced (whenGiven given write) := by
  cases given with
  | none => exact done
  | some value => exact each value

theorem whenHolds {written : Writing Unit} (condition : Bool) (balanced : Balanced written) :
    Balanced (whenHolds condition written) := by
  cases condition
  · exact done
  · exact balanced

end Balanced

end Writing

end CrsText

import CrsText.Proofs.Conversion.Grammar
import CrsText.Proofs.Notices
import CrsText.Proofs.Wkt1.Losses

/-! The log of a conversion says what is converted, then what is left out, and last the length of the
text if there is one. The log of a compound system is put together from those of its components.
-/

set_option autoImplicit false

namespace CrsText

namespace LogEntry

def TellsOfLoss (entry : LogEntry) : Prop :=
  entry.level = .debug ∧
    ∃ rest, entry.message = "Dropping " ++ rest ∨ entry.message = "Collapsing " ++ rest

theorem tellsOfLoss_leftOut (notice : Notice) : (leftOut notice).TellsOfLoss := by
  refine ⟨rfl, ?_⟩
  cases notice with
  | epochDropped datum =>
    refine ⟨"frame reference epoch of " ++ datum ++ ": not expressible in " ++ Dialect.wkt1.name,
      .inl ?_⟩
    simp only [← String.append_assoc]
    rfl
  | ensembleCollapsed ensemble =>
    refine ⟨"datum ensemble " ++ ensemble ++ " to a single datum", .inr ?_⟩
    simp only [← String.append_assoc]
    rfl
  | usageDropped =>
    refine ⟨"usage and remarks: not expressible in " ++ Dialect.wkt1.name, .inl ?_⟩
    simp only [← String.append_assoc]
    rfl
  | identifiersDropped count =>
    refine ⟨Token.integer count ++ " identifiers: not expressible in " ++ Dialect.wkt1.name,
      .inl ?_⟩
    simp only [← String.append_assoc]
    rfl

theorem line_converting (typeName : String) (dialect : Dialect) :
    (converting typeName dialect).line =
      "DEBUG Converting " ++ typeName ++ " to " ++ dialect.name := by
  simp [line, level, LogLevel.name, message, ← String.append_assoc]

theorem line_wrote (length : Nat) (dialect : Dialect) :
    (wrote length dialect).line =
      "TRACE Wrote " ++ Token.integer length ++ " bytes of " ++ dialect.name := by
  simp [line, level, LogLevel.name, message, ← String.append_assoc]

end LogEntry

namespace Conversion

/-- The records but for the one of the length. -/
def told (conversion : Conversion) : List LogEntry := conversion.log.filter (·.level ≠ .trace)

/-- The records between the one of what is converted and the one of the length. -/
def between (conversion : Conversion) : List LogEntry := conversion.told.tail

/-- The record of the length of the text, if there is a text. -/
def closing (dialect : Dialect) (conversion : Conversion) : List LogEntry :=
  match conversion.result with
  | .ok text => [.wrote text.utf8ByteSize dialect]
  | .error _ => []

theorem mem_closing {dialect : Dialect} {conversion : Conversion} {entry : LogEntry} :
    entry ∈ conversion.closing dialect ↔
      ∃ text, conversion.result = .ok text ∧ entry = .wrote text.utf8ByteSize dialect := by
  unfold closing
  split <;> simp [*]

end Conversion

def Metadata.told (dialect : Dialect) (metadata : Metadata) : List LogEntry :=
  match dialect with
  | .wkt1 => metadata.notices.map .leftOut
  | .wkt2 => []

namespace Crs

variable {dialect : Dialect} {layout : Layout} {crs : Crs}

theorem convert_log : (crs.convert dialect layout).log = .converting crs.typeName dialect ::
    (crs.toItem dialect).notices.map .leftOut ++ (crs.convert dialect layout).closing dialect := by
  unfold convert Conversion.closing
  dsimp only
  cases (crs.toItem dialect).result with
  | ok item => rfl
  | error failure => simp

theorem convert_told : (crs.convert dialect layout).told =
    .converting crs.typeName dialect :: (crs.toItem dialect).notices.map .leftOut := by
  have told : ((crs.toItem dialect).notices.map LogEntry.leftOut).filter (·.level ≠ .trace) =
      (crs.toItem dialect).notices.map .leftOut := by
    simp [List.filter_eq_self, LogEntry.level]
  have closed : ((crs.convert dialect layout).closing dialect).filter (·.level ≠ .trace) = [] := by
    rw [List.filter_eq_nil_iff]
    intro entry member
    obtain ⟨text, -, rfl⟩ := Conversion.mem_closing.mp member
    simp [LogEntry.level]
  rw [Conversion.told, convert_log, List.filter_append, closed, List.append_nil,
    List.filter_cons_of_pos (by rfl), told]

theorem convert_between : (crs.convert dialect layout).between =
    (crs.toItem dialect).notices.map .leftOut := by
  rw [Conversion.between, convert_told, List.tail_cons]

theorem map_line_log : (crs.convert dialect layout).log.map LogEntry.line =
    ("DEBUG Converting " ++ crs.typeName ++ " to " ++ dialect.name) ::
      (crs.convert dialect layout).between.map LogEntry.line ++
        match (crs.convert dialect layout).result with
        | .ok text =>
          ["TRACE Wrote " ++ Token.integer text.utf8ByteSize ++ " bytes of " ++ dialect.name]
        | .error _ => [] := by
  rw [convert_between, convert_log, Conversion.closing, List.cons_append, List.map_cons,
    List.map_append, LogEntry.line_converting]
  cases (crs.convert dialect layout).result with
  | ok text => rw [List.map_singleton, LogEntry.line_wrote, List.cons_append]
  | error failure => rfl

theorem mem_log_and_trace_iff {entry : LogEntry} :
    entry ∈ (crs.convert dialect layout).log ∧ entry.level = .trace ↔
      ∃ text, (crs.convert dialect layout).result = .ok text ∧
        entry = .wrote text.utf8ByteSize dialect := by
  simp only [convert_log, List.cons_append, List.mem_cons, List.mem_append, List.mem_map,
    Conversion.mem_closing]
  constructor
  · rintro ⟨rfl | ⟨notice, -, rfl⟩ | written, traced⟩
    · cases traced
    · cases traced
    · exact written
  · intro written
    refine ⟨.inr (.inr written), ?_⟩
    obtain ⟨text, -, rfl⟩ := written
    rfl

theorem tellsOfLoss_of_mem_between {entry : LogEntry}
    (member : entry ∈ (crs.convert dialect layout).between) : entry.TellsOfLoss := by
  rw [convert_between] at member
  obtain ⟨notice, -, rfl⟩ := List.mem_map.mp member
  exact LogEntry.tellsOfLoss_leftOut notice

theorem succeeds_convert :
    Succeeds (crs.convert dialect layout).result ↔ Succeeds (crs.toItem dialect).result := by
  rw [convert_result]
  exact succeeds_map

theorem notices_toItem_wkt2 : (crs.toItem .wkt2).notices = [] := rfl

variable {name : String} {components : List Crs} {metadata : Metadata}

/-- If every component is written, each tells what it leaves out, and the system tells it last. -/
theorem compound_between
    (succeeds : ∀ component ∈ components, Succeeds (component.convert dialect layout).result) :
    ((compound name components metadata).convert dialect layout).between =
      (components.flatMap fun component => (component.convert dialect layout).between) ++
        metadata.told dialect := by
  simp only [convert_between, succeeds_convert] at succeeds ⊢
  cases dialect with
  | wkt2 => simp [notices_toItem_wkt2, Metadata.told]
  | wkt1 =>
    obtain ⟨items, written⟩ : Succeeds (components.mapM Wkt1.crs).result := by
      rw [Report.result_mapM]
      exact succeeds_mapM.mpr succeeds
    simp only [toItem, Metadata.told, Wkt1.crs, Wkt1.crsList_eq_mapM] at succeeds ⊢
    rw [Report.notices_bind_ok written, bind_pure_comp, Report.notices_map, Wkt1.metadata_notices,
      Report.notices_mapM succeeds, List.map_append, List.map_flatMap]

/-- The first component that is not written is the last that tells anything. -/
theorem compound_between_of_error {before after : List Crs} {failing : Crs}
    (succeeds : ∀ component ∈ before, Succeeds (component.convert dialect layout).result)
    (fails : ¬ Succeeds (failing.convert dialect layout).result) :
    ((compound name (before ++ failing :: after) metadata).convert dialect layout).between =
      (before ++ [failing]).flatMap fun component => (component.convert dialect layout).between := by
  simp only [convert_between, succeeds_convert] at succeeds fails ⊢
  cases dialect with
  | wkt2 => simp [notices_toItem_wkt2]
  | wkt1 =>
    obtain ⟨failure, failed⟩ : ∃ failure, (Wkt1.crs failing).result = .error failure := by
      cases outcome : (Wkt1.crs failing).result with
      | ok item => exact absurd ⟨item, outcome⟩ fails
      | error failure => exact ⟨failure, rfl⟩
    have stopped : ((before ++ failing :: after).mapM Wkt1.crs).result = .error failure := by
      rw [Report.result_mapM]
      exact mapM_eq_error.mpr ⟨before, failing, after, rfl, succeeds, failed⟩
    simp only [toItem, Wkt1.crs, Wkt1.crsList_eq_mapM] at succeeds ⊢
    rw [Report.notices_bind_error stopped, Report.notices_mapM_of_error succeeds failed,
      List.map_flatMap]

structure IsLogged (dialect : Dialect) (layout : Layout) (crs : Crs) : Prop where
  records : (crs.convert dialect layout).log = .converting crs.typeName dialect ::
    (crs.convert dialect layout).between ++ (crs.convert dialect layout).closing dialect
  lines : (crs.convert dialect layout).log.map LogEntry.line =
    ("DEBUG Converting " ++ crs.typeName ++ " to " ++ dialect.name) ::
      (crs.convert dialect layout).between.map LogEntry.line ++
        match (crs.convert dialect layout).result with
        | .ok text =>
          ["TRACE Wrote " ++ Token.integer text.utf8ByteSize ++ " bytes of " ++ dialect.name]
        | .error _ => []
  once : ∀ typeName named, .converting typeName named ∉ (crs.convert dialect layout).log.tail
  traced : ∀ entry, entry ∈ (crs.convert dialect layout).log ∧ entry.level = .trace ↔
    ∃ text, (crs.convert dialect layout).result = .ok text ∧
      entry = .wrote text.utf8ByteSize dialect
  newer : dialect = .wkt2 → (crs.convert dialect layout).between = []
  losses : ∀ entry ∈ (crs.convert dialect layout).between, entry.TellsOfLoss
  layouts : ∀ other : Layout, (crs.convert dialect other).told = (crs.convert dialect layout).told
  /-- Every component is written. -/
  compound : ∀ name components metadata, crs = .compound name components metadata →
    (∀ component ∈ components, Succeeds (component.convert dialect layout).result) →
      (crs.convert dialect layout).between =
        (components.flatMap fun component => (component.convert dialect layout).between) ++
          metadata.told dialect
  /-- One component is the first that is not written. -/
  interrupted : ∀ name before failing after metadata,
    crs = .compound name (before ++ failing :: after) metadata →
    (∀ component ∈ before, Succeeds (component.convert dialect layout).result) →
    ¬ Succeeds (failing.convert dialect layout).result →
      (crs.convert dialect layout).between =
        (before ++ [failing]).flatMap fun component => (component.convert dialect layout).between

theorem convert_isLogged (dialect : Dialect) (layout : Layout) (crs : Crs) :
    crs.IsLogged dialect layout where
  records := by
    rw [convert_between]
    exact convert_log
  lines := map_line_log
  once := by
    intro typeName named member
    simp only [convert_log, List.cons_append, List.tail_cons, List.mem_append, List.mem_map,
      Conversion.mem_closing, reduceCtorEq, and_false, exists_false, or_self] at member
  traced := fun _ => mem_log_and_trace_iff
  newer := by
    rintro rfl
    exact convert_between
  losses := fun _ => tellsOfLoss_of_mem_between
  layouts := by
    intro other
    rw [convert_told, convert_told]
  compound := by
    rintro name components metadata rfl
    exact compound_between
  interrupted := by
    rintro name before failing after metadata rfl
    exact compound_between_of_error

/-- The second component ends the log, so neither the third nor the system itself adds to it. -/
example :
    let dated : Crs := .vertical
      ⟨"Height", some ⟨some "DynamicVerticalReferenceFrame", "Sea level", some 2010, .empty⟩, none,
        ⟨"vertical", [⟨"Height", "H", "up", none, none⟩]⟩, .empty⟩
    let system : Crs := .compound "Pair" [dated, .unsupported "EngineeringCRS", dated]
      { remarks := some "Local" }
    (system.convert .wkt1 .singleLine).log.map LogEntry.line =
      ["DEBUG Converting CompoundCRS to WKT1",
        "DEBUG Dropping frame reference epoch of Sea level: not expressible in WKT1"] := by
  rfl

end Crs

end CrsText

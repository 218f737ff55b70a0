import CrsText.Proofs.Conversion.Log
import CrsText.Proofs.Conversion.OlderPart

/-! A conversion to the older dialect announces what it leaves out, but for what operations, methods
and parameters with numbers say besides.
-/

set_option autoImplicit false

namespace CrsText

theorem LogEntry.not_tellsOfLoss_converting (typeName : String) (dialect : Dialect) :
    ¬ (converting typeName dialect).TellsOfLoss := by
  rintro ⟨-, rest, told | told⟩ <;>
    simpa [message, String.toList_append] using congrArg String.toList told

namespace Crs

variable {layout : Layout} {crs : Crs}

/-- Once a system is written, the log tells exactly what is left out of the objects that are
announced. If one of them says more than the older dialect can, something is told. -/
theorem convert_announces {text : String}
    (converted : (crs.convert .wkt1 layout).result = .ok text) :
    (∀ notice, .leftOut notice ∈ (crs.convert .wkt1 layout).log ↔
      ∃ object ∈ crs.objects, object.IsAnnounced ∧ object.Loses notice) ∧
    ∀ object ∈ crs.objects, object.IsAnnounced → object.HoldsMore →
      ∃ entry ∈ (crs.convert .wkt1 layout).log, entry.TellsOfLoss := by
  have told : ∀ notice, .leftOut notice ∈ (crs.convert .wkt1 layout).log ↔
      ∃ object ∈ crs.objects, object.IsAnnounced ∧ object.Loses notice := by
    intro notice
    have noted : notice ∈ (Wkt1.crs crs).notices ↔ notice ∈ Object.losses crs.objects :=
      Wkt1.crs_tells crs (succeeds_convert.mp ⟨text, converted⟩) notice
    rw [Object.losses, Set.mem_ofPred_eq] at noted
    simp [← noted, convert_log, Conversion.mem_closing, toItem]
  refine ⟨told, fun object member announced more => ?_⟩
  obtain ⟨notice, lost⟩ := Object.exists_loses more
  exact ⟨.leftOut notice, (told notice).mpr ⟨object, member, announced, lost⟩,
    LogEntry.tellsOfLoss_leftOut notice⟩

/-- The system of the dated heights has its usages left out. -/
theorem convert_announces_datedHeights : ∃ text,
    (datedHeights.convert .wkt1 .multiline).result = .ok text ∧
      .leftOut .usageDropped ∈ (datedHeights.convert .wkt1 .multiline).log ∧
      ∃ object ∈ datedHeights.objects, object.IsAnnounced ∧ object.HoldsMore ∧
        ∃ entry ∈ (datedHeights.convert .wkt1 .multiline).log, entry.TellsOfLoss := by
  obtain ⟨text, converted⟩ : ∃ text, (datedHeights.convert .wkt1 .multiline).result = .ok text :=
    ⟨_, rfl⟩
  obtain ⟨told, announced⟩ := convert_announces converted
  let system : Object := .system { usages := some [{ area := some "World" }] }
  have member : system ∈ datedHeights.objects := .head _
  have more : system.HoldsMore := .inl (.inr (.inl rfl))
  have lost : system.Loses .usageDropped := .metadata (.head _)
  exact ⟨text, converted, (told _).mpr ⟨system, member, trivial, lost⟩, system, member, trivial, more,
    announced system member trivial more⟩

def remarkedGrid : Crs :=
  .projected
    ⟨"Grid",
      ⟨.geographic, "Base", some ⟨none, "Datum",
        some ⟨"Figure", ⟨6378137, none⟩, none, some 298.257223563, .empty⟩, none, none, .empty⟩,
        none, none, .empty⟩,
      ⟨"Zone", ⟨"Transverse Mercator", .empty⟩, [], { remarks := some "Zone 33" }⟩,
      ⟨"Cartesian", [⟨"Easting", "E", "east", none, none⟩]⟩, .empty⟩

/-- The remark is left out, and nothing is told. -/
theorem convert_remarkedGrid_silent : ∃ text,
    (remarkedGrid.convert .wkt1 .singleLine).result = .ok text ∧
      (∃ object ∈ remarkedGrid.objects, object.HoldsMore) ∧
      ¬ ∃ entry ∈ (remarkedGrid.convert .wkt1 .singleLine).log, entry.TellsOfLoss := by
  obtain ⟨text, converted⟩ : ∃ text, (remarkedGrid.convert .wkt1 .singleLine).result = .ok text :=
    ⟨_, rfl⟩
  have silent : (remarkedGrid.toItem .wkt1).notices = [] := rfl
  refine ⟨text, converted, ?_, ?_⟩
  · exact ⟨.conversion ⟨"Zone", ⟨"Transverse Mercator", .empty⟩, [], { remarks := some "Zone 33" }⟩,
      by simp [remarkedGrid, objects, ProjectedCrs.objects, Operation.objects],
      .inl (.inr (.inr (.inl rfl)))⟩
  · rintro ⟨entry, member, told⟩
    rw [convert_log, silent, List.map_nil, List.cons_append, List.nil_append, List.mem_cons,
      Conversion.mem_closing] at member
    rcases member with rfl | ⟨written, -, rfl⟩
    · exact LogEntry.not_tellsOfLoss_converting _ _ told
    · cases told.1

end Crs

end CrsText

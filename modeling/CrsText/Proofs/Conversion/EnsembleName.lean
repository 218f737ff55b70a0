import CrsText.Proofs.Conversion.Grammar
import CrsText.Proofs.Text.Suffix
import CrsText.Proofs.Wkt.Rendering

/-! The name of the datum that the older dialect writes for an ensemble. It is that of the ensemble
without its suffix exactly if the word stands nowhere else in it.
-/

set_option autoImplicit false

namespace CrsText

namespace Wkt1

/-- The blank at the front of the suffix keeps it from overlapping itself. -/
theorem isStem_datumName_iff (ensemble : String) :
    Text.IsStem " ensemble".toList ensemble.toList (datumName ensemble).toList ↔
      Text.OnlyTrails " ensemble".toList ensemble.toList := by
  have once : ' ' ∉ ['e', 'n', 's', 'e', 'm', 'b', 'l', 'e'] := by decide
  simp only [datumName, ensembleWord, String.toList_ofList]
  exact Text.isStem_eraseFirst_iff once

/-- The older dialect writes an ensemble as a datum with its ellipsoid. -/
theorem geodeticEnsemble_front {given : DatumEnsemble} {items : List Item}
    (written : (geodeticEnsemble given).result = .ok items) :
    ∃ figure inside common rest, items = .named "DATUM" (datumName given.name)
      (.node figure inside :: common) :: rest := by
  simp only [geodeticEnsemble, datumNode, ellipsoid, Report.result_bind, Report.result_lift,
    bind_eq_ok] at written
  obtain ⟨figure, -, -, -, spheroid, figureWritten, common, -, meridian, -, written⟩ := written
  obtain ⟨⟨semiMajor, inverseFlattening⟩, -, figureWritten⟩ := figureWritten
  cases written
  split at figureWritten
  · cases figureWritten
  · simp only [Report.result_bind, bind_eq_ok] at figureWritten
    obtain ⟨described, -, figureWritten⟩ := figureWritten
    cases figureWritten
    exact ⟨_, _, _, _, rfl⟩

/-- In a system on an ensemble that datum stands right behind the name. -/
theorem geodeticNode_front {keyword : String} {given : GeodeticCrs} {ensemble : DatumEnsemble}
    {item : Item} (several : given.ensemble = some ensemble)
    (written : (geodeticNode keyword given).result = .ok item) :
    ∃ figure inside common rest, item = .named keyword given.name
      (.named "DATUM" (datumName ensemble.name) (.node figure inside :: common) :: rest) := by
  simp only [geodeticNode, Report.result_bind, Report.result_lift, bind_eq_ok] at written
  obtain ⟨selected, isSelected, reference, referenceWritten, system, -, described, -, written⟩ := written
  cases written
  rcases Reference.select_cases isSelected with ⟨_, _, none, _⟩ | ⟨_, _, same, rfl⟩
  · rw [several] at none
    cases none
  · rw [several] at same
    cases same
    obtain ⟨figure, inside, common, rest, rfl⟩ := geodeticEnsemble_front referenceWritten
    exact ⟨figure, inside, common, rest ++ system ++ described, by simp⟩

end Wkt1

namespace Item

/-- The text of a document begins with the names of the outermost node and of the first one in it. -/
theorem write_named_named (layout : Layout) (outer name inner innerName figure : String)
    (inside common rest : List Item) : ∃ ending,
      (named outer name (named inner innerName (.node figure inside :: common) :: rest)).write layout =
        outer ++ "[" ++ quotation name ++ "," ++ layout.lead 1 ++ inner ++ "[" ++
          quotation innerName ++ "," ++ ending := by
  simp [write_eq_printed, named, printed, printedAll, isGroup, Segment.comma, Segment.fill,
    Segment.newLine, Layout.lead_eq, quotation_eq, String.append_assoc]

end Item

namespace Crs

variable {layout : Layout} {crs : GeodeticCrs} {ensemble : DatumEnsemble} {text : String}

theorem convert_datumName (several : crs.ensemble = some ensemble)
    (converted : ((geodetic crs).convert .wkt1 layout).result = .ok text) :
    ∃ ending, text = Dialect.wkt1.geodeticKeyword crs.kind ++ "[" ++ Item.quotation crs.name ++ "," ++
      layout.lead 1 ++ "DATUM[" ++ Item.quotation (Wkt1.datumName ensemble.name) ++ "," ++ ending := by
  obtain ⟨item, written, rfl⟩ := convert_eq_ok.mp converted
  have inNode : (Wkt1.geodeticNode (Dialect.wkt1.geodeticKeyword crs.kind) crs).result = .ok item := by
    simp only [toItem, Wkt1.crs, Wkt1.geodetic] at written
    split at written
    · exact written
    · cases written
  obtain ⟨figure, inside, common, rest, rfl⟩ := Wkt1.geodeticNode_front several inNode
  obtain ⟨ending, same⟩ := Item.write_named_named layout (Dialect.wkt1.geodeticKeyword crs.kind)
    crs.name "DATUM" (Wkt1.datumName ensemble.name) figure inside common rest
  exact ⟨ending, by simpa [String.append_assoc] using same⟩

/-- A geodetic system on an ensemble is written to the older dialect with a single datum right behind
its name. The name of the datum is that of the ensemble without its suffix, or the whole name if it
has none, exactly if the suffix stands nowhere else in it. -/
theorem convert_ensembleName (several : crs.ensemble = some ensemble)
    (converted : ((geodetic crs).convert .wkt1 layout).result = .ok text) :
    ∃ datum ending,
      text = Dialect.wkt1.geodeticKeyword crs.kind ++ "[" ++ Item.quotation crs.name ++ "," ++
        layout.lead 1 ++ "DATUM[" ++ Item.quotation datum ++ "," ++ ending ∧
      (Text.IsStem " ensemble".toList ensemble.name.toList datum.toList ↔
        Text.OnlyTrails " ensemble".toList ensemble.name.toList) := by
  obtain ⟨ending, begins⟩ := convert_datumName several converted
  exact ⟨_, ending, begins, Wkt1.isStem_datumName_iff ensemble.name⟩

def onEnsemble (ensemble : String) : GeodeticCrs :=
  ⟨.geographic, "Geographic", none,
    some ⟨ensemble, [], some ⟨"Sphere", ⟨6371000, none⟩, none, some 0, .empty⟩, none, .empty⟩,
    some ⟨"ellipsoidal", [⟨"Latitude", "lat", "north", none, none⟩]⟩, .empty⟩

theorem convert_ensembleName_world : ∃ ensemble text ending,
    (onEnsemble "World ensemble").ensemble = some ensemble ∧ ensemble.name = "World ensemble" ∧
      ((geodetic (onEnsemble "World ensemble")).convert .wkt1 .singleLine).result = .ok text ∧
      text = "GEOGCS[\"Geographic\",DATUM[\"World\"," ++ ending := by
  obtain ⟨text, converted⟩ : ∃ text,
      ((geodetic (onEnsemble "World ensemble")).convert .wkt1 .singleLine).result = .ok text :=
    ⟨_, rfl⟩
  obtain ⟨datum, ending, begins, named⟩ := convert_ensembleName rfl converted
  have trails : Text.OnlyTrails " ensemble".toList "World ensemble".toList :=
    ⟨"World".toList, 1, by decide, by decide⟩
  have same : datum.toList = "World".toList := (named.mpr trails).ending _ (by decide)
  obtain rfl := String.toList_inj.mp same
  exact ⟨_, text, ending, rfl, rfl, converted, begins⟩

/-- The suffix is left out within longer words, too. -/
theorem convert_plural_shortened : ∃ text ending,
    ((geodetic (onEnsemble "Global ensembles")).convert .wkt1 .singleLine).result = .ok text ∧
      text = "GEOGCS[\"Geographic\",DATUM[\"Globals\"," ++ ending ∧
      ¬ Text.IsStem " ensemble".toList "Global ensembles".toList "Globals".toList := by
  obtain ⟨text, converted⟩ : ∃ text,
      ((geodetic (onEnsemble "Global ensembles")).convert .wkt1 .singleLine).result = .ok text :=
    ⟨_, rfl⟩
  obtain ⟨ending, begins⟩ := convert_datumName rfl converted
  have whole : ¬ " ensemble".toList <:+ "Global ensembles".toList := by decide
  exact ⟨text, ending, converted, begins, fun stem => absurd (stem.other whole) (by decide)⟩

end Crs

end CrsText

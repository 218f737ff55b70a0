import CrsText.Proofs.Alike
import CrsText.Proofs.Definition.Acceptance
import CrsText.Proofs.Json.Lookup

/-! A system is read the same however deep the reader may go, as long as it reaches the bottom. So the
reader of systems is the one that the systems within a system are read with.
-/

set_option autoImplicit false

namespace CrsText

namespace Crs

variable {read other : Reader Crs} {entries : List (String × Json)}

theorem list_congr {value : Json}
    (same : ∀ inner : Json, inner.depth < value.depth → read inner = other inner) :
    Reader.list read value = Reader.list other value := by
  cases value with
  | array elements =>
    simp only [Reader.list, Reader.elements_eq_mapM]
    refine mapM_congr fun inner member => same inner ?_
    exact Nat.lt_succ_of_le (Json.depth_le_depthOfElements member)
  | _ => rfl

theorem compoundOfJson_congr
    (same : ∀ inner : Json, inner.depth < (Json.object entries).depth → read inner = other inner) :
    compoundOfJson read (.object entries) = compoundOfJson other (.object entries) := by
  have components : Field.ofEntries entries ⟨"components", Reader.list read, none, none⟩ =
      Field.ofEntries entries ⟨"components", Reader.list other, none, none⟩ := by
    refine Field.ofEntries_congr fun value found => list_congr fun inner within => same inner ?_
    exact within.trans_le ((Json.depth_le_depthOfEntries found).trans (Nat.le_succ _))
  have record : (compoundRecord read).ofEntries entries = (compoundRecord other).ofEntries entries := by
    simp only [compoundRecord, Record.required, Record.ofEntries, components]
  simp only [compoundOfJson, Record.describedReader, Record.readerWith, Record.readObject, record]

theorem boundOfJson_congr
    (same : ∀ inner : Json, inner.depth < (Json.object entries).depth → read inner = other inner) :
    boundOfJson read (.object entries) = boundOfJson other (.object entries) := by
  have part : ∀ key : String, Field.ofEntries entries ⟨key, read, none, none⟩ =
      Field.ofEntries entries ⟨key, other, none, none⟩ := fun key =>
    Field.ofEntries_congr fun value found =>
      same value (Nat.lt_succ_of_le (Json.depth_le_depthOfEntries found))
  have record : (boundRecord read).ofEntries entries = (boundRecord other).ofEntries entries := by
    simp only [boundRecord, Record.required, Record.ofEntries, part]
  simp only [boundOfJson, Record.reader, Record.readObject, record]

theorem ofJsonWithin_succ {depth : Nat} {value : Json} (within : value.depth ≤ depth) :
    ofJsonWithin (depth + 1) value = ofJsonWithin depth value := by
  induction depth generalizing value with
  | zero =>
    have untagged : CrsType.ofTag? (typeNameOfJson value) = none := by
      by_contra tagged
      obtain ⟨type, known⟩ := Option.ne_none_iff_exists'.mp tagged
      obtain ⟨entries, rfl, -⟩ := exists_entries (CrsType.ofTag?_eq_some.mp known)
      simp [Json.depth] at within
    simp only [ofJsonWithin, untagged]
  | succ depth ih =>
    have inner : ∀ inner : Json, inner.depth < value.depth →
        ofJsonWithin (depth + 1) inner = ofJsonWithin depth inner :=
      fun inner deeper => ih (by omega)
    rw [ofJsonWithin, ofJsonWithin]
    cases known : CrsType.ofTag? (typeNameOfJson value) with
    | none => rfl
    | some type =>
      obtain ⟨entries, rfl, -⟩ := exists_entries (CrsType.ofTag?_eq_some.mp known)
      cases type with
      | compound => exact compoundOfJson_congr inner
      | bound => exact boundOfJson_congr inner
      | _ => rfl

theorem ofJsonWithin_eq {depth : Nat} {value : Json} (within : value.depth ≤ depth) :
    ofJsonWithin depth value = ofJson value := by
  induction depth, within using Nat.le_induction with
  | base => rfl
  | succ depth within ih => rw [ofJsonWithin_succ within, ih]

/-- The reader of systems without a bound on the depth. -/
theorem ofJson_eq (value : Json) :
    ofJson value =
      match CrsType.ofTag? (typeNameOfJson value) with
      | some (.geodetic _) => geodetic <$> GeodeticCrs.ofJson value
      | some (.derivedGeodetic _) => derivedGeodetic <$> DerivedGeodeticCrs.ofJson value
      | some .projected => projected <$> ProjectedCrs.ofJson value
      | some .vertical => vertical <$> VerticalCrs.ofJson value
      | some .compound => compoundOfJson ofJson value
      | some .bound => boundOfJson ofJson value
      | none => .ok (.unsupported (typeNameOfJson value)) := by
  have inner : ∀ inner : Json, inner.depth < value.depth →
      ofJsonWithin value.depth inner = ofJson inner :=
    fun inner deeper => ofJsonWithin_eq deeper.le
  rw [← ofJsonWithin_eq (Nat.le_succ value.depth), ofJsonWithin]
  cases known : CrsType.ofTag? (typeNameOfJson value) with
  | none => rfl
  | some type =>
    obtain ⟨entries, rfl, -⟩ := exists_entries (CrsType.ofTag?_eq_some.mp known)
    cases type with
    | compound => exact compoundOfJson_congr inner
    | bound => exact boundOfJson_congr inner
    | _ => rfl

end Crs

end CrsText

import CrsText.Proofs.Conversion.Grammar
import CrsText.Proofs.Number.Canonical
import CrsText.Proofs.Wkt1.Meridian

/-! Prime meridians in the older dialect. Their longitudes are written without a unit and are read in
that of the system, which is right exactly if both units have the same factor.
-/

set_option autoImplicit false

namespace CrsText

theorem Token.denoted?_rounded_eq_iff {v w : Float} (finite : v.isFinite) :
    denoted? (rounded w) = denoted? (rounded v) ↔ rounded v = rounded w := by
  constructor
  · intro same
    rw [denoted?_rounded_of_isFinite finite] at same
    have finiteOther : w.isFinite := isFinite_of_denoted? same
    rw [denoted?_rounded_of_isFinite finiteOther, Option.some_inj] at same
    exact (rounded_eq_iff finite finiteOther).mpr same.symm
  · intro same
    rw [same]

namespace Quantity

/-- The angle of a quantity, by the digits in which its value and its factor are written. -/
def angle? (quantity : Quantity) : Option ℚ := do
  return (← denoted? (Token.rounded quantity.value)) *
    (← denoted? (Token.rounded quantity.unit.factor))

/-- In another unit the value is another angle, unless the factors are written alike. -/
theorem angle?_eq_iff {quantity : Quantity} {unit : ResolvedUnit}
    (nonzero : exactValue quantity.value ≠ 0) (finite : quantity.unit.factor.isFinite) :
    angle? { quantity with unit } = quantity.angle? ↔
      Token.rounded quantity.unit.factor = Token.rounded unit.factor := by
  have value := Token.denoted?_rounded_of_isFinite (isFinite_of_ne_zero nonzero)
  -- A value other than zero is not rounded to zero, and can be cancelled.
  have kept : roundAway 14 (exactValue quantity.value) ≠ 0 := by
    rwa [← sign_ne_zero, sign_roundAway, sign_ne_zero]
  rw [← Token.denoted?_rounded_eq_iff finite]
  simp only [angle?, value, Token.denoted?_rounded_of_isFinite finite]
  cases denoted? (Token.rounded unit.factor) with
  | none => simp
  | some factor => simp [kept]

end Quantity

namespace Item

def hasKeyword (keyword : String) : Item → Bool
  | .node other _ => other == keyword
  | _ => false

/-- The token behind the name of a node. -/
def value? : Item → Option String
  | .node _ (.text _ :: .token content :: _) => some content
  | _ => none

def valueOf? (keyword : String) : Item → Option String
  | .node _ items => (items.find? (·.hasKeyword keyword)).bind value?
  | _ => none

/-- The longitude of the prime meridian of a system, as it is read off the older dialect: the number is
in the unit of the system. -/
def longitude? (system : Item) : Option ℚ := do
  return (← denoted? (← system.valueOf? "PRIMEM")) * (← denoted? (← system.valueOf? "UNIT"))

/-- The text contains that of the item, at some depth. -/
def IsShownIn (item : Item) (layout : Layout) (text : String) : Prop :=
  ∃ before depth after, text = before ++ Segment.fillAll layout (item.printed false depth) ++ after

@[simp] theorem hasKeyword_named (keyword other name : String) (items : List Item) :
    (named other name items).hasKeyword keyword = (other == keyword) := rfl

@[simp] theorem value?_named (keyword name content : String) (items : List Item) :
    (named keyword name (.token content :: items)).value? = some content := rfl

@[simp] theorem valueOf?_named (keyword other name : String) (items : List Item) :
    (named other name items).valueOf? keyword =
      (items.find? (·.hasKeyword keyword)).bind value? := rfl

/-- The number is taken for one in the unit that is shown, whatever unit it was given in. -/
theorem longitude?_eq {system : Item} {longitude : Quantity} {unit : ResolvedUnit}
    (number : system.valueOf? "PRIMEM" = some (Token.rounded longitude.value))
    (factor : system.valueOf? "UNIT" = some (Token.rounded unit.factor)) :
    system.longitude? = Quantity.angle? { longitude with unit } := by
  simp only [longitude?, Quantity.angle?, number, factor, Option.bind_eq_bind, Option.bind_some]

end Item

namespace Crs

variable {crs : Crs} {given : GeodeticCrs} {meridian : PrimeMeridian} {unit other : MeasureUnit}
  {layout : Layout} {text : String}

theorem convert_relabelled (resolvable : other.Resolvable)
    (converted : (crs.convert .wkt1 layout).result = .ok text) :
    ((crs.relabelled other).convert .wkt1 layout).result = .ok text := by
  obtain ⟨item, written, same⟩ := convert_eq_ok.mp converted
  exact convert_eq_ok.mpr ⟨item, Wkt1.crs_relabelled resolvable written, same⟩

/-- In the older dialect a geodetic system shows the number of its prime meridian and the unit of its
first axis. The longitude that is read is the one that is meant exactly if the factor of its own unit is
the one that is shown. That is never looked at: in any other unit with a factor, the prime meridians of
a system give the same text. -/
theorem convert_longitude (holds : crs.Holds given) (counted : given.primeMeridian = some meridian)
    (nonzero : exactValue meridian.longitude.value ≠ 0) (measured : given.axisUnit = some unit)
    (converted : (crs.convert .wkt1 layout).result = .ok text) :
    ∃ (longitude : Quantity) (resolved : ResolvedUnit) (node : Item),
      meridian.longitude.inUnit .degree = .ok longitude ∧ unit.resolve = .ok resolved ∧
      node.IsShownIn layout text ∧
      (∃ kind items, node = .named (Dialect.wkt1.geodeticKeyword kind) given.name items) ∧
      node.valueOf? "PRIMEM" = some (Token.rounded longitude.value) ∧
      node.valueOf? "UNIT" = some (Token.rounded resolved.factor) ∧
      (longitude.unit.factor.isFinite →
        (node.longitude? = longitude.angle? ↔
          Token.rounded longitude.unit.factor = Token.rounded resolved.factor)) ∧
      ∀ other : MeasureUnit, other.Resolvable →
        ((crs.relabelled other).convert .wkt1 layout).result = .ok text := by
  obtain ⟨item, written, same⟩ := convert_eq_ok.mp converted
  obtain ⟨kind, node, nodeWritten, member⟩ := Wkt1.exists_mem_nodes holds written
  have shown : node.IsShownIn layout text := same ▸ Item.write_of_mem_nodes member layout
  obtain ⟨longitude, resolved, datum, inside, common, described, rest, known, found, shape⟩ :=
    Wkt1.geodeticNode_items counted measured nodeWritten
  have value : longitude.value = meridian.longitude.value := (Measure.inUnit_eq_ok.mp known).1
  have number : node.valueOf? "PRIMEM" = some (Token.rounded longitude.value) := by simp [shape]
  have factor : node.valueOf? "UNIT" = some (Token.rounded resolved.factor) := by simp [shape]
  refine ⟨longitude, resolved, node, known, found, shown, ⟨kind, _, shape⟩, number, factor, ?_,
    fun other resolvable => convert_relabelled resolvable converted⟩
  intro finite
  rw [Item.longitude?_eq number factor]
  exact Quantity.angle?_eq_iff (value ▸ nonzero) finite

def grad : MeasureUnit := .defined ⟨some "AngularUnit", "grad", some 0.0157079632679489, .empty⟩

def parisMeridian : PrimeMeridian := ⟨"Paris", ⟨2.5969213, some grad⟩, .empty⟩

def fromParis (unit : MeasureUnit) : GeodeticCrs where
  kind := .geographic
  name := "Geographic"
  datum := some
    ⟨none, "Datum", some ⟨"Figure", ⟨6378249.2, none⟩, none, some 293.466021293627, .empty⟩,
      some parisMeridian, none, .empty⟩
  ensemble := none
  coordinateSystem := some ⟨"ellipsoidal", [⟨"Latitude", "lat", "north", some unit, none⟩]⟩
  metadata := .empty

def gridFromParis (unit : MeasureUnit) : Crs :=
  .compound "Grid and heights"
    [.projected ⟨"Grid", fromParis unit, ⟨"Zone", ⟨"Lambert", .empty⟩, [], .empty⟩,
      ⟨"Cartesian", [⟨"Easting", "E", "east", some (.named "metre"), none⟩]⟩, .empty⟩, heights] .empty

theorem parisMeridian_nonzero : exactValue parisMeridian.longitude.value ≠ 0 := by decide +kernel

/-- With an axis in grads, too, the longitude is read as it is meant. In degrees it would be written
alike. -/
theorem convert_longitude_paris : ∃ (text : String) (longitude : Quantity) (node : Item),
    (gridFromParis grad).Holds (fromParis grad) ∧
      (fromParis grad).primeMeridian = some parisMeridian ∧
      exactValue parisMeridian.longitude.value ≠ 0 ∧ (fromParis grad).axisUnit = some grad ∧
      ((gridFromParis grad).convert .wkt1 .multiline).result = .ok text ∧
      parisMeridian.longitude.inUnit .degree = .ok longitude ∧
      node.IsShownIn .multiline text ∧ node.longitude? = longitude.angle? ∧
      (MeasureUnit.named "degree").Resolvable ∧
      (((gridFromParis grad).relabelled (.named "degree")).convert .wkt1 .multiline).result =
        .ok text := by
  have holds : (gridFromParis grad).Holds (fromParis grad) := .component (.head _) (.base rfl)
  obtain ⟨text, converted⟩ : ∃ text,
      ((gridFromParis grad).convert .wkt1 .multiline).result = .ok text := ⟨_, rfl⟩
  have degrees : (MeasureUnit.named "degree").Resolvable := ⟨"degree", _, .known .degree⟩
  obtain ⟨longitude, resolved, node, known, found, shown, -, -, -, read, alike⟩ :=
    convert_longitude holds rfl parisMeridian_nonzero rfl converted
  cases known
  cases found
  exact ⟨text, _, node, holds, rfl, parisMeridian_nonzero, rfl, converted, rfl, shown,
    (read rfl).mpr rfl, degrees, alike (.named "degree") degrees⟩

/-- With an axis in degrees the conversion succeeds as well, and the grads are taken for degrees. -/
theorem convert_paris_misread : ∃ (longitude : Quantity) (resolved : ResolvedUnit) (text : String),
    (fromParis (.named "degree")).primeMeridian = some parisMeridian ∧
      exactValue parisMeridian.longitude.value ≠ 0 ∧
      (fromParis (.named "degree")).axisUnit = some (.named "degree") ∧
      parisMeridian.longitude.inUnit .degree = .ok longitude ∧
      (MeasureUnit.named "degree").resolve = .ok resolved ∧
      ((geodetic (fromParis (.named "degree"))).convert .wkt1 .singleLine).result = .ok text ∧
      text = "GEOGCS[\"Geographic\",DATUM[\"Datum\",SPHEROID[\"Figure\",6378249.2,293.466021293627]]," ++
        "PRIMEM[\"Paris\",2.5969213],UNIT[\"degree\",0.0174532925199433]," ++
        "AXIS[\"Latitude (lat)\",NORTH]]" ∧
      longitude.unit.factor ≠ resolved.factor ∧
      Token.rounded longitude.unit.factor ≠ Token.rounded resolved.factor := by
  refine ⟨_, _, _, rfl, parisMeridian_nonzero, rfl, rfl, rfl, rfl, ?_, ?_, ?_⟩
  all_goals decide +kernel

end Crs

end CrsText

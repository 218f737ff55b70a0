import CrsText.Json.Record
import Mathlib.Data.List.Nodup

/-! A record read from an object depends on what the object has under the keys of the record, and on
nothing else: neither on other keys nor on the order of the entries.
-/

set_option autoImplicit false

namespace CrsText

variable {α β : Type} {entries others : List (String × Json)}

/-- If no key occurs twice, the order of the entries does not matter. -/
theorem lookup_iff_mem {key : String} {value : Json}
    (distinct : (entries.map Prod.fst).Nodup) :
    entries.lookup key = some value ↔ (key, value) ∈ entries := by
  induction entries with
  | nil => simp
  | cons first rest ih =>
    obtain ⟨other, here⟩ := first
    obtain ⟨apart, distinct⟩ := List.nodup_cons.mp distinct
    rw [List.lookup_cons, List.mem_cons, Prod.mk.injEq]
    by_cases same : key = other
    · subst same
      have elsewhere : (key, value) ∉ rest := fun member =>
        apart (List.mem_map.mpr ⟨(key, value), member, rfl⟩)
      simp [elsewhere, eq_comm]
    · simp [beq_false_of_ne same, same, ih distinct]

theorem lookup_perm (same : entries.Perm others) (distinct : (others.map Prod.fst).Nodup)
    (key : String) : entries.lookup key = others.lookup key := by
  have distinctEntries : (entries.map Prod.fst).Nodup :=
    (same.map Prod.fst).nodup_iff.mpr distinct
  refine Option.ext fun value => ?_
  rw [lookup_iff_mem distinctEntries, lookup_iff_mem distinct, same.mem_iff]

namespace Field

variable {field : Field α} {value : α}

theorem ofEntries_found {given : Json} (found : entries.lookup field.key = some given)
    (read : field.read given = .ok value) : field.ofEntries entries = .ok value := by
  simp only [ofEntries, found, readValue, read, Except.mapError]

theorem ofEntries_absent (absent : entries.lookup field.key = none)
    (implied : field.absent = some value) : field.ofEntries entries = .ok value := by
  simp only [ofEntries, absent, orMissing, implied]

theorem ofEntries_congr {key : String} {read other : Reader α} {absent truncated : Option α}
    (same : ∀ given, entries.lookup key = some given → read given = other given) :
    Field.ofEntries entries ⟨key, read, absent, truncated⟩ =
      Field.ofEntries entries ⟨key, other, absent, truncated⟩ := by
  simp only [ofEntries]
  split
  · next given found => simp only [readValue, same given found]
  · rfl

end Field

namespace Record

theorem ofEntries_field {init : Record (β → α)} {last : Field β} {f : β → α} {value : β}
    (before : init.ofEntries entries = .ok f) (here : last.ofEntries entries = .ok value) :
    (init.field last).ofEntries entries = .ok (f value) := by
  simp only [ofEntries, before, here, apply]

theorem ofEntries_congr (record : Record α)
    (same : ∀ key ∈ record.keys, entries.lookup key = others.lookup key) :
    record.ofEntries entries = record.ofEntries others := by
  induction record with
  | build value => rfl
  | field init last ih =>
    simp only [keys, List.forall_mem_append, List.forall_mem_singleton] at same
    obtain ⟨before, here⟩ := same
    simp only [ofEntries, Field.ofEntries, ih before, here]

theorem readObject_congr (record : Record α)
    (same : ∀ key ∈ record.keys, entries.lookup key = others.lookup key) :
    record.readObject entries = record.readObject others := by
  rw [readObject, readObject, ofEntries_congr record same]

theorem readerWith_congr (record : Record (β → α)) (name : String) (common : Record β)
    (same : ∀ key ∈ record.keys ++ common.keys, entries.lookup key = others.lookup key) :
    record.readerWith name common (.object entries) =
      record.readerWith name common (.object others) := by
  obtain ⟨own, shared⟩ := List.forall_mem_append.mp same
  rw [readerWith, readerWith, readObject_congr record own, readObject_congr common shared]

end Record

end CrsText

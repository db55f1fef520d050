import PolyCommit.Value.Points
import Mathlib.Data.List.Nodup

/-!
# The order of fields does not matter

A value that comes back over the wire can have its fields in another order. Objects do not repeat
the names of their fields, so a field is found by its name in whatever order they are.
-/

namespace PolyCommit

namespace Value

/-- Whether a value is another one, up to the order of its own fields. -/
inductive Reordered : Value → Value → Prop
  | same (v : Value) : Reordered v v
  | fields {fs gs : List (Text × Value)} (h : fs.Perm gs) : Reordered (object fs) (object gs)

variable {name : Text} {fs gs : List (Text × Value)}

/-- Where no name is repeated, to look up a field is to find it among the fields. -/
theorem lookup_eq_some_iff (hfs : (fs.map Prod.fst).Nodup) {v : Value} :
    lookup name fs = some v ↔ (name, v) ∈ fs := by
  induction fs with
  | nil => exact iff_of_false nofun List.not_mem_nil
  | cons field fs ih =>
    rw [List.map_cons, List.nodup_cons] at hfs
    rw [lookup, List.mem_cons]
    split
    · next hname =>
      subst hname
      have hrest : (field.1, v) ∉ fs := fun h => hfs.1 (List.mem_map.mpr ⟨_, h, rfl⟩)
      rw [or_iff_left hrest, Option.some.injEq]
      exact ⟨fun h => by rw [← h], fun h => by rw [← h]⟩
    · next hname =>
      rw [ih hfs.2, or_iff_right]
      rintro rfl
      exact hname rfl

/-- Fields with different names are found in any order. -/
theorem lookup_eq_of_perm (h : fs.Perm gs) (hfs : (fs.map Prod.fst).Nodup) :
    lookup name gs = lookup name fs := by
  have hgs : (gs.map Prod.fst).Nodup := (h.map Prod.fst).nodup_iff.mp hfs
  ext v
  rw [lookup_eq_some_iff hgs, lookup_eq_some_iff hfs, h.mem_iff]

/-- Fields of an object that does not repeat their names are found in any order. -/
theorem field_eq_of_reordered {v : Value} (h : Reordered (object fs) v)
    (hfs : (fs.map Prod.fst).Nodup) (name : String) : v.field name = (object fs).field name := by
  cases h with
  | same => rfl
  | fields h => rw [field, field, lookup_eq_of_perm h hfs]

end Value

end PolyCommit

import PolyCommit.Key.Basic
import PolyCommit.Proofs.Outcome

/-!
# Which points make a key

Two lists of points make a key exactly when they are the lists of a key: neither is empty and none
of the points is the identity. Other lists are refused as malformed.
-/

namespace PolyCommit

namespace Key

/-- The points of the first group are as many as the key says. -/
theorem length_points₁ (key : Key) : key.points₁.length = key.size₁ := List.length_map _

/-- The points of the second group are as many as the key says. -/
theorem length_points₂ (key : Key) : key.points₂.length = key.size₂ := List.length_map _

/-- There is a point of the first group. -/
theorem points₁_ne_nil (key : Key) : key.points₁ ≠ [] :=
  fun h => key.powers₁_ne_nil (List.map_eq_nil_iff.mp h)

/-- All points are affine when they are the images of affine points. -/
theorem allAffine_eq_some_iff {F : Type} {ps : List (Point F)} {as : List (Affine F)} :
    allAffine ps = some as ↔ as.map some = ps := by
  unfold allAffine
  induction ps generalizing as with
  | nil =>
    rw [List.mapM_nil, List.map_eq_nil_iff]
    exact ⟨fun h => (Option.some.inj h).symm, fun h => by rw [h]; rfl⟩
  | cons P ps ih =>
    rw [List.mapM_cons, List.map_eq_cons_iff]
    constructor
    · intro h
      obtain ⟨A, hA, h⟩ := Option.bind_eq_some_iff.mp h
      obtain ⟨as', has, h⟩ := Option.bind_eq_some_iff.mp h
      exact ⟨A, as', (Option.some.inj h).symm, hA.symm, ih.mp has⟩
    · rintro ⟨A, as', rfl, rfl, hmap⟩
      rw [ih.mpr hmap]
      rfl

/-- A key comes of its own points only. -/
theorem ofPoints_eq_ok_iff {ps : List (Point Fq)} {qs : List (Point Fq2)} {key : Key} :
    ofPoints ps qs = .ok key ↔ key.points₁ = ps ∧ key.points₂ = qs := by
  constructor
  · intro h
    unfold ofPoints at h
    split at h
    · cases h
    · split at h
      · next as bs has hbs =>
        split at h
        · rw [← Except.ok.inj h]
          exact ⟨allAffine_eq_some_iff.mp has, allAffine_eq_some_iff.mp hbs⟩
        · cases h
      · cases h
  · rintro ⟨rfl, rfl⟩
    exact ofPoints_points key

/-- Points that make no key are malformed. -/
theorem fails_ofPoints {ps : List (Point Fq)} {qs : List (Point Fq2)} :
    Fails Failure.IsMalformed (ofPoints ps qs) := by
  unfold ofPoints
  split
  · exact .error ⟨_, rfl⟩
  · split
    · split
      · exact .ok
      · exact .error ⟨_, rfl⟩
    · exact .error ⟨_, rfl⟩

end Key

end PolyCommit

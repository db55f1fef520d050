import PolyCommit.Bytes.Points

/-!
# Commitment keys

A key lists multiples of a point of each group by the powers of one hidden scalar, the lowest power
first. Neither list is empty and none of the points is the identity, which is in the type.
-/

namespace PolyCommit

/-- A commitment key. -/
structure Key where
  powers₁ : List (Affine Fq)
  powers₂ : List (Affine Fq2)
  powers₁_ne_nil : powers₁ ≠ []
  powers₂_ne_nil : powers₂ ≠ []
  deriving DecidableEq

namespace Key

/-- The points that are not the identity, if all are. -/
def allAffine {F : Type} (points : List (Point F)) : Option (List (Affine F)) := points.mapM id

/-- The key with the given points. An empty list is refused before an identity. -/
def ofPoints (points₁ : List (Point Fq)) (points₂ : List (Point Fq2)) : Except Failure Key :=
  if points₁.isEmpty || points₂.isEmpty then .error (.malformed .emptyKey)
  else
    match allAffine points₁, allAffine points₂ with
    | some ps, some qs =>
      if h : ps ≠ [] ∧ qs ≠ [] then .ok ⟨ps, qs, h.1, h.2⟩ else .error (.malformed .emptyKey)
    | _, _ => .error (.malformed .identityInKey)

/-- The points of the first group, as points. -/
def points₁ (key : Key) : List (Point Fq) := key.powers₁.map some

/-- The points of the second group, as points. -/
def points₂ (key : Key) : List (Point Fq2) := key.powers₂.map some

/-- The number of points of the first group, which bounds the length of a polynomial. -/
def size₁ (key : Key) : Nat := key.powers₁.length

/-- The number of points of the second group. -/
def size₂ (key : Key) : Nat := key.powers₂.length

/-- The size of the encoded points in bits. -/
def bits (key : Key) : Nat := 8 * (key.size₁ * point₁Bytes + key.size₂ * point₂Bytes)

/-- A one-line description. -/
def describe (key : Key) : String := s!"CommitmentKey(G1={key.size₁}, G2={key.size₂})"

/-- A key's own points give the key back. -/
theorem ofPoints_points (key : Key) : ofPoints key.points₁ key.points₂ = .ok key := by
  have all {F : Type} (ps : List (Affine F)) : allAffine (ps.map some) = some ps := by
    induction ps with
    | nil => rfl
    | cons p ps ih =>
      unfold allAffine at ih ⊢
      simp [List.mapM_cons, ih]
  have h₁ := key.powers₁_ne_nil
  have h₂ := key.powers₂_ne_nil
  rw [ofPoints, points₁, points₂, all, all]
  simp [h₁, h₂]

end Key

end PolyCommit

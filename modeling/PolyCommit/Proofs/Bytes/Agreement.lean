import PolyCommit.Proofs.Bytes.Points
import PolyCommit.Proofs.Value.Points

/-!
# Bytes and values spell the same scalars and points

Scalars and points are read from bytes by one reader and from JSON values by another. For integers
that take one word each the two come to the same: whether the words or the numerals of some integers
are read, the results are equal, or both readers refuse them as malformed. The one exception is the
point whose coordinates are all zero. Its bytes stand for the identity, which is null among the
values, and as a pair of coordinates it is on no curve.
-/

namespace PolyCommit

/-- Whether two computations have the same result, or both refuse their input as malformed. -/
inductive Concur {α : Type} : Except Failure α → Except Failure α → Prop
  | ok (a : α) : Concur (.ok a) (.ok a)
  | malformed (r r' : Malformed) : Concur (.error (.malformed r)) (.error (.malformed r'))

/-- Sequences concur if their parts do, the second ones after a common result of the first. -/
theorem Concur.bind {α β : Type} {x y : Except Failure α} {f g : α → Except Failure β}
    (h : Concur x y) (hfg : ∀ a, x = .ok a → Concur (f a) (g a)) :
    Concur (x >>= f) (y >>= g) := by
  cases h with
  | ok a => exact hfg a rfl
  | malformed r r' => exact .malformed r r'

/-! ### Words and numerals -/

/-- The numbers of a word have numerals within the limit. -/
theorem two_pow_le_pow : 2 ^ 256 ≤ 10 ^ Text.digitLimit :=
  le_trans (by decide : 2 ^ 256 ≤ 10 ^ 80) (Nat.pow_le_pow_right (by decide) (by decide))

/-- A word has room for the numbers below `2²⁵⁶`. -/
theorem room_wordBytes : BigEndian.room wordBytes = 2 ^ 256 := by decide +kernel

namespace Encoding

/-- The words of some integers, one after the other. -/
def words (xs : List ℕ) : Bytes := xs.flatMap (BigEndian.encode wordBytes)

/-- As many words as numbers. -/
theorem length_words (xs : List ℕ) : (words xs).length = xs.length * wordBytes := by
  simp [words, List.length_flatMap]

/-- To drop a word is to drop its number. -/
theorem drop_words (xs : List ℕ) (k : ℕ) :
    (words xs).drop (k * wordBytes) = words (xs.drop k) := by
  induction k generalizing xs with
  | zero => rw [Nat.zero_mul, List.drop_zero, List.drop_zero]
  | succ k ih =>
    cases xs with
    | nil => simp [words]
    | cons x xs =>
      rw [Nat.succ_mul, Nat.add_comm, ← List.drop_drop, words, List.flatMap_cons,
        List.drop_left' (BigEndian.length_encode _ _)]
      exact ih xs

end Encoding

namespace Decoding

open Encoding

variable {part : Part} {n k x : ℕ} {xs : List ℕ}

/-- A word is read as the residue that it spells, if it spells one. -/
theorem word_words (hk : xs[k]? = some x) (hx : x < 2 ^ 256) :
    word part n (words xs) k =
      if h : x < n then .ok ⟨x, h⟩ else .error (.malformed (.encodingRange part)) := by
  obtain ⟨hlt, rfl⟩ := List.getElem?_eq_some_iff.mp hk
  have hchunk : ((words xs).drop (k * wordBytes)).take wordBytes =
      BigEndian.encode wordBytes xs[k] := by
    rw [drop_words, List.drop_eq_getElem_cons hlt, words, List.flatMap_cons,
      List.take_left' (BigEndian.length_encode _ _)]
  have hvalue : BigEndian.decode (BigEndian.encode wordBytes xs[k]) = xs[k] := by
    rw [BigEndian.decode_encode, room_wordBytes, Nat.mod_eq_of_lt hx]
  unfold word
  simp only [hchunk, hvalue]

/-- An integer is read alike from its word and from its numeral. -/
theorem concur_word (hk : xs[k]? = some x) (hx : x < 2 ^ 256) {refusal : Malformed}
    (hrefusal : refusal.isWritable = true) :
    Concur (word part n (words xs) k) (Value.toResidue n refusal (.ofNat x)) := by
  rw [word_words hk hx, Value.toResidue_ofNat (hx.trans_le two_pow_le_pow),
    Failure.quoting_eq (r := .malformed refusal) hrefusal]
  split
  · exact .ok _
  · exact .malformed _ _

/-- The representative of a residue that is read is the number of its word. -/
theorem val_of_word (hk : xs[k]? = some x) (hx : x < 2 ^ 256) {a : Residue n}
    (h : word part n (words xs) k = .ok a) : a.val = x := by
  rw [word_words hk hx] at h
  split at h
  · rw [← Except.ok.inj h]
  · cases h

/-! ### Scalars and points -/

/-- A scalar is read alike from its word and from its numeral. -/
theorem concur_scalar (hx : x < 2 ^ 256) :
    Concur (scalar (words [x])) (Value.toScalar (.ofNat x)) := by
  have hlength : (words [x]).length = 1 * wordBytes := length_words _
  rw [scalar, sized_eq_ok_iff.mpr hlength, ok_bind]
  exact concur_word rfl hx rfl

variable {T : Type} (E : PairingSystem T)

/-- Two coordinates that are not both zero are read alike. -/
theorem concur_point₁ {x y : ℕ} (hx : x < 2 ^ 256) (hy : y < 2 ^ 256) (hne : (x, y) ≠ (0, 0)) :
    Concur (point₁ E (words [x, y])) (Value.toPoint₁ E (.list [.ofNat x, .ofNat y])) := by
  have hlength : (words [x, y]).length = 2 * wordBytes := length_words _
  rw [point₁, sized_eq_ok_iff.mpr hlength, ok_bind, Value.toPoint₁]
  apply Concur.bind (concur_word rfl hx rfl)
  intro a ha
  apply Concur.bind (concur_word rfl hy rfl)
  intro b hb
  have hzero : ¬(a = 0 ∧ b = 0) := by
    rintro ⟨rfl, rfl⟩
    have hx0 : 0 = x := val_of_word rfl hx ha
    have hy0 : 0 = y := val_of_word rfl hy hb
    exact hne (by rw [← hx0, ← hy0])
  rw [if_neg (by simpa using hzero)]
  split
  · exact .ok _
  · exact .malformed _ _

/-- Four coordinates that are not all zero are read alike. -/
theorem concur_point₂ {x0 x1 y0 y1 : ℕ} (hx0 : x0 < 2 ^ 256) (hx1 : x1 < 2 ^ 256)
    (hy0 : y0 < 2 ^ 256) (hy1 : y1 < 2 ^ 256) (hne : (x0, x1, y0, y1) ≠ (0, 0, 0, 0)) :
    Concur (point₂ E (words [x0, x1, y0, y1]))
      (Value.toPoint₂ E (.list [.list [.ofNat x0, .ofNat x1], .list [.ofNat y0, .ofNat y1]])) := by
  have hfour : (Value.list [.list [.ofNat x0, .ofNat x1],
      .list [.ofNat y0, .ofNat y1]]).fourEntries? =
        some (.ofNat x0, .ofNat x1, .ofNat y0, .ofNat y1) := rfl
  have hlength : (words [x0, x1, y0, y1]).length = 4 * wordBytes := length_words _
  simp only [Value.toPoint₂, hfour]
  rw [point₂, sized_eq_ok_iff.mpr hlength, ok_bind]
  apply Concur.bind (concur_word rfl hx0 rfl)
  intro a0 ha0
  apply Concur.bind (concur_word rfl hx1 rfl)
  intro a1 ha1
  apply Concur.bind (concur_word rfl hy0 rfl)
  intro b0 hb0
  apply Concur.bind (concur_word rfl hy1 rfl)
  intro b1 hb1
  have hzero : ¬((⟨a0, a1⟩ : Fq2) = 0 ∧ (⟨b0, b1⟩ : Fq2) = 0) := by
    rintro ⟨ha, hb⟩
    cases ha
    cases hb
    have hx0' : 0 = x0 := val_of_word rfl hx0 ha0
    have hx1' : 0 = x1 := val_of_word rfl hx1 ha1
    have hy0' : 0 = y0 := val_of_word rfl hy0 hb0
    have hy1' : 0 = y1 := val_of_word rfl hy1 hb1
    exact hne (by rw [← hx0', ← hx1', ← hy0', ← hy1'])
  dsimp only
  rw [if_neg (by simpa using hzero)]
  split
  · exact .ok _
  · exact .malformed _ _

/-! ### Zeros -/

/-- The words of zeros are the identity. -/
theorem point₁_zeros : point₁ E (words [0, 0]) = .ok none := point₁_words E 0 0

@[inherit_doc point₁_zeros]
theorem point₂_zeros : point₂ E (words [0, 0, 0, 0]) = .ok none := point₂_words E 0 0 0 0

end Decoding

namespace Value

/-- The numeral of zero is the coordinate zero. -/
theorem toCoordinate_zero : toCoordinate (ofNat 0) = .ok 0 := toCoordinate_ofNat 0

variable {T : Type} (E : PairingSystem T)

/-- The numerals of zeros are no point. -/
theorem toPoint₁_zeros [E.g₁.OriginFree] :
    toPoint₁ E (list [ofNat 0, ofNat 0]) = .error (.malformed .offCurve₁) := by
  have horigin : E.g₁.contains (some ⟨0, 0⟩) = false := PointGroup.OriginFree.not_contains_origin
  simp only [toPoint₁, toCoordinate_zero, ok_bind, horigin, Bool.false_eq_true, if_false]

@[inherit_doc toPoint₁_zeros]
theorem toPoint₂_zeros [E.g₂.OriginFree] :
    toPoint₂ E (list [list [ofNat 0, ofNat 0], list [ofNat 0, ofNat 0]]) =
      .error (.malformed .offGroup₂) := by
  have horigin : E.g₂.contains (some ⟨⟨0, 0⟩, ⟨0, 0⟩⟩) = false :=
    PointGroup.OriginFree.not_contains_origin
  have hfour : (list [list [ofNat 0, ofNat 0], list [ofNat 0, ofNat 0]]).fourEntries? =
      some (ofNat 0, ofNat 0, ofNat 0, ofNat 0) := rfl
  simp only [toPoint₂, hfour, toCoordinate_zero, ok_bind, horigin, Bool.false_eq_true, if_false]

end Value

namespace Decoding

open Encoding

/-- Integers of one word each are read alike from their words and from their numerals, as a scalar
and as the coordinates of a point of either group, unless all coordinates are zero. Then the words
are the identity, and the numerals are refused. -/
theorem readers_concur :
    (∀ x < 2 ^ 256, Concur (scalar (words [x])) (Value.toScalar (.ofNat x))) ∧
    (∀ x < 2 ^ 256, ∀ y < 2 ^ 256, (x, y) ≠ (0, 0) →
      Concur (point₁ bn254 (words [x, y]))
        (Value.toPoint₁ bn254 (.list [.ofNat x, .ofNat y]))) ∧
    (∀ x0 < 2 ^ 256, ∀ x1 < 2 ^ 256, ∀ y0 < 2 ^ 256, ∀ y1 < 2 ^ 256,
      (x0, x1, y0, y1) ≠ (0, 0, 0, 0) →
      Concur (point₂ bn254 (words [x0, x1, y0, y1]))
        (Value.toPoint₂ bn254
          (.list [.list [.ofNat x0, .ofNat x1], .list [.ofNat y0, .ofNat y1]]))) ∧
    (point₁ bn254 (words [0, 0]) = .ok none ∧
      ∃ reason, Value.toPoint₁ bn254 (.list [.ofNat 0, .ofNat 0]) =
        .error (.malformed reason)) ∧
    (point₂ bn254 (words [0, 0, 0, 0]) = .ok none ∧
      ∃ reason, Value.toPoint₂ bn254 (.list [.list [.ofNat 0, .ofNat 0],
        .list [.ofNat 0, .ofNat 0]]) = .error (.malformed reason)) :=
  ⟨fun _ hx => concur_scalar hx,
    fun _ hx _ hy hne => concur_point₁ bn254 hx hy hne,
    fun _ hx0 _ hx1 _ hy0 _ hy1 hne => concur_point₂ bn254 hx0 hx1 hy0 hy1 hne,
    ⟨point₁_zeros bn254, _, Value.toPoint₁_zeros bn254⟩,
    ⟨point₂_zeros bn254, _, Value.toPoint₂_zeros bn254⟩⟩

/-- A scalar that is not reduced, the base of the first group with a coordinate that is not reduced,
and a point of the twist outside the subgroup are read alike. -/
theorem readers_concur_outside : ∃ y0 y1 : ℕ,
    Bn254.onTwist (some ⟨⟨1, 0⟩, ⟨.ofNat y0, .ofNat y1⟩⟩) = true ∧
    Bn254.inSubgroup₂ (some ⟨⟨1, 0⟩, ⟨.ofNat y0, .ofNat y1⟩⟩) = false ∧
    Concur (scalar (words [groupOrder])) (Value.toScalar (.ofNat groupOrder)) ∧
    Concur (point₁ bn254 (words [fieldModulus + 1, 2]))
      (Value.toPoint₁ bn254 (.list [.ofNat (fieldModulus + 1), .ofNat 2])) ∧
    Concur (point₂ bn254 (words [1, 0, y0, y1]))
      (Value.toPoint₂ bn254
        (.list [.list [.ofNat 1, .ofNat 0], .list [.ofNat y0, .ofNat y1]])) := by
  obtain ⟨hscalar, hpoint₁, hpoint₂, -⟩ := readers_concur
  exact ⟨18278151005453108793778860132295291098363647455926340152056652516292830556603,
    5912654199736721486680175016176231956195085055698687135131307249486702594212,
    by decide +kernel, by decide +kernel, hscalar _ (by decide),
    hpoint₁ _ (by decide) _ (by decide) (by decide),
    hpoint₂ _ (by decide) _ (by decide) _ (by decide) _ (by decide) (by decide)⟩

end Decoding

end PolyCommit

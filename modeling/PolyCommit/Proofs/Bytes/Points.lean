import PolyCommit.Bytes.Points
import PolyCommit.Proofs.Curve.Bn254
import PolyCommit.Proofs.Outcome
import PolyCommit.Proofs.Pairing.Bilinear

/-!
# Encodings of scalars and points are canonical

Bytes are read as a scalar or a point exactly when they are its encoding, and as a point only when
it is a member of its group. All zeros can stand for the identity because the point with two zeros
for coordinates is on neither curve. Everything else is refused as malformed.
-/

namespace PolyCommit

namespace PointGroup

/-- The point with zeros for coordinates is no member. -/
class OriginFree {F : Type} [Zero F] (G : PointGroup F) : Prop where
  not_contains_origin : G.contains (some ⟨0, 0⟩) = false

/-- A member of a group without the origin has a coordinate other than zero. -/
theorem OriginFree.not_and {F : Type} [Zero F] {G : PointGroup F} [G.OriginFree] {P : Affine F}
    (h : G.contains (some P) = true) : ¬(P.x = 0 ∧ P.y = 0) := by
  rintro ⟨hx, hy⟩
  rw [show P = ⟨0, 0⟩ from Affine.ext hx hy, not_contains_origin] at h
  cases h

end PointGroup

namespace Bn254

instance : group₁.OriginFree := ⟨by decide +kernel⟩

instance : group₂.OriginFree := ⟨by decide +kernel⟩

instance : bn254.g₁.OriginFree := inferInstanceAs group₁.OriginFree

instance : bn254.g₂.OriginFree := inferInstanceAs group₂.OriginFree

end Bn254

/-! ### Words -/

/-- Scalars fit into a word. -/
theorem groupOrder_le_room : groupOrder ≤ BigEndian.room wordBytes := by decide +kernel

/-- Coordinates fit into a word. -/
theorem fieldModulus_le_room : fieldModulus ≤ BigEndian.room wordBytes := by decide +kernel

/-- Zero is encoded as zeros. -/
theorem BigEndian.encode_zero (width : ℕ) : encode width 0 = List.replicate width 0 := by
  induction width with
  | zero => rfl
  | succ width ih =>
    rw [encode, ih, Nat.zero_div]
    rfl

namespace Encoding

/-- The identity of the first group is written as two zeros. -/
theorem point₁_none : point₁ none = word (0 : Fq) ++ word (0 : Fq) := by
  rw [word, Residue.val_zero, BigEndian.encode_zero]
  rfl

/-- The identity of the second group is written as four zeros. -/
theorem point₂_none :
    point₂ none = word (0 : Fq) ++ word (0 : Fq) ++ word (0 : Fq) ++ word (0 : Fq) := by
  rw [word, Residue.val_zero, BigEndian.encode_zero]
  rfl

end Encoding

namespace Decoding

variable {part : Part} {n k : ℕ} {data : Bytes}

/-- A word is read exactly from its encoding. -/
theorem word_eq_ok_iff {x : Residue n} (hn : n ≤ BigEndian.room wordBytes)
    (hk : (k + 1) * wordBytes ≤ data.length) :
    word part n data k = .ok x ↔
      data.drop (k * wordBytes) = Encoding.word x ++ data.drop ((k + 1) * wordBytes) := by
  have hsplit : data.drop (k * wordBytes) =
      (data.drop (k * wordBytes)).take wordBytes ++ data.drop ((k + 1) * wordBytes) := by
    rw [Nat.succ_mul, ← List.drop_drop, List.take_append_drop]
  have hlength : ((data.drop (k * wordBytes)).take wordBytes).length = wordBytes := by
    rw [Nat.succ_mul] at hk
    rw [List.length_take, List.length_drop]
    omega
  have hword : word part n data k =
      if h : BigEndian.decode ((data.drop (k * wordBytes)).take wordBytes) < n then .ok ⟨_, h⟩
      else .error (.malformed (.encodingRange part)) := rfl
  rw [hword, hsplit, List.append_left_inj, ← hsplit]
  generalize (data.drop (k * wordBytes)).take wordBytes = chunk at hlength
  constructor
  · intro h
    split at h
    · rw [Encoding.word, ← Except.ok.inj h, ← hlength, BigEndian.encode_decode]
    · cases h
  · rintro rfl
    have hval : BigEndian.decode (Encoding.word x) = x.val := by
      rw [Encoding.word, BigEndian.decode_encode, Nat.mod_eq_of_lt (x.isLt.trans_le hn)]
    rw [dif_pos (hval ▸ x.isLt)]
    exact congrArg Except.ok (Residue.ext hval)

/-- The words from the place `k` on are read exactly from their encodings. -/
theorem forall₂_word_iff (part : Part) (hn : n ≤ BigEndian.room wordBytes)
    (xs : List (Residue n)) (k : ℕ) (hlength : data.length = (k + xs.length) * wordBytes) :
    List.Forall₂ (fun k x => word part n data k = .ok x) (List.range' k xs.length) xs ↔
      data.drop (k * wordBytes) = xs.flatMap Encoding.word := by
  induction xs generalizing k with
  | nil =>
    have hend : data.drop (k * wordBytes) = [] := List.drop_eq_nil_of_le (by simp [hlength])
    exact iff_of_true .nil (by rw [hend, List.flatMap_nil])
  | cons x xs ih =>
    have hlength' : data.length = (k + 1 + xs.length) * wordBytes := by
      rw [hlength, List.length_cons, Nat.add_right_comm, Nat.add_assoc]
    have hk : (k + 1) * wordBytes ≤ data.length := by
      rw [hlength']
      exact Nat.mul_le_mul_right _ (Nat.le_add_right _ _)
    rw [List.length_cons, List.range'_succ, List.forall₂_cons, ih (k + 1) hlength',
      word_eq_ok_iff hn hk, List.flatMap_cons]
    constructor
    · rintro ⟨hfirst, hrest⟩
      rw [hfirst, hrest]
    · intro h
      have hrest : data.drop ((k + 1) * wordBytes) = xs.flatMap Encoding.word := by
        rw [Nat.succ_mul, ← List.drop_drop, h, List.drop_left' (Encoding.length_word x)]
      exact ⟨by rw [hrest, h], hrest⟩

/-- The check on the length passes for that length alone. -/
theorem sized_eq_ok_iff {count : ℕ} :
    sized part count data = .ok () ↔ data.length = count * wordBytes := by
  unfold sized
  split
  · next h => exact iff_of_true rfl h
  · next h => exact iff_of_false nofun h

/-- A scalar is read exactly from its encoding. -/
theorem scalar_eq_ok_iff {x : Fr} : scalar data = .ok x ↔ data = Encoding.scalar x := by
  rw [scalar, bind_eq_ok_iff]
  have hwords (hlength : data.length = 1 * wordBytes) :
      word .scalar groupOrder data 0 = .ok x ↔ data = Encoding.scalar x := by
    simpa [Encoding.scalar] using forall₂_word_iff .scalar groupOrder_le_room [x] 0 hlength
  constructor
  · rintro ⟨_, hlength, h⟩
    exact (hwords (sized_eq_ok_iff.mp hlength)).mp h
  · intro h
    have hlength : data.length = 1 * wordBytes := by
      rw [h, Encoding.length_scalar, Nat.one_mul, scalarBytes]
    exact ⟨(), sized_eq_ok_iff.mpr hlength, (hwords hlength).mpr h⟩

variable {T : Type} (E : PairingSystem T)

/-- What two words are read as. -/
theorem point₁_words (x y : Fq) :
    point₁ E (Encoding.word x ++ Encoding.word y) =
      if x = 0 && y = 0 then .ok none
      else if E.g₁.contains (some ⟨x, y⟩) then .ok (some ⟨x, y⟩)
      else .error (.malformed .offCurve₁) := by
  have hlength : (Encoding.word x ++ Encoding.word y).length = 2 * wordBytes := by simp; omega
  have hwords := (forall₂_word_iff .point₁ fieldModulus_le_room [x, y] 0
    hlength).mpr (by simp)
  simp only [List.length_cons, List.length_nil, List.range'_succ, List.range'_zero,
    List.forall₂_cons, List.forall₂_nil_left_iff] at hwords
  obtain ⟨hx, hy, -⟩ := hwords
  rw [point₁, sized_eq_ok_iff.mpr hlength, ok_bind, hx, ok_bind, hy, ok_bind]
  rfl

/-- What four words are read as. -/
theorem point₂_words (x0 x1 y0 y1 : Fq) :
    point₂ E (Encoding.word x0 ++ Encoding.word x1 ++ Encoding.word y0 ++ Encoding.word y1) =
      if (⟨x0, x1⟩ : Fq2) = 0 && (⟨y0, y1⟩ : Fq2) = 0 then .ok none
      else if E.g₂.contains (some ⟨⟨x0, x1⟩, ⟨y0, y1⟩⟩) then .ok (some ⟨⟨x0, x1⟩, ⟨y0, y1⟩⟩)
      else .error (.malformed .offGroup₂) := by
  have hlength : (Encoding.word x0 ++ Encoding.word x1 ++ Encoding.word y0 ++
      Encoding.word y1).length = 4 * wordBytes := by simp; omega
  have hwords := (forall₂_word_iff .point₂ fieldModulus_le_room [x0, x1, y0, y1] 0
    hlength).mpr (by simp)
  simp only [List.length_cons, List.length_nil, List.range'_succ, List.range'_zero,
    List.forall₂_cons, List.forall₂_nil_left_iff] at hwords
  obtain ⟨hx0, hx1, hy0, hy1, -⟩ := hwords
  rw [point₂, sized_eq_ok_iff.mpr hlength, ok_bind, hx0, ok_bind, hx1, ok_bind, hy0, ok_bind, hy1,
    ok_bind]
  rfl

variable {E}

/-- Only two words are read as a point of the first group. -/
theorem exists_words₁ {P : Point Fq} (h : point₁ E data = .ok P) :
    ∃ x y : Fq, data = Encoding.word x ++ Encoding.word y := by
  obtain ⟨_, hlength, h⟩ := bind_eq_ok_iff.mp h
  obtain ⟨x, hx, h⟩ := bind_eq_ok_iff.mp h
  obtain ⟨y, hy, -⟩ := bind_eq_ok_iff.mp h
  exact ⟨x, y, by simpa using (forall₂_word_iff _ fieldModulus_le_room [x, y] 0
    (sized_eq_ok_iff.mp hlength)).mp (.cons hx (.cons hy .nil))⟩

/-- Only four words are read as a point of the second group. -/
theorem exists_words₂ {Q : Point Fq2} (h : point₂ E data = .ok Q) :
    ∃ x0 x1 y0 y1 : Fq,
      data = Encoding.word x0 ++ Encoding.word x1 ++ Encoding.word y0 ++ Encoding.word y1 := by
  obtain ⟨_, hlength, h⟩ := bind_eq_ok_iff.mp h
  obtain ⟨x0, hx0, h⟩ := bind_eq_ok_iff.mp h
  obtain ⟨x1, hx1, h⟩ := bind_eq_ok_iff.mp h
  obtain ⟨y0, hy0, h⟩ := bind_eq_ok_iff.mp h
  obtain ⟨y1, hy1, -⟩ := bind_eq_ok_iff.mp h
  exact ⟨x0, x1, y0, y1, by
    simpa using (forall₂_word_iff _ fieldModulus_le_room [x0, x1, y0, y1] 0
      (sized_eq_ok_iff.mp hlength)).mp (.cons hx0 (.cons hx1 (.cons hy0 (.cons hy1 .nil))))⟩

/-- A point of the first group is read exactly from the encoding of a member. -/
theorem point₁_eq_ok_iff [E.g₁.Lawful] [E.g₁.OriginFree] {P : Point Fq} :
    point₁ E data = .ok P ↔ data = Encoding.point₁ P ∧ E.g₁.contains P = true := by
  constructor
  · intro h
    obtain ⟨x, y, rfl⟩ := exists_words₁ h
    rw [point₁_words] at h
    split at h
    · next hzero =>
      simp only [Bool.and_eq_true, decide_eq_true_eq] at hzero
      rw [← Except.ok.inj h, Encoding.point₁_none, hzero.1, hzero.2]
      exact ⟨rfl, PointGroup.Lawful.contains_none⟩
    · split at h
      · next hmember =>
        rw [← Except.ok.inj h]
        exact ⟨rfl, hmember⟩
      · cases h
  · rintro ⟨rfl, hmember⟩
    cases P with
    | none => rw [Encoding.point₁_none, point₁_words]; rfl
    | some P =>
      have hne := PointGroup.OriginFree.not_and hmember
      rw [Encoding.point₁, point₁_words, if_neg (by simpa using hne), if_pos hmember]

/-- A point of the second group is read exactly from the encoding of a member. -/
theorem point₂_eq_ok_iff [E.g₂.Lawful] [E.g₂.OriginFree] {Q : Point Fq2} :
    point₂ E data = .ok Q ↔ data = Encoding.point₂ Q ∧ E.g₂.contains Q = true := by
  constructor
  · intro h
    obtain ⟨x0, x1, y0, y1, rfl⟩ := exists_words₂ h
    rw [point₂_words] at h
    split at h
    · next hzero =>
      simp only [Bool.and_eq_true, decide_eq_true_eq] at hzero
      obtain ⟨hx, hy⟩ := hzero
      cases hx
      cases hy
      rw [← Except.ok.inj h, Encoding.point₂_none]
      exact ⟨rfl, PointGroup.Lawful.contains_none⟩
    · split at h
      · next hmember =>
        rw [← Except.ok.inj h]
        exact ⟨rfl, hmember⟩
      · cases h
  · rintro ⟨rfl, hmember⟩
    cases Q with
    | none => rw [Encoding.point₂_none, point₂_words]; rfl
    | some Q =>
      have hne := PointGroup.OriginFree.not_and hmember
      rw [Encoding.point₂, point₂_words, if_neg (by simpa using hne), if_pos hmember]

/-! ### Refusals -/

/-- Bytes of another length are malformed. -/
theorem fails_sized {count : ℕ} : Fails Failure.IsMalformed (sized part count data) := by
  unfold sized
  split
  · exact .ok
  · exact .error ⟨_, rfl⟩

/-- A word out of range is malformed. -/
theorem fails_word : Fails Failure.IsMalformed (word part n data k) := by
  unfold word
  dsimp only
  split
  · exact .ok
  · exact .error ⟨_, rfl⟩

/-- Bytes that encode no scalar are malformed. -/
theorem fails_scalar : Fails Failure.IsMalformed (scalar data) :=
  .bind fails_sized fun _ _ => fails_word

/-- Bytes that encode no point of the first group are malformed. -/
theorem fails_point₁ : Fails Failure.IsMalformed (point₁ E data) := by
  refine .bind fails_sized fun _ _ => .bind fails_word fun _ _ => .bind fails_word fun _ _ => ?_
  split
  · exact .ok
  · split
    · exact .ok
    · exact .error ⟨_, rfl⟩

/-- Bytes that encode no point of the second group are malformed. -/
theorem fails_point₂ : Fails Failure.IsMalformed (point₂ E data) := by
  refine .bind fails_sized fun _ _ => .bind fails_word fun _ _ => .bind fails_word fun _ _ =>
    .bind fails_word fun _ _ => .bind fails_word fun _ _ => ?_
  dsimp only
  split
  · exact .ok
  · split
    · exact .ok
    · exact .error ⟨_, rfl⟩

end Decoding

end PolyCommit

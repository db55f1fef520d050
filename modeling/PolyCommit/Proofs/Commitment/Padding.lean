import PolyCommit.Proofs.Commitment.Opening
import PolyCommit.Proofs.Polynomial.Division

/-!
# Padding changes nothing

Zeros in front of a polynomial and values behind the coefficients that the degree reads leave its
value, its commitment and its witnesses as they are, while the key is large enough for them to be
read. No law of the points is needed: the zeros are the last terms of a window and are skipped, and
in a division they only put as many zeros in front of the quotient. A smaller degree drops the
lowest coefficients instead and lowers all other powers of the point.
-/

namespace PolyCommit

namespace Poly

/-- Zeros in front of a polynomial leave its value as it is. -/
theorem eval_replicate_append (k : ℕ) (p : Poly) (z : Fr) :
    eval (List.replicate k 0 ++ p) z = eval p z := by
  induction k with
  | zero => rfl
  | succ k ih => rw [List.replicate_succ, List.cons_append, eval_cons, zero_mul, zero_add, ih]

/-- Zeros in front of a polynomial are zeros in front of its quotient. -/
theorem quotientAt_replicate_append (k : ℕ) {p : Poly} (hp : p ≠ []) (z : Fr) :
    quotientAt (List.replicate k 0 ++ p) z = List.replicate k 0 ++ quotientAt p z := by
  rw [quotientAt_eq_divide, quotientAt_eq_divide]
  induction k with
  | zero => rfl
  | succ k ih =>
    obtain ⟨c, q, hq⟩ := List.exists_cons_of_ne_nil (List.append_ne_nil_of_right_ne_nil
      (List.replicate k 0) hp)
    rw [List.replicate_succ, List.cons_append, List.cons_append, ← ih, hq, divide, divideFrom,
      zero_mul, add_zero, divide]

/-- The coefficients that a degree reads behind zeros and in front of unread values. -/
theorem standFor_padded {zeros xs : List Value} {p : Poly} (hzeros : ∀ v ∈ zeros, v.toFr = .ok 0)
    (hp : StandFor xs p) (junk : List Value) :
    StandFor ((zeros ++ xs ++ junk).take (zeros.length + xs.length))
      (List.replicate zeros.length 0 ++ p) := by
  rw [← List.length_append, List.take_left]
  exact (standFor_replicate_zero hzeros).append hp

end Poly

namespace PairingSystem

section AnyPoints

variable {T : Type} {E : PairingSystem T} {key : Key} {zeros xs : List Value} {p : Poly}

/-- Opening a polynomial with zeros in front is opening the polynomial. -/
theorem openPolynomial_replicate_append (hp : p ≠ []) (k : ℕ) :
    E.openPolynomial key (k + p.length) (List.replicate k 0 ++ p) =
      E.openPolynomial key p.length p := by
  have hpos : 1 ≤ p.length := List.length_pos_iff.mpr hp
  have hpadded : (List.replicate k 0 ++ p).length = k + p.length := by
    rw [List.length_append, List.length_replicate]
  have hwide : ((k + p.length : ℕ) - 1 : ℤ) = (k + (p.length - 1) : ℕ) := by omega
  have hnarrow : (p.length - 1 : ℤ) = (p.length - 1 : ℕ) := by omega
  funext z
  rw [openPolynomial_eq (by omega) hpadded, openPolynomial_eq hpos rfl,
    Poly.eval_replicate_append, Poly.quotientAt_replicate_append k hp, List.map_append,
    List.map_replicate, Window.sum_offset 1 (k + p.length : ℕ), hwide,
    Window.sum_replicate_append, Window.sum_offset 1 p.length, hnarrow]

/-- Padded coefficients are as many as their degree at least. -/
theorem length_padded_le (zeros xs junk : List Value) :
    zeros.length + xs.length ≤ (zeros ++ xs ++ junk).length := by
  rw [List.length_append, List.length_append]
  exact Nat.le_add_right _ _

/-- Committing to padded coefficients. -/
theorem commit_padded (hzeros : ∀ v ∈ zeros, v.toFr = .ok 0) (hp : Poly.StandFor xs p)
    (junk : List Value) (hn : 1 ≤ xs.length) (hsize : zeros.length + xs.length ≤ key.size₁) :
    E.commit key (.list (zeros ++ xs ++ junk)) (.int (zeros.length + xs.length : ℕ)) =
      E.commit key (.list xs) (.int xs.length) := by
  have htake := hp.take_of_length_le (le_refl xs.length)
  rw [commit_eq_sum (by omega) hsize (length_padded_le zeros xs junk)
      (Poly.standFor_padded hzeros hp junk),
    commit_eq_sum hn (by omega) le_rfl htake, List.map_append, List.map_replicate,
    Window.sum_replicate_append]

/-- Opening padded coefficients, at a point that is a number or not. -/
theorem openAt_padded (hzeros : ∀ v ∈ zeros, v.toFr = .ok 0) (hp : Poly.StandFor xs p)
    (junk : List Value) (hn : 2 ≤ xs.length) (hsize : zeros.length + xs.length ≤ key.size₁)
    (point : Value) :
    E.openAt key (.list (zeros ++ xs ++ junk)) point (.int (zeros.length + xs.length : ℕ)) =
      E.openAt key (.list xs) point (.int xs.length) := by
  have htake := hp.take_of_length_le (le_refl xs.length)
  have hne : p ≠ [] := hp.ne_nil_iff.mpr (List.ne_nil_of_length_pos (by omega))
  rw [openAt_eq_openPolynomial (by omega) hsize (length_padded_le zeros xs junk)
      (Poly.standFor_padded hzeros hp junk),
    openAt_eq_openPolynomial hn (by omega) le_rfl htake, hp.length_eq,
    openPolynomial_replicate_append hne]

end AnyPoints

/-- For any key, on the curve or not, coefficients have the value, the commitment and the witness
that they have with zeros in front and any values behind. Their value is that at a smaller degree,
times a power of the point, and that of the coefficients which it drops. -/
theorem padding_invariant (key : Key) {zeros xs : List Value}
    (hzeros : ∀ v ∈ zeros, v.toFr = .ok 0) (hxs : ∀ v ∈ xs, v.number?.isSome) (junk : List Value)
    {point : Value} {z : Fr} (hz : point.toFr = .ok z) :
    (∃ y,
      Poly.evaluate (.list (zeros ++ xs ++ junk)) point (.int (zeros.length + xs.length : ℕ)) =
        .ok y ∧
      Poly.evaluate (.list xs) point (.int xs.length) = .ok y) ∧
    (1 ≤ xs.length → zeros.length + xs.length ≤ key.size₁ → ∃ C,
      bn254.commit key (.list (zeros ++ xs ++ junk)) (.int (zeros.length + xs.length : ℕ)) =
        .ok C ∧
      bn254.commit key (.list xs) (.int xs.length) = .ok C) ∧
    (2 ≤ xs.length → zeros.length + xs.length ≤ key.size₁ → ∃ w,
      bn254.openAt key (.list (zeros ++ xs ++ junk)) point
        (.int (zeros.length + xs.length : ℕ)) = .ok w ∧
      bn254.openAt key (.list xs) point (.int xs.length) = .ok w) ∧
    ∀ d ≤ xs.length, ∃ y u v,
      Poly.evaluate (.list xs) point (.int xs.length) = .ok y ∧
      Poly.evaluate (.list xs) point (.int d) = .ok u ∧
      Poly.evaluate (.list (xs.drop d)) point (.int (xs.length - d : ℕ)) = .ok v ∧
      y = u * z ^ (xs.length - d) + v := by
  obtain ⟨p, hp⟩ := Poly.exists_standFor hxs
  have htake := hp.take_of_length_le (le_refl xs.length)
  have hlength := hp.length_eq
  have hvalue : Poly.evaluate (.list xs) point (.int xs.length) = .ok (p.eval z) :=
    Poly.evaluate_list_of_toFr le_rfl htake hz
  refine ⟨⟨p.eval z, ?_, hvalue⟩, ?_, ?_, ?_⟩
  · rw [Poly.evaluate_list_of_toFr (length_padded_le zeros xs junk)
      (Poly.standFor_padded hzeros hp junk) hz, Poly.eval_replicate_append]
  · intro hn hsize
    obtain ⟨C, hC⟩ := Window.exists_sum (G := bn254.g₁) hlength.le
      (show xs.length ≤ key.points₁.length by rw [Key.length_points₁]; omega)
    rw [commit_padded hzeros hp junk hn hsize, commit_eq_sum hn (by omega) le_rfl htake]
    exact ⟨C, hC, hC⟩
  · intro hn hsize
    obtain ⟨C, -, hC⟩ := exists_sum_quotientAt (E := bn254) (show 1 ≤ xs.length by omega)
      (show xs.length ≤ key.size₁ by omega) hlength.symm z
    rw [openAt_padded hzeros hp junk hn hsize, openAt_eq_sum hn (by omega) le_rfl htake hz, hC]
    exact ⟨_, rfl, rfl⟩
  · intro d hd
    have hdrop : Poly.StandFor (xs.drop d) (p.drop d) := List.forall₂_drop d hp
    have hlow := hdrop.take_of_length_le List.length_drop.le
    have hsplit := Poly.eval_append (p.take d) (p.drop d) z
    rw [List.take_append_drop, List.length_drop, ← hlength] at hsplit
    exact ⟨_, _, _, hvalue, Poly.evaluate_list_of_toFr hd (List.forall₂_take d hp) hz,
      Poly.evaluate_list_of_toFr List.length_drop.ge hlow hz, hsplit⟩

/-- Under a key of points that are not on the curve, `3x - 2` with a zero and a false truth value in
front, and a text and a null behind. -/
theorem padding_invariant_offCurve : ∃ key : Key,
    (∀ P ∈ key.points₁, Bn254.onCurve₁ P = false) ∧
    (∃ C,
      bn254.commit key (.list [.int 0, .bool false, .int 3, .int (-2), .str [], .null]) (.int 4) =
        .ok C ∧
      bn254.commit key (.list [.int 3, .int (-2)]) (.int 2) = .ok C) ∧
    ∃ w,
      bn254.openAt key (.list [.int 0, .bool false, .int 3, .int (-2), .str [], .null]) (.int 5)
        (.int 4) = .ok w ∧
      bn254.openAt key (.list [.int 3, .int (-2)]) (.int 5) (.int 2) = .ok w := by
  obtain ⟨key, hpoints, hsize⟩ : ∃ key : Key,
      (∀ P ∈ key.points₁, Bn254.onCurve₁ P = false) ∧ key.size₁ = 4 :=
    ⟨⟨[⟨0, 0⟩, ⟨1, 1⟩, ⟨5, 7⟩, ⟨2, 2⟩], [Bn254.base₂], by simp, by simp⟩, by decide, rfl⟩
  have hzeros : ∀ v ∈ [Value.int 0, .bool false], v.toFr = .ok 0 := by
    simpa using ⟨rfl, rfl⟩
  have hxs : ∀ v ∈ [Value.int 3, .int (-2)], v.number?.isSome := by decide
  have hz : (Value.int 5).toFr = .ok 5 := rfl
  obtain ⟨-, hcommit, hopen, -⟩ := padding_invariant key hzeros hxs [.str [], .null] hz
  exact ⟨key, hpoints, hcommit (by decide) hsize.ge, hopen (by decide) hsize.ge⟩

end PairingSystem

end PolyCommit

import PolyCommit.Proofs.Commitment.Outcomes
import PolyCommit.Proofs.Commitment.Totality

/-!
# The library fails by refusing

Whatever the values of a list are, and whatever points the key has, committing, and evaluating and
opening at a scalar, either succeed or refuse the degree or the coefficients, for every degree that
a refusal can quote. The same goes for verification under a key of members. No failure of theirs is
a fault.
-/

namespace PolyCommit

open Outcome

section Checks

variable {α : Type} {least : ℕ} {size : Option ℕ} {xs : List Value} {point : Option Value}
  {degree : Value}

/-- Only a point that is no number leads to a fault. -/
theorem Outcome.expected_ne_fault (hpoint : ∀ v ∈ point, v.number?.isSome) (f : Fault) :
    expected least size xs point degree ≠ .fault f := by
  have hnumber : ¬∃ v ∈ point, v.number? = none := by
    rintro ⟨v, hv, hnone⟩
    have hsome := hpoint v hv
    rw [hnone] at hsome
    cases hsome
  cases degree with
  | int d =>
    rw [expected, if_neg hnumber]
    split_ifs <;> exact nofun
  | _ => exact nofun

/-- What fails in its checks alone is refused, if there is no such point and the degree can be
quoted. -/
theorem Outcome.FailsInChecks.fails {run : Value → Value → Except Failure α}
    (h : FailsInChecks least size point run) (hleast : least ≤ 2)
    (hpoint : ∀ v ∈ point, v.number?.isSome) (hquote : IsQuotable xs degree) :
    Fails Failure.IsRefused (run (.list xs) degree) := by
  intro e he
  cases e with
  | refused r => exact ⟨r, rfl⟩
  | fault f =>
    have hof := h.of_eq hleast hquote
    rw [he] at hof
    exact absurd hof.symm (expected_ne_fault hpoint f)

end Checks

/-- A value is computed unless the degree or the polynomial is refused. -/
theorem Poly.fails_evaluate {xs : List Value} {z : Fr} {degree : Value}
    (hquote : IsQuotable xs degree) :
    Fails Failure.IsRefused (evaluate (.list xs) (.scalar z) degree) :=
  (failsInChecks_evaluate (.scalar z)).fails (by decide) (by simp [Value.number?]) hquote

namespace PairingSystem

variable {T : Type} {E : PairingSystem T} {key : Key}

/-- A commitment is made unless the degree or the polynomial is refused. -/
theorem fails_commit {xs : List Value} {degree : Value} (hquote : IsQuotable xs degree) :
    Fails Failure.IsRefused (E.commit key (.list xs) degree) :=
  (failsInChecks_commit E key).fails (by decide) nofun hquote

/-- A witness is made unless the degree or the polynomial is refused. -/
theorem fails_openAt {xs : List Value} {z : Fr} {degree : Value} (hquote : IsQuotable xs degree) :
    Fails Failure.IsRefused (E.openAt key (.list xs) (.scalar z) degree) :=
  (failsInChecks_openAt E key (.scalar z)).fails (by decide) (by simp [Value.number?]) hquote

/-- Verification answers unless the key is refused. -/
theorem fails_verify [E.g₂.Lawful] [Mul T] [DecidableEq T] (hE : E.IsTotal)
    (hkey : key.IsContained E) {commitment : Point Fq}
    (hcommitment : E.g₁.contains commitment = true) {w : Witness} (hw : w.IsContained E) :
    Fails Failure.IsRefused (E.verify key commitment w) := by
  have hpos : 1 ≤ key.size₂ := List.length_pos_iff.mpr key.powers₂_ne_nil
  obtain hsize | hsize : 2 ≤ key.size₂ ∨ key.size₂ = 1 := by omega
  · obtain ⟨accepted, haccepted⟩ := exists_verify hE hkey hsize hcommitment hw
    rw [haccepted]
    exact .ok
  · rw [verify_of_size₂_eq_one hsize]
    exact .error ⟨_, rfl⟩

end PairingSystem

end PolyCommit

/-!
# Repeated combination

Powers and scalar multiples are one recursion over the binary digits of the exponent: combine the
base with itself, halve the exponent, and put the base back in when the exponent is odd.
-/

namespace PolyCommit

/-- `x` combined with itself `k` times under `op`; `unit` when `k` is zero. -/
@[specialize] def repeated {G : Type} (op : G → G → G) (unit : G) (k : Nat) (x : G) : G :=
  if k = 0 then unit
  else
    let half := repeated op unit (k / 2) (op x x)
    if k % 2 = 0 then half else op half x
termination_by k

/-- Nothing repeated is the unit. -/
@[simp] theorem repeated_zero {G : Type} (op : G → G → G) (unit x : G) :
    repeated op unit 0 x = unit := by
  rw [repeated, if_pos rfl]

/-- An even exponent halves, an odd one leaves one factor over. -/
theorem repeated_of_ne_zero {G : Type} (op : G → G → G) (unit x : G) {k : Nat} (hk : k ≠ 0) :
    repeated op unit k x =
      if k % 2 = 0 then repeated op unit (k / 2) (op x x)
      else op (repeated op unit (k / 2) (op x x)) x := by
  rw [repeated, if_neg hk]

end PolyCommit

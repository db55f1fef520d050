import PolyCommit.Text.Basic

/-!
# Punycode

A text spelled in ASCII. Its ASCII code points come first as they are, then a hyphen if there are
any. The others follow in ascending order, each as a number that says how far to count through code
points and places from the one before. The numbers have digits of a base of 36, the lowest first,
and the digit that is below its threshold is the last.
-/

namespace PolyCommit

namespace Punycode

/-- The digit with a value below 36: a small letter, or then a decimal digit. -/
def digit (d : Nat) : CodePoint := CodePoint.ofNat (if d < 26 then 0x61 + d else 0x16 + d)

/-- The value of a digit of either case. -/
def digitValue? (c : CodePoint) : Option Nat :=
  if 0x61 ≤ c.val && c.val ≤ 0x7a then some (c.val - 0x61)
  else if 0x41 ≤ c.val && c.val ≤ 0x5a then some (c.val - 0x41)
  else if 0x30 ≤ c.val && c.val ≤ 0x39 then some (c.val - 0x16)
  else none

/-- The threshold of a digit whose place is counted in steps of 36. -/
def threshold (bias place : Nat) : Nat := max 1 (min 26 (place - bias))

/-- A threshold is from one to 26. -/
theorem threshold_bounds (bias place : Nat) :
    1 ≤ threshold bias place ∧ threshold bias place ≤ 26 := by
  unfold threshold
  omega

/-- The digits of a number, from a place on. -/
def digits (bias place n : Nat) : Text :=
  let t := threshold bias place
  if n < t then [digit n]
  else digit (t + (n - t) % (36 - t)) :: digits bias (place + 36) ((n - t) / (36 - t))
termination_by n
decreasing_by
  have h := threshold_bounds bias place
  exact Nat.lt_of_le_of_lt (Nat.div_le_self _ _) (by omega)

/-- A number read from digits with a weight, from a place on, and what follows. -/
def number? (bias place weight sum : Nat) : Text → Option (Nat × Text)
  | [] => none
  | c :: s =>
    match digitValue? c with
    | none => none
    | some d =>
      let t := threshold bias place
      if d < t then some (sum + d * weight, s)
      else number? bias (place + 36) (weight * (36 - t)) (sum + d * weight) s

/-- Reading a number takes digits away. -/
theorem length_number?_lt {bias place weight sum : Nat} {s : Text} {r : Nat × Text}
    (h : number? bias place weight sum s = some r) : r.2.length < s.length := by
  induction s generalizing place weight sum with
  | nil => simp [number?] at h
  | cons c s ih =>
    rw [number?] at h
    split at h
    · simp at h
    · next d _ =>
      simp only at h
      split at h
      · rw [← Option.some.inj h]
        exact Nat.lt_succ_self _
      · exact Nat.lt_succ_of_lt (ih h)

/-- A number divided by 35 until it is small, with the steps of 36 that this took. -/
def settle (n steps : Nat) : Nat × Nat :=
  if 455 < n then settle (n / 35) (steps + 36) else (n, steps)
termination_by n
decreasing_by exact Nat.div_lt_self (by omega) (by omega)

/-- The bias after a number, the first or a later one, when `count` code points are there. -/
def adapt (n count : Nat) (first : Bool) : Nat :=
  let n := if first then n / 700 else n / 2
  let (n, steps) := settle (n + n / count) 0
  steps + 36 * n / (n + 38)

/-- What is known between two numbers of a spelling: what is written, the count that has run up
since the last number, the bias, and how many code points are dealt with. -/
structure Progress where
  written : Text
  count : Nat
  bias : Nat
  done : Nat

/-- Look at one code point when `next` is the one to be spelled; `basic` are ASCII. -/
def Progress.step (basic next : Nat) (p : Progress) (c : CodePoint) : Progress :=
  if c.val < next then { p with count := p.count + 1 }
  else if c.val = next then
    { written := p.written ++ digits p.bias 36 p.count
      count := 0
      bias := adapt p.count (p.done + 1) (p.done = basic)
      done := p.done + 1 }
  else p

/-- Spell every occurrence of some code points, in ascending order, from `least` on. -/
def spell (s : Text) (basic : Nat) : List Nat → Nat → Progress → Progress
  | [], _, p => p
  | next :: rest, least, p =>
    let p := { p with count := p.count + (next - least) * (p.done + 1) }
    let p := s.foldl (Progress.step basic next) p
    spell s basic rest (next + 1) { p with count := p.count + 1 }

/-- The numbers of a list in ascending order, each once. -/
def ascending (ns : List Nat) : List Nat := (ns.mergeSort (· ≤ ·)).eraseDups

/-- The spelling of a text. -/
def encode (s : Text) : Text :=
  let basic := s.filter fun c => c.val < 0x80
  let others := ascending ((s.filter fun c => 0x80 ≤ c.val).map (·.val))
  let p := spell s basic.length others 0x80 ⟨[], 0, 72, basic.length⟩
  if basic.isEmpty then p.written else basic ++ CodePoint.ofChar '-' :: p.written

/-- Put code points into a text, each by a number. The next one is at least `least`, and if it is
equal to it stands at `place` or later. -/
def insertAll (first : Bool) (bias least place : Nat) (s spelled : Text) : Option Text :=
  if spelled.isEmpty then some s
  else
    match _taken : number? bias 36 1 0 spelled with
    | none => none
    | some (n, rest) =>
      let size := s.length + 1
      let reach := place + n
      if bound : least + reach / size < 0x110000 then
        insertAll false (adapt n size first) (least + reach / size) (reach % size + 1)
          (s.insertIdx (reach % size) ⟨_, bound⟩) rest
      else none
termination_by spelled.length
decreasing_by exact length_number?_lt ‹_›

/-- The text that a spelling stands for. -/
def decode? (s : Text) : Option Text :=
  match Text.cut (CodePoint.ofChar '-') s.reverse with
  | (others, some basic) => insertAll true 72 0x80 0 basic.reverse others.reverse
  | (others, none) => insertAll true 72 0x80 0 [] others.reverse

end Punycode

end PolyCommit

import PolyCommit.Key.Basic
import PolyCommit.Bytes.Sha256
import PolyCommit.Text.Utf8

/-!
# Making a key

A key comes from three secrets: a multiplier for each standard generator, and the hidden scalar
whose powers the key lists. The secrets are drawn at random or derived from a seed by hashing;
either way none of them is zero. They are not part of the key.
-/

namespace PolyCommit

/-- The random numbers that are still to come; zero once they are used up. -/
abbrev Draws := List Int

namespace Draws

/-- The next number, reduced below `n`. -/
def next (n : Nat) : Draws → Nat × Draws
  | [] => (0, [])
  | k :: rest => ((k % n).toNat, rest)

/-- A scalar from the next number. -/
def scalar (draws : Draws) : Fr × Draws :=
  ((Residue.ofNat (draws.next groupOrder).1), (draws.next groupOrder).2)

/-- A scalar other than zero from the next number. -/
def nonzeroScalar (draws : Draws) : Fr × Draws :=
  (Residue.ofNat ((draws.next (groupOrder - 1)).1 + 1), (draws.next (groupOrder - 1)).2)

end Draws

/-- The secrets behind a key: the multipliers of the two generators and the hidden scalar. -/
structure Secrets where
  generator₁ : Fr
  generator₂ : Fr
  hidden : Fr

namespace Secrets

/-- Secrets at random, drawn in the order of the fields. -/
def draw (draws : Draws) : Secrets × Draws :=
  let (g, draws) := draws.nonzeroScalar
  let (h, draws) := draws.nonzeroScalar
  let (a, draws) := draws.nonzeroScalar
  (⟨g, h, a⟩, draws)

/-- The text of a seed: a text as it is, any other value as its literal, if its integers are short
enough for one. -/
def seedText : Value → Except Failure Text
  | .str s => .ok s
  | v => if v.isWritable then .ok v.literal else .error .badValue

/-- The secret with a given label: the hash of the seed, a colon and the label, brought between one
and the last scalar. Only a text with a lone surrogate has no bytes to hash. -/
def seeded (hash : Bytes → Digest) (seed : Value) (label : String) : Except Failure Fr := do
  match Text.utf8? ((← seedText seed) ++ Text.ofString (":" ++ label)) with
  | some bytes => .ok (Residue.ofNat ((hash bytes).toNat % (groupOrder - 1) + 1))
  | none => .error .loneSurrogate

/-- Secrets from a seed. -/
def ofSeed (hash : Bytes → Digest) (seed : Value) : Except Failure Secrets := do
  let g ← seeded hash seed "g1"
  let h ← seeded hash seed "g2"
  let a ← seeded hash seed "trapdoor"
  return ⟨g, h, a⟩

/-- The secrets that a seed gives, or the next draws if there is none. -/
def choose (hash : Bytes → Digest) (seed : Value) (draws : Draws) : Except Failure Secrets :=
  match seed with
  | .null => .ok (draw draws).1
  | seed => ofSeed hash seed

end Secrets

namespace Key

/-- The powers of `a` after `w`: `w·a, w·a², …`, as many as `count`. -/
def powersAfter (a w : Fr) : Nat → List Fr
  | 0 => []
  | count + 1 => (w * a) :: powersAfter a (w * a) count

/-- A generator followed by its multiples by the first `t` powers of the hidden scalar. -/
def ladder {F : Type} (G : PointGroup F) (generator : Point F) (a : Fr) (t : Nat) :
    List (Point F) :=
  generator :: (powersAfter a 1 t).map fun w => G.scale w generator

variable {T : Type}

/-- The key with powers up to `t` that belongs to the secrets. -/
def ofSecrets (E : PairingSystem T) (s : Secrets) (t : Nat) : Except Failure Key :=
  ofPoints (ladder E.g₁ (E.g₁.scale s.generator₁ E.g₁.base) s.hidden t)
    (ladder E.g₂ (E.g₂.scale s.generator₂ E.g₂.base) s.hidden t)

/-- The highest power that a value asks for: an integer from one on. -/
def bound (v : Value) : Except Failure Nat :=
  match v.integer? with
  | none => .error (.quoting (.degree (.boundNotInteger v)))
  | some t =>
    if t < 1 then .error (.quoting (.degree (.boundNotPositive t))) else .ok t.toNat

/-- A key from a seed. -/
def ofSeed (E : PairingSystem T) (hash : Bytes → Digest) (t seed : Value) :
    Except Failure Key := do
  let t ← bound t
  ofSecrets E (← Secrets.ofSeed hash seed) t

/-- A key at random, and the numbers that are left. Nothing is drawn for a bound that is refused. -/
def generate (E : PairingSystem T) (t : Value) (draws : Draws) : Except Failure Key × Draws :=
  match bound t with
  | .error e => (.error e, draws)
  | .ok t =>
    let (secrets, rest) := Secrets.draw draws
    (ofSecrets E secrets t, rest)

/-- A key from a seed, or at random if there is none, and the numbers that are left. -/
def setup (E : PairingSystem T) (hash : Bytes → Digest) (t seed : Value) (draws : Draws) :
    Except Failure Key × Draws :=
  match seed with
  | .null => generate E t draws
  | seed => (ofSeed E hash t seed, draws)

end Key

end PolyCommit

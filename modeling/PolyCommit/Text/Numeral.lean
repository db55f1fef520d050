import PolyCommit.Text.Blank
import PolyCommit.Text.DecimalDigit

/-!
# Numerals

Integers as text. Written numerals are canonical: ASCII digits, no leading zero, a minus sign for a
negative integer. Two readers accept more. `decimal?` takes digits of any script and nothing else;
`integer?` also allows surrounding white space, one sign and single low lines between digits. Both
give up above `digitLimit` digits.
-/

namespace PolyCommit

namespace Text

/-- The most digits that a numeral may have. -/
def digitLimit : Nat := 4300

/-- The decimal digits of `n`, highest first, put in front of `acc`. -/
def digitsOnto (n : Nat) (acc : List Nat) : List Nat :=
  if n < 10 then n :: acc else digitsOnto (n / 10) (n % 10 :: acc)

/-- The number with the given decimal digits, highest first. -/
def ofDigits (ds : List Nat) : Nat := ds.foldl (fun n d => 10 * n + d) 0

/-- The ASCII digit of a value below ten. -/
def asciiDigit (d : Nat) : CodePoint := CodePoint.ofNat (0x30 + d)

/-- The numeral of a natural number. -/
def ofNat (n : Nat) : Text := (digitsOnto n []).map asciiDigit

/-- The numeral of an integer. -/
def ofInt : Int → Text
  | .ofNat n => ofNat n
  | .negSucc n => CodePoint.ofChar '-' :: ofNat (n + 1)

/-- What reading digits can end in. -/
inductive Reading
  /-- The text is no numeral. -/
  | refused
  /-- The text is a numeral of too many digits. -/
  | tooLong
  /-- The text stands for this number. -/
  | number (n : Nat)
  deriving DecidableEq

/-- The number of a list of digits within the limit. -/
def Reading.ofDigits (ds : List Nat) : Reading :=
  if digitLimit < ds.length then .tooLong else .number (Text.ofDigits ds)

/-- Read a text of decimal digits alone. -/
def decimal (s : Text) : Reading :=
  match s.mapM CodePoint.digit? with
  | none | some [] => .refused
  | some ds => .ofDigits ds

/-- The digits of a text of digits with single low lines between them. -/
def groupedDigits : Text → Option (List Nat)
  | [] => none
  | c :: s =>
    match c.digit?, s with
    | none, _ => none
    | some d, [] => some [d]
    | some d, u :: rest =>
      if u = CodePoint.ofChar '_' then (groupedDigits rest).map (d :: ·)
      else (groupedDigits (u :: rest)).map (d :: ·)

/-- Read an integer: white space around it, at most one sign, digits with single low lines between
them. -/
def integer? (s : Text) : Option Int := do
  let body := s.trim CodePoint.isBlank
  let (negative, digits) := match body with
    | c :: rest =>
      if c = CodePoint.ofChar '-' then (true, rest)
      else if c = CodePoint.ofChar '+' then (false, rest)
      else (false, body)
    | [] => (false, [])
  match Reading.ofDigits (← groupedDigits digits) with
  | .number n => some (if negative then -(n : Int) else n)
  | _ => none

/-- A digit in front of an accumulator shifts by the length of what follows. -/
theorem foldl_digits (ds : List Nat) (n : Nat) :
    ds.foldl (fun n d => 10 * n + d) n = n * Nat.pow 10 ds.length + ofDigits ds := by
  unfold ofDigits
  induction ds generalizing n with
  | nil => simp
  | cons d ds ih =>
    rw [List.foldl_cons, List.foldl_cons, ih, ih (10 * 0 + d)]
    change (10 * n + d) * Nat.pow 10 ds.length + ofDigits ds =
      n * (Nat.pow 10 ds.length * 10) + ((10 * 0 + d) * Nat.pow 10 ds.length + ofDigits ds)
    rw [Nat.add_mul, Nat.mul_zero, Nat.zero_add, Nat.add_assoc, Nat.mul_comm 10 n, Nat.mul_assoc,
      Nat.mul_comm 10]

/-- Writing digits in front of others keeps the value of both. -/
theorem ofDigits_digitsOnto (n : Nat) (acc : List Nat) :
    ofDigits (digitsOnto n acc) = n * Nat.pow 10 acc.length + ofDigits acc := by
  induction n using Nat.strongRecOn generalizing acc with
  | ind n ih =>
    rw [digitsOnto]
    split
    · rw [ofDigits, List.foldl_cons, foldl_digits]
      simp
    · next h =>
      rw [ih (n / 10) (by omega), ofDigits, List.foldl_cons, foldl_digits]
      change n / 10 * (Nat.pow 10 acc.length * 10) +
        ((10 * 0 + n % 10) * Nat.pow 10 acc.length + ofDigits acc) = _
      rw [← Nat.add_assoc, Nat.mul_zero, Nat.zero_add, ← Nat.mul_assoc, Nat.mul_right_comm,
        ← Nat.add_mul, Nat.mul_comm (n / 10) 10, Nat.div_add_mod]

/-- The digits of a numeral are below ten. -/
theorem lt_ten_of_mem_digitsOnto {n : Nat} {acc : List Nat} (hacc : ∀ d ∈ acc, d < 10) :
    ∀ d ∈ digitsOnto n acc, d < 10 := by
  induction n using Nat.strongRecOn generalizing acc with
  | ind n ih =>
    rw [digitsOnto]
    split
    · intro d hd
      rcases List.mem_cons.mp hd with rfl | hd
      · assumption
      · exact hacc d hd
    · apply ih (n / 10) (by omega)
      intro d hd
      rcases List.mem_cons.mp hd with rfl | hd
      · omega
      · exact hacc d hd

end Text

end PolyCommit

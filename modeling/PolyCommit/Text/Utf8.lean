import PolyCommit.Text.Basic

/-!
# UTF-8

The encoding form of a text as bytes. Writing is strict: a surrogate standing alone has no bytes.
Reading passes surrogates, and refuses a code point that is spelled longer than it need be.
-/

namespace PolyCommit

namespace CodePoint

/-- The bytes of one code point. -/
def utf8? (c : CodePoint) : Option (List UInt8) :=
  let byte (n : Nat) : UInt8 := UInt8.ofNat n
  let tail (n : Nat) : UInt8 := byte (0x80 + n % 0x40)
  let v := c.val
  if v < 0x80 then some [byte v]
  else if v < 0x800 then some [byte (0xc0 + v / 0x40), tail v]
  else if c.isSurrogate then none
  else if v < 0x10000 then some [byte (0xe0 + v / 0x1000), tail (v / 0x40), tail v]
  else some [byte (0xf0 + v / 0x40000), tail (v / 0x1000), tail (v / 0x40), tail v]

/-- The six bits that a byte after the first adds to a code point. -/
def tailBits? (b : UInt8) : Option Nat :=
  if 0x80 ≤ b.toNat && b.toNat < 0xc0 then some (b.toNat - 0x80) else none

/-- The code point with a number from `least` on; a smaller one would have had fewer bytes. -/
def atLeast? (least n : Nat) : Option CodePoint :=
  if h : least ≤ n ∧ n < 0x110000 then some ⟨n, h.2⟩ else none

end CodePoint

namespace Text

/-- The bytes of a text. -/
def utf8? (s : Text) : Option (List UInt8) := (s.mapM CodePoint.utf8?).map List.flatten

/-- The text of bytes. -/
def ofUtf8? : List UInt8 → Option Text
  | [] => some []
  | a :: rest =>
    if a.toNat < 0x80 then do
      return CodePoint.ofNat a.toNat :: (← ofUtf8? rest)
    else
      match rest with
      | [] => none
      | b :: rest =>
        if a.toNat < 0xe0 then do
          let n := (a.toNat - 0xc0) * 0x40 + (← CodePoint.tailBits? b)
          return (← CodePoint.atLeast? 0x80 n) :: (← ofUtf8? rest)
        else
          match rest with
          | [] => none
          | c :: rest =>
            if a.toNat < 0xf0 then do
              let n := ((a.toNat - 0xe0) * 0x40 + (← CodePoint.tailBits? b)) * 0x40
                + (← CodePoint.tailBits? c)
              return (← CodePoint.atLeast? 0x800 n) :: (← ofUtf8? rest)
            else
              match rest with
              | [] => none
              | d :: rest => do
                let n := (((a.toNat - 0xf0) * 0x40 + (← CodePoint.tailBits? b)) * 0x40
                  + (← CodePoint.tailBits? c)) * 0x40 + (← CodePoint.tailBits? d)
                return (← CodePoint.atLeast? 0x10000 n) :: (← ofUtf8? rest)

/-- The first code point of bytes, if they begin with the bytes of one, and the number of bytes
behind the first that it takes. -/
def leading? (bytes : List UInt8) : Option (CodePoint × Nat) :=
  (List.range 4).findSome? fun tail =>
    match ofUtf8? (bytes.take (tail + 1)) with
    | some [c] => if c.isSurrogate then none else some (c, tail)
    | _ => none

end Text

end PolyCommit

import PolyCommit.Proofs.Text.Utf8
import PolyCommit.Value.Document

/-!
# Reading texts that need no escapes

A text in quotes is read as it stands if nothing in it has to be escaped, however long it is, and a
document of ASCII characters is the text of its bytes.
-/

namespace PolyCommit

namespace Value

/-- Whether a code point stands for itself in a quoted text and is an ASCII character. -/
def IsPlain (c : CodePoint) : Prop :=
  c ≠ Text.doubleQuote ∧ c ≠ Text.backslash ∧ 0x20 ≤ c.val ∧ c.val < 0x80

/-- A plain text in quotes is read as it stands, with a step for each code point and one more. -/
theorem Reader.string_of_plain {s : Text} (rest : Text) {steps : ℕ} (h : ∀ c ∈ s, IsPlain c)
    (hsteps : s.length < steps) :
    Reader.string steps (s ++ Text.doubleQuote :: rest) = some (s, rest) := by
  induction s generalizing steps with
  | nil =>
    obtain ⟨k, rfl⟩ : ∃ k, steps = k + 1 := Nat.exists_eq_succ_of_ne_zero (Nat.ne_of_gt hsteps)
    rfl
  | cons c s ih =>
    obtain ⟨k, rfl⟩ : ∃ k, steps = k + 1 := Nat.exists_eq_succ_of_ne_zero (by omega)
    obtain ⟨⟨hquote, hbackslash, hcontrol, -⟩, hs⟩ := List.forall_mem_cons.mp h
    rw [List.cons_append, string, if_neg hquote, if_neg hbackslash,
      if_neg (Nat.not_lt.mpr hcontrol), ih hs (Nat.lt_of_succ_lt_succ hsteps)]
    rfl

end Value

namespace Text

/-- The bytes of ASCII characters. -/
def asciiBytes (s : Text) : List UInt8 := s.map fun c => UInt8.ofNat c.val

/-- A text below `0x80` is read back from its bytes. -/
theorem ofUtf8?_asciiBytes {s : Text} (h : ∀ c ∈ s, c.val < 0x80) :
    ofUtf8? (asciiBytes s) = some s := by
  unfold asciiBytes
  induction s with
  | nil => rfl
  | cons c s ih =>
    obtain ⟨hc, hs⟩ := List.forall_mem_cons.mp h
    have hbyte : (UInt8.ofNat c.val).toNat = c.val := by
      rw [UInt8.toNat_ofNat']
      omega
    have hpoint : CodePoint.ofNat c.val = c := Fin.ext (Nat.mod_eq_of_lt c.isLt)
    rw [List.map_cons, ofUtf8?.eq_def]
    dsimp only
    rw [hbyte, if_pos hc, ih hs, hpoint]
    rfl

end Text

namespace Value

/-! ### A document around a text -/

/-- A document with one field, a list of one text, in front of the text. -/
def polyOpening : Text := Text.ofString "\x7b\"poly\":[\""

/-- The document behind the text. -/
def polyClosing : Text := Text.ofString "\"]\x7d"

/-- The value of such a document. -/
def polyOf (s : Text) : Value := object [(Text.ofString "poly", list [str s])]

/-- The calls around the text do not depend on it. -/
theorem Reader.value_poly {s : Text} (h : ∀ c ∈ s, IsPlain c) {k : ℕ} (hk : s.length < k + 2) :
    Reader.value (k + 7) (polyOpening ++ (s ++ polyClosing)) = some (polyOf s, []) := by
  have htext : string (k + 2) (s ++ polyClosing) = some (s, Text.ofString "]\x7d") :=
    string_of_plain _ h hk
  have hitems : items (k + 4) (Text.doubleQuote :: (s ++ polyClosing)) =
      some ([str s], Text.ofString "\x7d") := by
    rw [items, value, if_pos rfl, htext]
    rfl
  have hlist : value (k + 5) (Text.ofString "[\"" ++ (s ++ polyClosing)) =
      some (list [str s], Text.ofString "\x7d") := by
    change (items (k + 4) (Text.doubleQuote :: (s ++ polyClosing)) >>= _) = _
    rw [hitems]
    rfl
  have hfields : fields (k + 6) [] (Text.ofString "\"poly\":[\"" ++ (s ++ polyClosing)) =
      some ([(Text.ofString "poly", list [str s])], []) := by
    have hname : string (k + 5) (Text.ofString "poly\":[\"" ++ (s ++ polyClosing)) =
        some (Text.ofString "poly", Text.ofString ":[\"" ++ (s ++ polyClosing)) := rfl
    change (string (k + 5) (Text.ofString "poly\":[\"" ++ (s ++ polyClosing)) >>= _) = _
    rw [hname]
    change (value (k + 5) (Text.ofString "[\"" ++ (s ++ polyClosing)) >>= _) = _
    rw [hlist]
    rfl
  have hopening : polyOpening ++ (s ++ polyClosing) =
      Text.openBrace :: (Text.ofString "\"poly\":[\"" ++ (s ++ polyClosing)) := rfl
  rw [hopening, value, if_neg (by decide), if_neg (by decide), if_pos rfl]
  change (fields (k + 6) [] (Text.ofString "\"poly\":[\"" ++ (s ++ polyClosing)) >>= _) = _
  rw [hfields]
  rfl

/-- A polynomial of one plain text is read from its JSON text. -/
theorem ofJson?_poly {s : Text} (h : ∀ c ∈ s, IsPlain c) :
    ofJson? (polyOpening ++ (s ++ polyClosing)) = some (polyOf s) := by
  have hskip : Reader.skip (polyOpening ++ (s ++ polyClosing)) =
      polyOpening ++ (s ++ polyClosing) := rfl
  have hlength : (polyOpening ++ (s ++ polyClosing)).length = s.length + 13 := by
    rw [List.length_append, List.length_append, show polyOpening.length = 10 from rfl,
      show polyClosing.length = 3 from rfl]
    omega
  have hvalue := Reader.value_poly h (k := 2 * s.length + 21) (by omega)
  rw [ofJson?, hskip, hlength, show 2 * (s.length + 13) + 2 = 2 * s.length + 21 + 7 by omega,
    hvalue]
  rfl

/-- The JSON text of such a polynomial stays below `0x80`. -/
theorem ascii_poly {s : Text} (h : ∀ c ∈ s, IsPlain c) {c : CodePoint}
    (hc : c ∈ polyOpening ++ (s ++ polyClosing)) : c.val < 0x80 := by
  have hopening : polyOpening.all (·.val < 0x80) = true := by decide +kernel
  have hclosing : polyClosing.all (·.val < 0x80) = true := by decide +kernel
  rw [List.mem_append, List.mem_append] at hc
  obtain hc | hc | hc := hc
  · exact of_decide_eq_true (List.all_eq_true.mp hopening c hc)
  · exact (h c hc).2.2.2
  · exact of_decide_eq_true (List.all_eq_true.mp hclosing c hc)

/-- Such a document is seen to be UTF-8 by its first characters. -/
theorem ofDocument?_poly {s : Text} (h : ∀ c ∈ s, IsPlain c) :
    ofDocument? (Text.asciiBytes (polyOpening ++ (s ++ polyClosing))) = some (polyOf s) := by
  have hdetect : EncodingForm.detect (Text.asciiBytes (polyOpening ++ (s ++ polyClosing))) =
      (.utf8, Text.asciiBytes (polyOpening ++ (s ++ polyClosing))) := rfl
  have htext := Text.ofUtf8?_asciiBytes fun c hc => ascii_poly h hc
  simp only [ofDocument?, hdetect, EncodingForm.text?, htext, Option.bind_eq_bind,
    Option.bind_some, ofJson?_poly h]

end Value

end PolyCommit

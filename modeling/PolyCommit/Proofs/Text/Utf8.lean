import PolyCommit.Text.Utf8
import Mathlib.Data.List.Basic

/-!
# Which texts have bytes

A code point has bytes in UTF-8 unless it is half of a surrogate pair, and a text has bytes if all
of its code points have. Strings have no such halves.
-/

namespace PolyCommit

namespace Text

/-- A code point has bytes unless it is half of a surrogate pair. -/
theorem utf8?_codePoint_isSome (c : CodePoint) : c.utf8?.isSome = !c.isSurrogate := by
  unfold CodePoint.utf8? CodePoint.isSurrogate
  grind

/-- A text has bytes if all of its code points have. -/
theorem utf8?_isSome_iff (s : Text) : s.utf8?.isSome ↔ ∀ c ∈ s, c.isSurrogate = false := by
  induction s with
  | nil => simp [utf8?]
  | cons c s ih =>
    have hc := utf8?_codePoint_isSome c
    unfold utf8? at ih ⊢
    rw [List.mapM_cons, List.forall_mem_cons, ← ih]
    cases h : c.utf8? <;> cases List.mapM CodePoint.utf8? s <;> simp_all

/-- A string has no lone surrogates. -/
theorem isSurrogate_of_mem_ofString {s : String} {c : CodePoint} (hc : c ∈ ofString s) :
    c.isSurrogate = false := by
  obtain ⟨d, -, rfl⟩ := List.mem_map.mp hc
  have hvalid := d.valid
  simp only [UInt32.isValidChar, Nat.isValidChar] at hvalid
  rw [Bool.eq_false_iff, CodePoint.isSurrogate, Ne, Bool.and_eq_true, decide_eq_true_eq,
    decide_eq_true_eq]
  simp only [CodePoint.ofChar]
  omega

end Text

end PolyCommit

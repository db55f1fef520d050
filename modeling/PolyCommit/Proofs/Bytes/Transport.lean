import PolyCommit.Proofs.Key.Bytes
import PolyCommit.Proofs.Witness.Codec

/-!
# Hex text carries what bytes carry

Keys and witnesses travel as hex text as well as in bytes. A text is accepted exactly when it is hex
text, whatever the case of its digits and the white space around its pairs, of bytes that are
accepted; then its canonical form is what is written for the key or the witness. Every other text is
refused as malformed. Both kinds of text are read in two steps, the bytes from the text and then the
key or the witness from the bytes, so the two exact readers are put together once for both.
-/

namespace PolyCommit

namespace Hex

variable {α : Type}

/-- Whether a reader and a writer of texts carry what a reader of bytes accepts, for the valid
members of a type. -/
structure IsTransport (read : Value → Except Failure α) (write : α → Except Failure Text)
    (ofBytes : Bytes → Except Failure α) (valid : α → Prop) : Prop where
  /-- Accepted are the texts of pairs of hex digits that spell accepted bytes. -/
  read_eq_ok_iff : ∀ s a, read (.str s) = .ok a ↔ ∃ data, Spells s data ∧ ofBytes data = .ok a
  /-- What is written again is the canonical form of the text. -/
  write_eq : ∀ s a, read (.str s) = .ok a → write a = .ok (canonical s)
  /-- All other texts are malformed. -/
  malformed : ∀ s, (∃ a, read (.str s) = .ok a) ∨
    ∃ reason, read (.str s) = .error (.malformed reason)
  /-- Valid members are written, and read back. -/
  read_write : ∀ a, valid a → ∃ s, write a = .ok s ∧ read (.str s) = .ok a

variable {read : Value → Except Failure α} {write : α → Except Failure Text}
  {ofBytes : Bytes → Except Failure α} {valid : α → Prop}

/-- Texts carry what bytes carry if the bytes are read from the text first. -/
theorem isTransport_of_bytes (encode : α → Except Failure Bytes) (refusal : Malformed)
    (hread : ∀ s, read (.str s) = (decode? s).elim (.error (.malformed refusal)) ofBytes)
    (hwrite : ∀ a, write a = (encode a).map Hex.encode)
    (hbytes : ∀ data a, ofBytes data = .ok a ↔ valid a ∧ encode a = .ok data)
    (hfails : ∀ data, Fails Failure.IsMalformed (ofBytes data))
    (hvalid : ∀ a, valid a → ∃ data, encode a = .ok data) :
    IsTransport read write ofBytes valid := by
  have hspells (s : Text) (a : α) :
      read (.str s) = .ok a ↔ ∃ data, Spells s data ∧ ofBytes data = .ok a := by
    simp only [← decode?_eq_some_iff, hread]
    cases decode? s with
    | none => simp
    | some data => simp
  refine ⟨hspells, ?canonical, ?refused, ?back⟩
  case canonical =>
    intro s a h
    obtain ⟨data, hs, hdata⟩ := (hspells s a).mp h
    rw [hwrite, ((hbytes data a).mp hdata).2, ← hs.encode_eq]
    rfl
  case refused =>
    intro s
    cases h : read (.str s) with
    | ok a => exact .inl ⟨a, rfl⟩
    | error f =>
      rw [hread] at h
      cases hs : decode? s with
      | none =>
        rw [hs] at h
        exact .inr ⟨refusal, congrArg _ (Except.error.inj h).symm⟩
      | some data =>
        rw [hs] at h
        obtain ⟨reason, rfl⟩ := hfails data f h
        exact .inr ⟨reason, rfl⟩
  case back =>
    intro a ha
    obtain ⟨data, hdata⟩ := hvalid a ha
    refine ⟨Hex.encode data, by rw [hwrite, hdata]; rfl, (hspells _ a).mpr ?_⟩
    exact ⟨data, spells_encode data, (hbytes data a).mpr ⟨ha, hdata⟩⟩

/-- Hex text carries the valid keys and the witnesses of members of the first group. -/
theorem transport_exact :
    IsTransport (Key.ofHex bn254) Key.encodeHex (Key.ofBytes bn254) (Key.IsValid bn254) ∧
    IsTransport (Witness.ofHex bn254) (fun w => .ok w.toHex) (Witness.ofBytes bn254)
      (Witness.IsContained bn254) := by
  constructor
  · refine isTransport_of_bytes Key.encode .keyHex (fun s => ?_) (fun key => ?_)
      (fun _ _ => Key.ofBytes_eq_ok_iff) (fun _ => Key.fails_ofBytes)
      fun key hkey => ⟨_, hkey.encode_eq⟩
    · rw [Key.ofHex]
      cases decode? s <;> rfl
    · rw [Key.encodeHex, Key.encode]
      split <;> rfl
  · refine isTransport_of_bytes (fun w => .ok w.toBytes) .witnessHex (fun s => ?_) (fun _ => rfl)
      (fun data w => ?_) (fun _ => Witness.fails_ofBytes) fun w _ => ⟨_, rfl⟩
    · rw [Witness.ofHex]
      cases decode? s <;> rfl
    · rw [Witness.ofBytes_eq_ok_iff, Except.ok.injEq]

/-- The hex text of a key of four points is read back with white space in front of it, and that of a
witness for the largest point also in capital letters. -/
theorem transport_exact_capitals :
    (∃ (key : Key) (s : Text), key.IsValid bn254 ∧ key.encodeHex = .ok s ∧
      Key.ofHex bn254 (.str (CodePoint.ofChar ' ' :: s)) = .ok key) ∧
    ∃ w : Witness, w.IsContained bn254 ∧ Text.upperAscii w.toHex ≠ w.toHex ∧
      Witness.ofHex bn254 (.str (Text.upperAscii w.toHex)) = .ok w := by
  constructor
  · obtain ⟨s, hs, hread⟩ := transport_exact.1.read_write _ Key.isValid_bases
    obtain ⟨data, hspells, hdata⟩ := (transport_exact.1.read_eq_ok_iff s _).mp hread
    exact ⟨_, s, Key.isValid_bases, hs,
      (transport_exact.1.read_eq_ok_iff _ _).mpr ⟨data, .blank rfl hspells, hdata⟩⟩
  · have hw : Witness.IsContained bn254 ⟨-1, none, none⟩ :=
      ⟨PointGroup.Lawful.contains_none, PointGroup.Lawful.contains_none⟩
    have hspells : decode? (Text.upperAscii (Witness.toHex ⟨-1, none, none⟩)) =
        some (Witness.toBytes ⟨-1, none, none⟩) := by decide +kernel
    exact ⟨_, hw, by decide +kernel, (transport_exact.2.read_eq_ok_iff _ _).mpr
      ⟨_, decode?_eq_some_iff.mp hspells, Witness.ofBytes_toBytes hw⟩⟩

end Hex

end PolyCommit

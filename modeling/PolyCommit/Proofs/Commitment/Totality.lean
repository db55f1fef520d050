import PolyCommit.Commitment
import PolyCommit.Proofs.Key.Bytes
import PolyCommit.Proofs.Pairing.Totality
import PolyCommit.Proofs.Witness.Codec

/-!
# Verification answers whatever was read

A key, a commitment and a witness that were read, from bytes, hex or JSON, consist of members of the
two groups. The points that verification pairs are members again, also when the key does not list
the powers of one scalar, and the pairing has a value at all members. So verification answers yes or
no, and the only thing to refuse is a key with a single power of the second group.
-/

namespace PolyCommit

variable {T : Type}

/-! ### What was read -/

/-- Whether a key was read from bytes, from a hex text or from a JSON value. -/
inductive Key.IsRead (E : PairingSystem T) (key : Key) : Prop
  | bytes {data : Bytes} (h : ofBytes E data = .ok key)
  | hex {v : Value} (h : ofHex E v = .ok key)
  | value {v : Value} (h : ofValue E v = .ok key)

/-- Whether a witness was read from bytes, from a hex text or from a JSON value. -/
inductive Witness.IsRead (E : PairingSystem T) (w : Witness) : Prop
  | bytes {data : Bytes} (h : ofBytes E data = .ok w)
  | hex {v : Value} (h : ofHex E v = .ok w)
  | value {v : Value} (h : ofValue E v = .ok w)

/-- Whether a point of the first group was read from bytes or from a JSON value. -/
inductive PairingSystem.IsRead₁ (E : PairingSystem T) (P : Point Fq) : Prop
  | bytes {data : Bytes} (h : Decoding.point₁ E data = .ok P)
  | value {v : Value} (h : v.toPoint₁ E = .ok P)

section Members

variable {E : PairingSystem T} [E.g₁.Lawful] [E.g₁.OriginFree]

/-- A key that is read lists members. -/
theorem Key.IsRead.isContained [E.g₂.Lawful] [E.g₂.OriginFree] {key : Key} (h : key.IsRead E) :
    key.IsContained E := by
  cases h with
  | bytes h => exact (isValid_of_ofBytes h).1.isContained
  | hex h => exact (yields_ofHex _ key h).isContained
  | value h => exact isContained_of_ofValue h

/-- A witness that is read consists of members. -/
theorem Witness.IsRead.isContained {w : Witness} (h : w.IsRead E) : w.IsContained E := by
  cases h with
  | bytes h => exact yields_ofBytes _ w h
  | hex h => exact yields_ofHex _ w h
  | value h => exact yields_ofValue _ w h

/-- A point that is read is a member. -/
theorem PairingSystem.IsRead₁.contains {P : Point Fq} (h : E.IsRead₁ P) :
    E.g₁.contains P = true := by
  cases h with
  | bytes h => exact (Decoding.point₁_eq_ok_iff.mp h).2
  | value h => exact Value.yields_toPoint₁ E _ P h

end Members

/-! ### Verification -/

/-- A key with two powers of the second group lists a first and a second one. -/
theorem Key.exists_points₂_eq {key : Key} (hsize : 2 ≤ key.size₂) :
    ∃ g h rest, key.points₂ = g :: h :: rest := by
  rw [← length_points₂] at hsize
  obtain ⟨g, tail, hpoints⟩ := List.exists_cons_of_length_pos (Nat.zero_lt_of_lt hsize)
  rw [hpoints, List.length_cons] at hsize
  obtain ⟨h, rest, rfl⟩ := List.exists_cons_of_length_pos (Nat.lt_of_succ_lt_succ hsize)
  exact ⟨g, h, rest, hpoints⟩

namespace PairingSystem

section

variable {E : PairingSystem T} {key : Key} {commitment : Point Fq} {w : Witness}

/-- A pairing that is total has a value at members. -/
theorem IsTotal.exists_pairing (hE : E.IsTotal) {Q : Point Fq2} {P : Point Fq}
    (hQ : E.g₂.contains Q = true) (hP : E.g₁.contains P = true) :
    ∃ t, E.pairing Q P = .ok t := by
  obtain ⟨t, ht⟩ := Option.isSome_iff_exists.mp (hE hQ hP)
  exact ⟨t, by rw [pairing, ht]⟩

variable [Mul T] [DecidableEq T]

/-- Verification answers yes or no on members. -/
theorem exists_verify [E.g₂.Lawful] (hE : E.IsTotal) (hkey : key.IsContained E)
    (hsize : 2 ≤ key.size₂) (hcommitment : E.g₁.contains commitment = true)
    (hw : w.IsContained E) : ∃ accepted, E.verify key commitment w = .ok accepted := by
  obtain ⟨g, h, rest, hpoints⟩ := Key.exists_points₂_eq hsize
  have hg : E.g₂.contains g = true := hkey.2 g (by simp [hpoints])
  have hh : E.g₂.contains h = true := hkey.2 h (by simp [hpoints])
  have hshift := PointGroup.contains_sub hh (PointGroup.contains_scale hg w.point)
  obtain ⟨left, hleft⟩ := hE.exists_pairing hg hcommitment
  obtain ⟨quotient, hquotient⟩ := hE.exists_pairing hshift hw.quotient
  obtain ⟨value, hvalue⟩ := hE.exists_pairing hg hw.value
  simp only [verify, hpoints, hleft, hquotient, hvalue, ok_bind]
  exact ⟨_, rfl⟩

/-- With one power of the second group verification is refused. -/
theorem verify_of_size₂_eq_one (h : key.size₂ = 1) :
    E.verify key commitment w = .error (.malformed .singlePower₂) := by
  obtain ⟨g, hpoints⟩ : ∃ g, key.points₂ = [g] := by
    rw [← Key.length_points₂] at h
    exact List.length_eq_one_iff.mp h
  simp only [verify, hpoints]

end

open Bn254 in
/-- Whatever was read, verification answers yes or no under a key with two powers of the second
group, the points that it pairs being on their curves, and a key with a single one is refused. -/
theorem verify_total {key : Key} {commitment : Point Fq} {w : Witness} (hkey : key.IsRead bn254)
    (hcommitment : bn254.IsRead₁ commitment) (hw : w.IsRead bn254) :
    (2 ≤ key.size₂ → ∃ accepted, bn254.verify key commitment w = .ok accepted) ∧
    (∀ g h rest, key.points₂ = g :: h :: rest →
      onTwist g = true ∧ onTwist (group₂.sub h (group₂.scale w.point g)) = true ∧
      onCurve₁ commitment = true ∧ onCurve₁ w.value = true ∧ onCurve₁ w.quotient = true) ∧
    (key.size₂ = 1 → bn254.verify key commitment w = .error (.malformed .singlePower₂)) := by
  have hmembers := hkey.isContained
  have hpoints := hw.isContained
  refine ⟨fun hsize => exists_verify isTotal hmembers hsize hcommitment.contains hpoints,
    fun g h rest hlist => ?_, verify_of_size₂_eq_one⟩
  have hg : group₂.contains g = true := hmembers.2 g (by simp [hlist])
  have hh : group₂.contains h = true := hmembers.2 h (by simp [hlist])
  exact ⟨onTwist_of_inSubgroup₂ hg,
    onTwist_of_inSubgroup₂ (PointGroup.contains_sub hh (PointGroup.contains_scale hg w.point)),
    hcommitment.contains, hpoints.value, hpoints.quotient⟩

/-- The powers of a key may be equal: at the point one, verification pairs with the identity. -/
theorem verify_total_equalPowers : ∃ (key : Key) (w : Witness),
    key.points₂ = [bn254.g₂.base, bn254.g₂.base] ∧ w = ⟨1, bn254.g₁.base, none⟩ ∧
    key.IsRead bn254 ∧ bn254.IsRead₁ none ∧ w.IsRead bn254 ∧
    ∃ accepted, bn254.verify key none w = .ok accepted := by
  have hbase₁ : bn254.g₁.contains bn254.g₁.base = true := PointGroup.Lawful.contains_base
  have hbase₂ : bn254.g₂.contains bn254.g₂.base = true := PointGroup.Lawful.contains_base
  have hvalid : Key.IsValid bn254
      ⟨[Bn254.base₁], [Bn254.base₂, Bn254.base₂], by simp, by simp⟩ := by
    refine ⟨by decide, by decide, ?_, ?_⟩
    · exact List.forall_mem_singleton.mpr hbase₁
    · exact List.forall_mem_cons.mpr ⟨hbase₂, List.forall_mem_singleton.mpr hbase₂⟩
  have hw : Witness.IsContained bn254 ⟨1, bn254.g₁.base, none⟩ :=
    ⟨hbase₁, PointGroup.Lawful.contains_none⟩
  have hkey : Key.IsRead bn254 _ := .bytes (Key.ofBytes_toBytes hvalid)
  have hread : Witness.IsRead bn254 _ := .hex (Witness.ofHex_toHex hw)
  have hnull : bn254.IsRead₁ none := .value (v := .null) rfl
  exact ⟨_, _, rfl, rfl, hkey, hnull, hread, (verify_total hkey hnull hread).1 (by decide)⟩

end PairingSystem

end PolyCommit

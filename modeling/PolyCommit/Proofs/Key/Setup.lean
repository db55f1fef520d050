import PolyCommit.Key.Setup
import PolyCommit.Proofs.Key.Fields
import PolyCommit.Proofs.Pairing.Bilinear
import PolyCommit.Proofs.Text.Utf8
import Mathlib.Algebra.GroupWithZero.Action.Basic
import Mathlib.Data.List.Iterate
import Mathlib.Tactic.Ring

/-!
# Keys list the powers of a hidden scalar

The secrets behind a key are never zero, whether they are drawn or hashed from a seed, because both
ways add one to a number below `groupOrder - 1`. The accumulated power of the hidden scalar makes
each list of a key the iteration of one scalar multiple, and as the scalars are a field no entry of
it is the identity. So the only thing that can go wrong with a positive bound is a seed without
bytes.
-/

namespace PolyCommit

/-! ### Secrets -/

/-- One more than a number below `groupOrder - 1` is not the scalar zero. -/
theorem ofNat_succ_ne_zero {k : ℕ} (hk : k < groupOrder - 1) :
    (Residue.ofNat (k + 1) : Fr) ≠ 0 := by
  intro h
  have hval := congrArg Residue.val h
  rw [Residue.val_ofNat, Nat.mod_eq_of_lt (by omega), Residue.val_zero] at hval
  omega

namespace Draws

/-- A draw is below its bound. -/
theorem next_lt {n : ℕ} (hn : 0 < n) (draws : Draws) : (draws.next n).1 < n := by
  cases draws with
  | nil => exact hn
  | cons k rest =>
    have hlt := Int.emod_lt_of_pos k (Int.natCast_pos.mpr hn)
    have hnonneg := Int.emod_nonneg k (Int.natCast_ne_zero.mpr hn.ne')
    change (k % n).toNat < n
    omega

/-- A scalar that is drawn so is not zero. -/
theorem nonzeroScalar_ne_zero (draws : Draws) : draws.nonzeroScalar.1 ≠ 0 :=
  ofNat_succ_ne_zero (next_lt (by decide) draws)

end Draws

namespace Secrets

/-- No secret is zero. -/
structure IsProper (s : Secrets) : Prop where
  generator₁ : s.generator₁ ≠ 0
  generator₂ : s.generator₂ ≠ 0
  hidden : s.hidden ≠ 0

/-- Secrets that are drawn are not zero. -/
theorem draw_isProper (draws : Draws) : (draw draws).1.IsProper :=
  ⟨Draws.nonzeroScalar_ne_zero _, Draws.nonzeroScalar_ne_zero _, Draws.nonzeroScalar_ne_zero _⟩

/-- Whether the text of a seed exists and is free of lone surrogates. -/
def HasBytes (seed : Value) : Prop :=
  ∃ s, seedText seed = .ok s ∧ ∀ c ∈ s, c.isSurrogate = false

variable {hash : Bytes → Digest} {seed : Value} {label : String}

/-- A secret from a seed is not zero. -/
theorem seeded_ne_zero {c : Fr} (h : seeded hash seed label = .ok c) : c ≠ 0 := by
  obtain ⟨s, -, h⟩ := bind_eq_ok_iff.mp h
  split at h
  · rw [← Except.ok.inj h]
    exact ofNat_succ_ne_zero (Nat.mod_lt _ (by decide))
  · cases h

/-- A seed has a secret for a label exactly when it has bytes. -/
theorem exists_seeded_iff :
    (∃ c, seeded hash seed label = .ok c) ↔ HasBytes seed := by
  constructor
  · rintro ⟨c, h⟩
    obtain ⟨s, hs, h⟩ := bind_eq_ok_iff.mp h
    refine ⟨s, hs, fun d hd => ?_⟩
    split at h
    · next bytes hbytes =>
      exact (Text.utf8?_isSome_iff _).mp (Option.isSome_of_eq_some hbytes) d
        (List.mem_append_left _ hd)
    · cases h
  · rintro ⟨s, hs, hplain⟩
    have hsome : (Text.utf8? (s ++ Text.ofString (":" ++ label))).isSome :=
      (Text.utf8?_isSome_iff _).mpr (List.forall_mem_append.mpr
        ⟨hplain, fun _ => Text.isSurrogate_of_mem_ofString⟩)
    obtain ⟨bytes, hbytes⟩ := Option.isSome_iff_exists.mp hsome
    exact ⟨_, bind_eq_ok_iff.mpr ⟨s, hs, by rw [hbytes]⟩⟩

/-- Secrets from a seed are not zero. -/
theorem ofSeed_isProper {s : Secrets} (h : ofSeed hash seed = .ok s) : s.IsProper := by
  obtain ⟨g, hg, h⟩ := bind_eq_ok_iff.mp h
  obtain ⟨k, hk, h⟩ := bind_eq_ok_iff.mp h
  obtain ⟨a, ha, h⟩ := bind_eq_ok_iff.mp h
  cases h
  exact ⟨seeded_ne_zero hg, seeded_ne_zero hk, seeded_ne_zero ha⟩

/-- A seed has secrets exactly when it has bytes. -/
theorem exists_ofSeed_iff : (∃ s, ofSeed hash seed = .ok s) ↔ HasBytes seed := by
  constructor
  · rintro ⟨s, h⟩
    obtain ⟨g, hg, -⟩ := bind_eq_ok_iff.mp h
    exact exists_seeded_iff.mp ⟨g, hg⟩
  · intro h
    have hany (label : String) : ∃ c, seeded hash seed label = .ok c := exists_seeded_iff.mpr h
    obtain ⟨g, hg⟩ := hany "g1"
    obtain ⟨k, hk⟩ := hany "g2"
    obtain ⟨a, ha⟩ := hany "trapdoor"
    exact ⟨⟨g, k, a⟩, by rw [ofSeed, hg, hk, ha]; rfl⟩

variable {draws : Draws}

/-- Secrets are not zero, whichever way they are chosen. -/
theorem choose_isProper {s : Secrets} (h : choose hash seed draws = .ok s) : s.IsProper := by
  unfold choose at h
  split at h
  · cases h
    exact draw_isProper draws
  · exact ofSeed_isProper h

/-- Secrets can be chosen unless there is a seed without bytes. -/
theorem exists_choose_iff :
    (∃ s, choose hash seed draws = .ok s) ↔ seed.kind = .null ∨ HasBytes seed := by
  cases seed with
  | null => exact iff_of_true ⟨_, rfl⟩ (.inl rfl)
  | _ => exact exists_ofSeed_iff.trans (or_iff_right nofun).symm

end Secrets

/-! ### Ladders -/

namespace Key

variable {F : Type} {G : PointGroup F} [G.Lawful]

/-- Multiples by the accumulated powers are iterated multiples. -/
theorem map_powersAfter (a w : Fr) (P : G.Member) (n : ℕ) :
    (powersAfter a w n).map (fun w => G.scale w P.point) =
      (List.iterate (a • ·) ((a * w) • P) n).map PointGroup.Member.point := by
  induction n generalizing w with
  | zero => rfl
  | succ n ih =>
    rw [powersAfter, List.map_cons, ih, List.iterate, List.map_cons, PointGroup.Member.point_smul,
      mul_comm w a, ← mul_smul]

/-- A ladder is the iteration of one multiple. -/
theorem ladder_eq (P : G.Member) (a : Fr) (t : ℕ) :
    ladder G P.point a t = (List.iterate (a • ·) P (t + 1)).map PointGroup.Member.point := by
  rw [ladder, map_powersAfter, mul_one]
  rfl

/-- The entries of an iteration are the multiples by powers. -/
theorem eq_of_getElem?_iterate {a : Fr} {P : G.Member} {n i : ℕ} {R : Point F}
    (h : ((List.iterate (a • ·) P n).map PointGroup.Member.point)[i]? = some R) :
    R = (a ^ i • P).point := by
  rw [List.getElem?_map, Option.map_eq_some_iff] at h
  obtain ⟨S, hS, rfl⟩ := h
  obtain ⟨hi, rfl⟩ := List.getElem?_eq_some_iff.mp hS
  rw [List.getElem_iterate, smul_iterate]

/-- No multiple of a member other than the identity by a power of a nonzero scalar is the
identity. -/
theorem ne_none_of_mem_iterate {a : Fr} (ha : a ≠ 0) {P : G.Member} (hP : P ≠ 0) {n : ℕ} :
    ∀ R ∈ (List.iterate (a • ·) P n).map PointGroup.Member.point, R ≠ none := by
  intro R hR
  obtain ⟨S, hS, rfl⟩ := List.mem_map.mp hR
  obtain ⟨i, -, rfl⟩ := List.mem_iterate.mp hS
  rw [Ne, PointGroup.Member.point_eq_none_iff, smul_iterate]
  exact smul_ne_zero (pow_ne_zero i ha) hP

/-- Points none of which is the identity are affine. -/
theorem allAffine_of_forall_ne_none {F : Type} {ps : List (Point F)} (h : ∀ P ∈ ps, P ≠ none) :
    ∃ as, allAffine ps = some as ∧ as.map some = ps := by
  induction ps with
  | nil => exact ⟨[], rfl, rfl⟩
  | cons P ps ih =>
    obtain ⟨as, has, hmap⟩ := ih fun Q hQ => h Q (List.mem_cons_of_mem P hQ)
    obtain ⟨A, rfl⟩ := Option.ne_none_iff_exists'.mp (h P List.mem_cons_self)
    refine ⟨A :: as, ?_, by rw [List.map_cons, hmap]⟩
    unfold allAffine at has ⊢
    rw [List.mapM_cons, has]
    rfl

/-- Two lists of points make a key if neither is empty and none of the points is the identity. -/
theorem exists_ofPoints {ps : List (Point Fq)} {qs : List (Point Fq2)} (hps : ps ≠ [])
    (hqs : qs ≠ []) (hps' : ∀ P ∈ ps, P ≠ none) (hqs' : ∀ Q ∈ qs, Q ≠ none) :
    ∃ key, ofPoints ps qs = .ok key ∧ key.points₁ = ps ∧ key.points₂ = qs := by
  obtain ⟨as, has, rfl⟩ := allAffine_of_forall_ne_none hps'
  obtain ⟨bs, hbs, rfl⟩ := allAffine_of_forall_ne_none hqs'
  have hne₁ : as ≠ [] := fun h => hps (by rw [h]; rfl)
  have hne₂ : bs ≠ [] := fun h => hqs (by rw [h]; rfl)
  exact ⟨⟨as, bs, hne₁, hne₂⟩, ofPoints_points ⟨as, bs, hne₁, hne₂⟩, rfl, rfl⟩

variable {T : Type} {E : PairingSystem T} [E.g₁.Lawful] [E.g₂.Lawful]

/-- Whether a key lists `n` multiples of two members by the powers of a scalar. -/
structure IsLadder (E : PairingSystem T) [E.g₁.Lawful] [E.g₂.Lawful] (key : Key)
    (P : E.g₁.Member) (Q : E.g₂.Member) (a : Fr) (n : ℕ) : Prop where
  points₁ : key.points₁ = (List.iterate (a • ·) P n).map PointGroup.Member.point
  points₂ : key.points₂ = (List.iterate (a • ·) Q n).map PointGroup.Member.point

/-- Proper secrets have a key, and it lists the powers of the hidden one. -/
theorem exists_ofSecrets {s : Secrets} (hs : s.IsProper) (t : ℕ) :
    ∃ key, ofSecrets E s t = .ok key ∧ IsLadder E key (s.generator₁ • E.g₁.generator)
      (s.generator₂ • E.g₂.generator) s.hidden (t + 1) := by
  have hne₁ := smul_ne_zero hs.generator₁ (PointGroup.generator_ne_zero (G := E.g₁))
  have hne₂ := smul_ne_zero hs.generator₂ (PointGroup.generator_ne_zero (G := E.g₂))
  rw [ofSecrets, ← PointGroup.point_smul_generator, ← PointGroup.point_smul_generator, ladder_eq,
    ladder_eq]
  obtain ⟨key, hkey, h₁, h₂⟩ := exists_ofPoints (by simp) (by simp)
    (ne_none_of_mem_iterate hs.hidden hne₁ (n := t + 1))
    (ne_none_of_mem_iterate hs.hidden hne₂ (n := t + 1))
  exact ⟨key, hkey, h₁, h₂⟩

namespace IsLadder

variable {key : Key} {P : E.g₁.Member} {Q : E.g₂.Member} {a : Fr} {n : ℕ}

/-- A ladder has as many powers of the first group as it is long. -/
theorem size₁_eq (hkey : IsLadder E key P Q a n) : key.size₁ = n := by
  rw [← length_points₁, hkey.points₁, List.length_map, List.length_iterate]

/-- A ladder has as many powers of the second group as it is long. -/
theorem size₂_eq (hkey : IsLadder E key P Q a n) : key.size₂ = n := by
  rw [← length_points₂, hkey.points₂, List.length_map, List.length_iterate]

/-- A ladder begins with its member. -/
theorem headD_points₁ (hkey : IsLadder E key P Q a n) (hn : 1 ≤ n) :
    key.points₁.headD none = P.point := by
  obtain ⟨m, rfl⟩ : ∃ m, n = m + 1 := ⟨n - 1, by omega⟩
  rw [hkey.points₁]
  rfl

/-- All points of a ladder are members. -/
theorem isContained (hkey : IsLadder E key P Q a n) : key.IsContained E := by
  rw [IsContained, hkey.points₁, hkey.points₂]
  exact ⟨List.forall_mem_map.mpr fun R _ => R.contains_point,
    List.forall_mem_map.mpr fun R _ => R.contains_point⟩

end IsLadder

/-! ### Setup -/

variable {hash : Bytes → Digest} {seed : Value} {draws : Draws} {key : Key}

/-- A positive integer is a bound. -/
theorem bound_of_integer? {v : Value} {t : ℤ} (hv : v.integer? = some t) (ht : 1 ≤ t) :
    bound v = .ok t.toNat := by
  simp only [bound, hv]
  exact if_neg (by omega)

/-- Nothing else is. -/
theorem exists_bound_error {v : Value} (h : ∀ t, v.integer? = some t → t < 1) :
    ∃ f, bound v = .error f := by
  rw [bound]
  split
  · exact ⟨_, rfl⟩
  · next t hv => exact ⟨_, if_pos (h t hv)⟩

/-- A positive number is a bound. -/
theorem bound_int {t : ℕ} (ht : 1 ≤ t) : bound (.int t) = .ok t :=
  bound_of_integer? (t := (t : ℤ)) rfl (by omega)

omit [E.g₁.Lawful] [E.g₂.Lawful] in
/-- A setup checks the bound, chooses the secrets and makes their key. -/
theorem setup_eq (t : Value) : (setup E hash t seed draws).1 =
    bound t >>= fun n => Secrets.choose hash seed draws >>= fun s => ofSecrets E s n := by
  cases seed with
  | null =>
    rw [setup, generate]
    cases bound t <;> rfl
  | _ => rfl

/-- A setup with a positive bound makes a key unless there is a seed without bytes. -/
theorem exists_setup_iff {t : ℕ} (ht : 1 ≤ t) :
    (∃ key, (setup E hash (.int t) seed draws).1 = .ok key) ↔
      seed.kind = .null ∨ Secrets.HasBytes seed := by
  have hchoose : (∃ s, Secrets.choose hash seed draws = .ok s) ↔ _ := Secrets.exists_choose_iff
  rw [setup_eq, bound_int ht, ok_bind, ← hchoose]
  constructor
  · rintro ⟨key, h⟩
    obtain ⟨s, hs, -⟩ := bind_eq_ok_iff.mp h
    exact ⟨s, hs⟩
  · rintro ⟨s, hs⟩
    obtain ⟨key, hkey, -⟩ := exists_ofSecrets (E := E) (Secrets.choose_isProper hs) t
    exact ⟨key, by rw [hs, ok_bind, hkey]⟩

/-- A key from a setup has secrets behind it. -/
theorem exists_choose_of_setup {t : ℕ} (ht : 1 ≤ t)
    (hkey : (setup E hash (.int t) seed draws).1 = .ok key) :
    ∃ s, Secrets.choose hash seed draws = .ok s :=
  Secrets.exists_choose_iff.mpr ((exists_setup_iff ht).mp ⟨key, hkey⟩)

/-- A key from a setup lists the powers of the hidden scalar of its secrets. -/
theorem isLadder_of_setup {t : ℕ} (ht : 1 ≤ t) {s : Secrets}
    (hs : Secrets.choose hash seed draws = .ok s)
    (hkey : (setup E hash (.int t) seed draws).1 = .ok key) :
    IsLadder E key (s.generator₁ • E.g₁.generator) (s.generator₂ • E.g₂.generator) s.hidden
      (t + 1) := by
  obtain ⟨key', hkey', hladder⟩ := exists_ofSecrets (E := E) (Secrets.choose_isProper hs) t
  rw [setup_eq, bound_int ht, ok_bind, hs, ok_bind, hkey'] at hkey
  cases hkey
  exact hladder

/-- A bound is positive. -/
theorem one_le_of_bound {v : Value} {t : ℕ} (h : bound v = .ok t) : 1 ≤ t := by
  unfold bound at h
  split at h
  · cases h
  · split at h
    · cases h
    · cases h
      omega

/-- Whatever the setup was asked for, a key that it made lists the powers of a secret scalar. -/
theorem exists_isLadder_of_setup {v : Value} (hkey : (setup E hash v seed draws).1 = .ok key) :
    ∃ (s : Secrets) (t : ℕ), 1 ≤ t ∧ IsLadder E key (s.generator₁ • E.g₁.generator)
      (s.generator₂ • E.g₂.generator) s.hidden (t + 1) := by
  rw [setup_eq] at hkey
  obtain ⟨t, ht, hkey⟩ := bind_eq_ok_iff.mp hkey
  obtain ⟨s, hs, hkey⟩ := bind_eq_ok_iff.mp hkey
  obtain ⟨key', hkey', hladder⟩ := exists_ofSecrets (E := E) (Secrets.choose_isProper hs) t
  rw [hkey', Except.ok.injEq] at hkey
  exact ⟨s, t, one_le_of_bound ht, hkey ▸ hladder⟩

omit [E.g₁.Lawful] [E.g₂.Lawful] in
/-- A refused bound draws nothing. -/
theorem generate_of_bound_error {v : Value} {f : Failure} (h : bound v = .error f) :
    generate E v draws = (.error f, draws) := by
  rw [generate, h]

/-- An accepted bound takes the next secrets and never fails. -/
theorem exists_generate {v : Value} {t : ℕ} (h : bound v = .ok t) (draws : Draws) :
    ∃ key, ofSecrets E (Secrets.draw draws).1 t = .ok key ∧
      generate E v draws = (.ok key, (Secrets.draw draws).2) ∧ key.IsContained E := by
  obtain ⟨key, hkey, hladder⟩ := exists_ofSecrets (E := E) (Secrets.draw_isProper draws) t
  refine ⟨key, hkey, ?_, hladder.isContained⟩
  rw [generate, h]
  simp only [hkey]

/-- An iteration from a multiple of the base, place by place. -/
theorem iterate_smul_generator (a k : Fr) (n : ℕ) :
    (List.iterate (a • ·) (k • G.generator) n).map PointGroup.Member.point =
      (List.range n).map fun i => G.scale (a ^ i * k) G.base := by
  rw [← List.range_map_iterate, List.map_map]
  refine List.map_congr_left fun i _ => ?_
  rw [← PointGroup.point_smul_generator, mul_smul, Function.comp_apply, smul_iterate]

/-- A pairing of points of a ladder depends on the sum of their places only. -/
theorem IsLadder.exists_pair_eq [Mul T] [One T] {k₁ k₂ a : Fr} {n : ℕ}
    (hkey : IsLadder E key (k₁ • E.g₁.generator) (k₂ • E.g₂.generator) a n) (hE : E.IsBilinear) :
    ∃ value : ℕ → T, ∀ i j P Q, key.points₁[i]? = some P → key.points₂[j]? = some Q →
      E.pair Q P = some (value (i + j)) := by
  refine ⟨fun i => E.exponent (a ^ i * (k₂ * k₁)), fun i j P Q hP hQ => ?_⟩
  rw [hkey.points₁] at hP
  rw [hkey.points₂] at hQ
  rw [eq_of_getElem?_iterate hP, eq_of_getElem?_iterate hQ, ← mul_smul, ← mul_smul, hE.pair_smul]
  congr 2
  ring

/-- A positive bound has a key unless there is a seed without bytes. The key's lists hold the
multiples of two points by the powers of one scalar, none of them the identity and all of them
members, and a pairing of two of them depends on the sum of their places only. -/
theorem setup_spec [Mul T] [One T] {pair : Point Fq2 → Point Fq → Option T}
    (hpair : (Bn254.system pair).IsBilinear) (hash : Bytes → Digest) {t : ℕ} (ht : 1 ≤ t)
    (seed : Value) (draws : Draws) :
    ((∃ key, (setup (Bn254.system pair) hash (.int t) seed draws).1 = .ok key) ↔
      seed.kind = .null ∨ Secrets.HasBytes seed) ∧
    ∀ key, (setup (Bn254.system pair) hash (.int t) seed draws).1 = .ok key →
      (∃ k₁ k₂ a : Fr, k₁ ≠ 0 ∧ k₂ ≠ 0 ∧ a ≠ 0 ∧
        key.points₁ = (List.range (t + 1)).map
          (fun i => Bn254.group₁.scale (a ^ i * k₁) Bn254.group₁.base) ∧
        key.points₂ = (List.range (t + 1)).map
          (fun i => Bn254.group₂.scale (a ^ i * k₂) Bn254.group₂.base)) ∧
      (∀ P ∈ key.points₁, P ≠ none ∧ Bn254.group₁.contains P = true) ∧
      (∀ Q ∈ key.points₂, Q ≠ none ∧ Bn254.group₂.contains Q = true) ∧
      ∃ value : ℕ → T, ∀ i j P Q, key.points₁[i]? = some P → key.points₂[j]? = some Q →
        pair Q P = some (value (i + j)) := by
  refine ⟨exists_setup_iff ht, fun key hkey => ?_⟩
  obtain ⟨s, hs⟩ := exists_choose_of_setup ht hkey
  have hladder := isLadder_of_setup ht hs hkey
  have hproper := Secrets.choose_isProper hs
  refine ⟨⟨s.generator₁, s.generator₂, s.hidden, hproper.generator₁, hproper.generator₂,
    hproper.hidden, ?_, ?_⟩, fun P hP => ⟨?_, hladder.isContained.1 P hP⟩,
    fun Q hQ => ⟨?_, hladder.isContained.2 Q hQ⟩, hladder.exists_pair_eq hpair⟩
  · rw [hladder.points₁, iterate_smul_generator]
  · rw [hladder.points₂, iterate_smul_generator]
  · obtain ⟨A, -, rfl⟩ := List.mem_map.mp hP
    exact Option.some_ne_none A
  · obtain ⟨A, -, rfl⟩ := List.mem_map.mp hQ
    exact Option.some_ne_none A

/-- A seed of plain characters has a key with three powers of each group. -/
theorem setup_spec_plain : ∃ key,
    (setup (Bn254.system (Bn254.logPair Ate.root)) Sha256.hash (.int 2) (.ofString "seed") []).1 =
      .ok key ∧
    ∃ value : ℕ → Fq12, ∀ i j P Q, key.points₁[i]? = some P →
      key.points₂[j]? = some Q → Bn254.logPair Ate.root Q P = some (value (i + j)) := by
  have hplain : Secrets.HasBytes (.ofString "seed") :=
    ⟨Text.ofString "seed", rfl, fun _ => Text.isSurrogate_of_mem_ofString⟩
  obtain ⟨hexists, hspec⟩ := setup_spec (Bn254.logPair_isBilinear Ate.root_pow) Sha256.hash
    (show 1 ≤ 2 by decide) (.ofString "seed") []
  obtain ⟨key, hkey⟩ := hexists.mpr (.inr hplain)
  exact ⟨key, hkey, (hspec key hkey).2.2.2⟩

/-- A seed with a lone surrogate has no bytes to hash, so there is no key from it. -/
theorem setup_loneSurrogate :
    (setup bn254 Sha256.hash (.int 1) (.str [0xd800]) []).1 = .error .loneSurrogate := rfl

end Key

end PolyCommit

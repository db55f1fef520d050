import PolyCommit.Pairing.System
import PolyCommit.Proofs.Curve.Bn254
import PolyCommit.Proofs.Field.Tower

/-!
# Bilinear pairing systems

What the commitment scheme needs of a pairing, stated where it is needed: on the multiples of the
two bases. There a bilinear pairing has the value `exponent (k·l)` at the `k`-th multiple of one
base and the `l`-th of the other, for one function `exponent` from the scalars that turns sums into
products. If the pairing is also nondegenerate, that function is injective, because the scalars are
a field; nothing is asked of the target beyond its product and its one.

The pairing is a parameter: `Bn254.system` joins any pairing to the two groups of the curve pair.
That the ate pairing is bilinear is not proved; that it is nondegenerate is, by its value at the
bases. The pairing by discrete logarithms to a root of unity has both laws, and every bilinear
pairing is one of these on the multiples of the bases. The ate pairing, if it is bilinear, is the
one for the root that it has as its value at the bases.
-/

namespace PolyCommit

namespace PointGroup

variable {F : Type} (G : PointGroup F)

/-- Whether a point is a multiple of the base. -/
def Spans (P : Point F) : Prop := ∃ k : Fr, G.scale k G.base = P

variable [G.Lawful]

/-- The multiples of the generator are spanned. -/
theorem spans_smul_generator (k : Fr) : G.Spans (k • G.generator).point :=
  ⟨k, (point_smul_generator k).symm⟩

/-- The identity is spanned. -/
theorem spans_none : G.Spans none := by
  have h := G.spans_smul_generator 0
  rwa [zero_smul, Member.point_zero] at h

/-- The base is spanned. -/
theorem spans_base : G.Spans G.base := by
  have h := G.spans_smul_generator 1
  rwa [one_smul, point_generator] at h

variable {G}

/-- Sums of spanned points are spanned. -/
theorem Spans.add {P Q : Point F} (hP : G.Spans P) (hQ : G.Spans Q) : G.Spans (G.add P Q) := by
  obtain ⟨k, rfl⟩ := hP
  obtain ⟨l, rfl⟩ := hQ
  rw [← point_smul_generator, ← point_smul_generator, ← Member.point_add, ← add_smul]
  exact G.spans_smul_generator (k + l)

end PointGroup

namespace PairingSystem

variable {T : Type} [Mul T] [One T]

/-- A pairing that has a value at all multiples of the bases, is the one at the identity, and turns
sums on either side into products. -/
structure IsBilinear (E : PairingSystem T) : Prop where
  isSome {Q : Point Fq2} {P : Point Fq} : E.g₂.Spans Q → E.g₁.Spans P → (E.pair Q P).isSome
  none_left {P : Point Fq} : E.g₁.Spans P → E.pair none P = some 1
  none_right {Q : Point Fq2} : E.g₂.Spans Q → E.pair Q none = some 1
  add_left {Q Q' : Point Fq2} {P : Point Fq} : E.g₂.Spans Q → E.g₂.Spans Q' → E.g₁.Spans P →
    E.pair (E.g₂.add Q Q') P = Option.map₂ (· * ·) (E.pair Q P) (E.pair Q' P)
  add_right {Q : Point Fq2} {P P' : Point Fq} : E.g₂.Spans Q → E.g₁.Spans P → E.g₁.Spans P' →
    E.pair Q (E.g₁.add P P') = Option.map₂ (· * ·) (E.pair Q P) (E.pair Q P')

/-- A pairing that is not the one at the two bases. -/
def IsNondegenerate (E : PairingSystem T) : Prop := E.pair E.g₂.base E.g₁.base ≠ some 1

/-- The value at the `k`-th multiple of the second base and the first base. -/
def exponent (E : PairingSystem T) (k : Fr) : T :=
  (E.pair (E.g₂.scale k E.g₂.base) E.g₁.base).getD 1

namespace IsBilinear

variable {E : PairingSystem T} [E.g₁.Lawful] [E.g₂.Lawful]

/-- The value at a multiple of the second base and the first base itself. -/
theorem pair_generator (hE : E.IsBilinear) (k : Fr) :
    E.pair (k • E.g₂.generator).point E.g₁.base = some (E.exponent k) := by
  obtain ⟨t, ht⟩ := Option.isSome_iff_exists.mp
    (hE.isSome (E.g₂.spans_smul_generator k) E.g₁.spans_base)
  rw [exponent, ← PointGroup.point_smul_generator, ht]
  rfl

/-- The pairing is one at zero times the base. -/
theorem exponent_zero (hE : E.IsBilinear) : E.exponent 0 = 1 := by
  have h := hE.pair_generator 0
  rw [zero_smul, PointGroup.Member.point_zero] at h
  exact Option.some.inj (h.symm.trans (hE.none_left E.g₁.spans_base))

/-- Sums of scalars become products. -/
theorem exponent_add (hE : E.IsBilinear) (k l : Fr) :
    E.exponent (k + l) = E.exponent k * E.exponent l := by
  apply Option.some.inj
  rw [← hE.pair_generator, add_smul, PointGroup.Member.point_add,
    hE.add_left (E.g₂.spans_smul_generator k) (E.g₂.spans_smul_generator l) E.g₁.spans_base,
    hE.pair_generator, hE.pair_generator]
  rfl

/-- The value at a multiple of the second base and a repeated first base. -/
theorem pair_nsmul (hE : E.IsBilinear) (k : Fr) (l : ℕ) :
    E.pair (k • E.g₂.generator).point (l • E.g₁.generator).point =
      some (E.exponent (k * l)) := by
  have hk := E.g₂.spans_smul_generator k
  induction l with
  | zero =>
    rw [zero_nsmul, PointGroup.Member.point_zero, hE.none_right hk, Nat.cast_zero, mul_zero,
      hE.exponent_zero]
  | succ l ih =>
    have hl : E.g₁.Spans (l • E.g₁.generator).point := by
      rw [← Nat.cast_smul_eq_nsmul Fr]
      exact E.g₁.spans_smul_generator l
    rw [succ_nsmul, PointGroup.Member.point_add, PointGroup.point_generator,
      hE.add_right hk hl E.g₁.spans_base, ih, hE.pair_generator, Nat.cast_succ, mul_add, mul_one,
      hE.exponent_add]
    rfl

/-- The value at multiples of both bases depends on the product of the scalars only. -/
theorem pair_smul (hE : E.IsBilinear) (k l : Fr) :
    E.pair (k • E.g₂.generator).point (l • E.g₁.generator).point =
      some (E.exponent (k * l)) := by
  have h := hE.pair_nsmul k l.val
  rwa [show ((l.val : ℕ) : Fr) = l from Residue.ofNat_val l] at h

/-- If a nonzero scalar had exponent one, then every scalar would. -/
theorem exponent_ne_one (hE : E.IsBilinear) (hne : E.IsNondegenerate) {k : Fr} (hk : k ≠ 0) :
    E.exponent k ≠ 1 := by
  intro h
  have hone : (1 : T) * 1 = 1 := by
    rw [← hE.exponent_zero, ← hE.exponent_add, add_zero]
  have hmul : ∀ l : ℕ, E.exponent (k * l) = 1 := by
    intro l
    induction l with
    | zero => rw [Nat.cast_zero, mul_zero, hE.exponent_zero]
    | succ l ih => rw [Nat.cast_succ, mul_add, mul_one, hE.exponent_add, ih, h, hone]
  have hlast := hmul (k⁻¹).val
  rw [show (((k⁻¹).val : ℕ) : Fr) = k⁻¹ from Residue.ofNat_val _, mul_inv_cancel₀ hk] at hlast
  apply hne
  have hbase := hE.pair_generator 1
  rwa [one_smul, PointGroup.point_generator, hlast] at hbase

/-- Different scalars have different exponents under a nondegenerate pairing. -/
theorem exponent_injective (hE : E.IsBilinear) (hne : E.IsNondegenerate) :
    Function.Injective E.exponent := by
  intro k l h
  by_contra hkl
  apply hE.exponent_ne_one hne (sub_ne_zero.mpr hkl)
  rw [sub_eq_add_neg, hE.exponent_add, h, ← hE.exponent_add, add_neg_cancel, hE.exponent_zero]

/-- The exponent of a scalar is a power of the value at the bases. -/
theorem exponent_eq_pow {M : Type} [Monoid M] {E : PairingSystem M} [E.g₁.Lawful] [E.g₂.Lawful]
    (hE : E.IsBilinear) (k : Fr) : E.exponent k = E.exponent 1 ^ k.val := by
  have hpow : ∀ n : ℕ, E.exponent n = E.exponent 1 ^ n := by
    intro n
    induction n with
    | zero => rw [Nat.cast_zero, hE.exponent_zero, pow_zero]
    | succ n ih => rw [Nat.cast_succ, hE.exponent_add, ih, pow_succ]
  have h := hpow k.val
  rwa [show ((k.val : ℕ) : Fr) = k from Residue.ofNat_val k] at h

end IsBilinear

end PairingSystem

/-! ### The value of the ate pairing at the bases -/

namespace Ate

/-- The exponent of the long power that ends the pairing. It has more than seven hundred binary
digits. -/
def longExponent : ℕ :=
  (fieldModulus * fieldModulus * (fieldModulus * fieldModulus) - fieldModulus * fieldModulus + 1) /
    groupOrder

/-- The base that the exponent is written in. It has three digits there, and the power after each of
them is written out, so that no evaluation goes deeper than for one of them. -/
def digitBase : ℕ := 2 ^ 254

/-- What the last power makes of the lines of the bases before its long factor. -/
def beforeLongPower : Fq12 where
  b0 :=
    ⟨⟨.ofNat 12879671296228341798957541889042068293248913689212425431224938470232546313254,
        .ofNat 3326450555199805883965490851796414254830144151329718176108864533289444035270⟩,
      ⟨.ofNat 20034916004680903865371475524544157810838259782601065778963371780592670397755,
        .ofNat 18196221800554323016660057972017335112712278872243164622794778048181747904770⟩,
      ⟨.ofNat 2650685350723162073065693030364953757603657135232283880472468071129041178893,
        .ofNat 1415534485628002925645978830263295545820817030311522411523977773123510463790⟩⟩
  b1 :=
    ⟨⟨.ofNat 11706129207700151979042100288958216850158405562525260961392090752318820540155,
        .ofNat 13581688218243497693010389261307054804658398598414171976249347555990073884710⟩,
      ⟨.ofNat 865661210072615391091663782916883487315505694294592934212781713437127182959,
        .ofNat 5364456672142552956341240304849409513108281743490635067211876654163672173225⟩,
      ⟨.ofNat 11182696274116283149832659131689911508224992839995672842130064887471806829782,
        .ofNat 13862086431460254638576437312497952755826436162922426416336796129991391475329⟩⟩

/-- The power by the leading digit of the long exponent. -/
def leadingPower : Fq12 where
  b0 :=
    ⟨⟨.ofNat 5333603328528117895809547453431612834162358729823961373730566679963314815728,
        .ofNat 14976653769825223650813081854497669841127852400762366619616505450341003482655⟩,
      ⟨.ofNat 19751267191558751176382780444340345642198970325596651864838038471458898479795,
        .ofNat 3104132982611960347681223877924486312453816783406584239077981645099092856371⟩,
      ⟨.ofNat 6400632372047060273154248042468018815939210837822143410973195074147564369383,
        .ofNat 3859879652166731605630737843886036003267856536500016571297896664872293314250⟩⟩
  b1 :=
    ⟨⟨.ofNat 9140438467319507569755927700604836347676947620722723637675360810763048068736,
        .ofNat 2665568003842324955623816389899561676477149439090572706901456902172857963783⟩,
      ⟨.ofNat 19796608272302755500569987853355541664184188643262859598406985483352009043833,
        .ofNat 18258642315271813641263061516180335002344378686848728651542068106264553015813⟩,
      ⟨.ofNat 4482235388570910220633446306521369643471645204226889205059572342094433968788,
        .ofNat 2189108881501635364419929779393191508777091865071942148691919380474988567458⟩⟩

/-- The power by the two leading digits. -/
def middlePower : Fq12 where
  b0 :=
    ⟨⟨.ofNat 18071217498341972249782753223765173232206249606033644709859064857714746882999,
        .ofNat 634948234106805777202908235274223039039449792808586194247977821703962045573⟩,
      ⟨.ofNat 21602189785769304378376048291598230140209542747330212241053270083630804754861,
        .ofNat 14174332944395934592089395879090765824513152211630833522543252398409712015829⟩,
      ⟨.ofNat 13386198158723639752431056162637187170287838473206232086719835843352546195613,
        .ofNat 12489250157446513080323737346264437220448473776098728439595355949488842580162⟩⟩
  b1 :=
    ⟨⟨.ofNat 13240956011005861365842830585145113655732767780245950298335944214249139712771,
        .ofNat 7170489814451997725314410020594398975749204530641851161346655756597323551562⟩,
      ⟨.ofNat 8066041979672251687542402482308521562076115002749196019347407703804160845890,
        .ofNat 6327084355980286849242749286403356689109173671679490438761271984895271131507⟩,
      ⟨.ofNat 18055773727062775278744653859886789785103074298544233424390982139701888809192,
        .ofNat 4891425029471695093631441282606715770846558062221043022322012787496081883868⟩⟩

/-- The value of the pairing at the bases. -/
def root : Fq12 where
  b0 :=
    ⟨⟨.ofNat 8493334370784016972005089913588211327688223499729897951716206968320726508021,
        .ofNat 3758435817766288188804561253838670030762970764366672594784247447067868088068⟩,
      ⟨.ofNat 6565798094314091391201231504228224566495939541538094766881371862976727043038,
        .ofNat 14656606573936501743457633041048024656612227301473084805627390748872617280984⟩,
      ⟨.ofNat 634997487638609332803583491743335852620873788902390365055086820718589720118,
        .ofNat 19455424343576886430889849773367397946457449073528455097210946839000147698372⟩⟩
  b1 :=
    ⟨⟨.ofNat 20049218015652006197026173611347504489508678646783216776320737476707192559881,
        .ofNat 18059168546148152671857026372711724379319778306792011146784665080987064164612⟩,
      ⟨.ofNat 12145052038566888241256672223106590273978429515702193755778990643425246950730,
        .ofNat 17918828665069491344039743589118342552553375221610735811112289083834142789347⟩,
      ⟨.ofNat 6223602427219597392892794664899549544171383137467762280768257680446283161705,
        .ofNat 7484542354754424633621663080190936924481536615300815203692506276894207018007⟩⟩

/-- The lines of the bases and the short part of the last power. -/
theorem loop_base : (loop Bn254.base₂ Bn254.base₁).map
    (fun f => (f.conj / f).powModulusSq * (f.conj / f)) = some beforeLongPower := by
  decide +kernel

/-- The power by the leading digit of the exponent. -/
theorem pow_leading : beforeLongPower ^ (longExponent / digitBase / digitBase) = leadingPower := by
  rw [← Fq12.pow_eq]
  decide +kernel

/-- The power by two digits, from that by the leading one. -/
theorem pow_middle : leadingPower ^ digitBase *
    beforeLongPower ^ (longExponent / digitBase % digitBase) = middlePower := by
  rw [← Fq12.pow_eq, ← Fq12.pow_eq]
  decide +kernel

/-- The power by all three digits, from that by two. -/
theorem pow_last :
    middlePower ^ digitBase * beforeLongPower ^ (longExponent % digitBase) = root := by
  rw [← Fq12.pow_eq, ← Fq12.pow_eq]
  decide +kernel

/-- A power by a number is one by its quotient and one by its remainder. -/
theorem pow_div_mod (a : Fq12) (e b : ℕ) : a ^ e = (a ^ (e / b)) ^ b * a ^ (e % b) := by
  rw [← pow_mul, ← pow_add, Nat.div_add_mod']

/-- The long power, digit by digit. -/
theorem pow_longExponent : beforeLongPower ^ longExponent = root := by
  rw [pow_div_mod _ longExponent digitBase, pow_div_mod _ (longExponent / digitBase) digitBase,
    pow_leading, pow_middle, pow_last]

/-- The pairing of the bases. -/
theorem pair_base : pair (some Bn254.base₂) (some Bn254.base₁) = some root := by
  obtain ⟨f, hf, hbefore⟩ := Option.map_eq_some_iff.mp loop_base
  have hfinal : finalPower f = root := by
    rw [← pow_longExponent, ← hbefore, ← Fq12.pow_eq]
    rfl
  have hcurves : Bn254.onTwist (some Bn254.base₂) && Bn254.onCurve₁ (some Bn254.base₁) := by
    decide +kernel
  rw [pair, if_pos hcurves]
  change (loop Bn254.base₂ Bn254.base₁).map finalPower = some root
  rw [hf, Option.map_some, hfinal]

/-- The value at the bases is a root of unity. -/
theorem root_pow : root ^ groupOrder = 1 := by
  rw [← Fq12.pow_eq]
  decide +kernel

/-- The value at the bases is not the one. -/
theorem root_ne_one : root ≠ 1 := by decide

end Ate

/-! ### The curve pair with a given pairing -/

namespace Bn254

/-- The two groups of the curve pair, joined by a pairing. -/
@[reducible]
def system {T : Type} (pair : Point Fq2 → Point Fq → Option T) : PairingSystem T where
  g₁ := group₁
  g₂ := group₂
  pair := pair

/-- The service joins them by the ate pairing. -/
theorem system_pair : system Ate.pair = bn254 := rfl

/-- The pairing of the service is nondegenerate. -/
theorem isNondegenerate : bn254.IsNondegenerate := by
  simp only [PairingSystem.IsNondegenerate, bn254, group₁, group₂, Ate.pair_base]
  exact fun h => Ate.root_ne_one (Option.some.inj h)

instance : bn254.g₁.Lawful := group₁_lawful

instance : bn254.g₂.Lawful := group₂_lawful

end Bn254

/-! ### Pairing by discrete logarithms -/

namespace PointGroup

variable {F : Type} (G : PointGroup F)

open Classical in
/-- The scalar of a multiple of the base, and zero for any other point. -/
noncomputable def log (P : Point F) : Fr := if h : G.Spans P then h.choose else 0

variable [G.Lawful]

/-- The logarithm of a multiple of the base is the scalar. -/
theorem log_scale (k : Fr) : G.log (G.scale k G.base) = k := by
  have h : G.Spans (G.scale k G.base) := ⟨k, rfl⟩
  rw [log, dif_pos h]
  exact scale_base_injective h.choose_spec

/-- The logarithm of the identity is zero. -/
theorem log_none : G.log none = 0 := by
  have h := G.log_scale 0
  rwa [← point_smul_generator, zero_smul, Member.point_zero] at h

/-- The logarithm of the base is one. -/
theorem log_base : G.log G.base = 1 := by
  have h := G.log_scale 1
  rwa [← point_smul_generator, one_smul, point_generator] at h

/-- The logarithm of a sum is the sum of the logarithms. -/
theorem log_add {P Q : Point F} (hP : G.Spans P) (hQ : G.Spans Q) :
    G.log (G.add P Q) = G.log P + G.log Q := by
  obtain ⟨k, rfl⟩ := hP
  obtain ⟨l, rfl⟩ := hQ
  rw [log_scale, log_scale, ← point_smul_generator, ← point_smul_generator, ← Member.point_add,
    ← add_smul, point_smul_generator, log_scale]

end PointGroup

namespace Bn254

variable {T : Type} [Monoid T]

/-- The power of `g` by the product of the logarithms of two points of the curves. -/
noncomputable def logPair (g : T) (Q : Point Fq2) (P : Point Fq) : Option T :=
  if onTwist Q && onCurve₁ P then some (g ^ (group₂.log Q * group₁.log P).val) else none

variable {g : T}

/-- The value of the pairing by logarithms at spanned points. -/
theorem logPair_of_spans {Q : Point Fq2} {P : Point Fq} (hQ : group₂.Spans Q)
    (hP : group₁.Spans P) :
    (system (logPair g)).pair Q P = some (g ^ (group₂.log Q * group₁.log P).val) := by
  obtain ⟨k, rfl⟩ := hQ
  obtain ⟨l, rfl⟩ := hP
  have hQ := onTwist_of_inSubgroup₂ (PointGroup.contains_scale_base (G := group₂) k)
  have hP := PointGroup.contains_scale_base (G := group₁) l
  exact if_pos (by rw [hQ, show onCurve₁ _ = true from hP]; rfl)

/-- A power of a root of unity by a sum of scalars is a product of powers. -/
theorem pow_val_add (hg : g ^ groupOrder = 1) (k l : Fr) :
    g ^ (k + l).val = g ^ k.val * g ^ l.val := by
  rw [Residue.val_add, ← pow_add, ← pow_eq_pow_mod _ hg]

/-- A root of unity gives a bilinear pairing. -/
theorem logPair_isBilinear (hg : g ^ groupOrder = 1) : (system (logPair g)).IsBilinear where
  isSome hQ hP := by rw [logPair_of_spans hQ hP]; rfl
  none_left hP := by
    rw [logPair_of_spans (PointGroup.spans_none _) hP, PointGroup.log_none, zero_mul]
    exact congrArg some (pow_zero g)
  none_right hQ := by
    rw [logPair_of_spans hQ (PointGroup.spans_none _), PointGroup.log_none, mul_zero]
    exact congrArg some (pow_zero g)
  add_left hQ hQ' hP := by
    rw [logPair_of_spans hQ hP, logPair_of_spans hQ' hP, logPair_of_spans (hQ.add hQ') hP,
      PointGroup.log_add _ hQ hQ', add_mul, pow_val_add hg]
    rfl
  add_right hQ hP hP' := by
    rw [logPair_of_spans hQ hP, logPair_of_spans hQ hP', logPair_of_spans hQ (hP.add hP'),
      PointGroup.log_add _ hP hP', mul_add, pow_val_add hg]
    rfl

/-- A root of unity other than the one gives a nondegenerate pairing. -/
theorem logPair_isNondegenerate (hg : g ≠ 1) : (system (logPair g)).IsNondegenerate := by
  intro h
  rw [logPair_of_spans (PointGroup.spans_base _) (PointGroup.spans_base _),
    PointGroup.log_base, PointGroup.log_base, mul_one, show (1 : Fr).val = 1 by decide,
    pow_one] at h
  exact hg (Option.some.inj h)

/-- A bilinear pairing is the one by logarithms to its value at the bases. -/
theorem pair_eq_logPair {pair : Point Fq2 → Point Fq → Option T} (hpair : (system pair).IsBilinear)
    (hbase : pair group₂.base group₁.base = some g) {Q : Point Fq2} {P : Point Fq}
    (hQ : group₂.Spans Q) (hP : group₁.Spans P) : pair Q P = logPair g Q P := by
  have hone : (system pair).exponent 1 = g := by
    have h := hpair.pair_generator 1
    rw [one_smul, PointGroup.point_generator] at h
    exact Option.some.inj (h.symm.trans hbase)
  refine Eq.trans ?_ (logPair_of_spans hQ hP).symm
  obtain ⟨k, rfl⟩ := hQ
  obtain ⟨l, rfl⟩ := hP
  rw [PointGroup.log_scale, PointGroup.log_scale, ← hone, ← hpair.exponent_eq_pow,
    ← hpair.pair_smul, PointGroup.point_smul_generator, PointGroup.point_smul_generator]

/-- If the pairing of the service is bilinear, it is the one by logarithms to its value at the
bases. -/
theorem ate_eq_logPair (hbilinear : bn254.IsBilinear) {Q : Point Fq2} {P : Point Fq}
    (hQ : group₂.Spans Q) (hP : group₁.Spans P) : Ate.pair Q P = logPair Ate.root Q P := by
  rw [← system_pair] at hbilinear
  exact pair_eq_logPair hbilinear Ate.pair_base hQ hP

end Bn254

end PolyCommit

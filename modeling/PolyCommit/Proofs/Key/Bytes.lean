import PolyCommit.Key.Bytes
import PolyCommit.Proofs.Bytes.Hex
import PolyCommit.Proofs.Bytes.Points
import PolyCommit.Proofs.Key.Basic
import PolyCommit.Proofs.Key.Fields

/-!
# The encoding of keys is canonical

A key is valid if its counts have room and its points are members of their groups. Bytes are read as
a key exactly when they are the encoding of a valid key, and otherwise refused as malformed. The two
counts of the encoding tell where its pieces begin, every piece is read exactly from the encoding of
a member, and the check of the length leaves nothing over.
-/

namespace PolyCommit

namespace Key

/-! ### Pieces of equal width -/

section Pieces

variable {α : Type} {write : α → Bytes} {size : ℕ} {data : Bytes}

/-- Bytes are written from a list by a writer of constant width exactly when their pieces are those
of the list. -/
theorem pieces_eq_map_iff (hwidth : ∀ a, (write a).length = size) {as : List α}
    (hlength : as.length * size ≤ data.length) :
    pieces size as.length data = as.map write ↔
      data.take (as.length * size) = as.flatMap write := by
  induction as generalizing data with
  | nil => simp [pieces]
  | cons a as ih =>
    rw [List.length_cons, Nat.succ_mul] at hlength
    have hrest : as.length * size ≤ (data.drop size).length := by
      rw [List.length_drop]
      omega
    have hfirst : (data.take size).length = (write a).length := by
      rw [hwidth, List.length_take]
      omega
    rw [List.length_cons, pieces, List.map_cons, List.cons.injEq, ih hrest, List.flatMap_cons,
      Nat.succ_mul, Nat.add_comm, List.take_add]
    exact ⟨fun ⟨h, hrest⟩ => by rw [h, hrest], fun h => List.append_inj h hfirst⟩

/-- There are as many pieces as asked for. -/
theorem length_pieces (size count : ℕ) (data : Bytes) :
    (pieces size count data).length = count := by
  induction count generalizing data with
  | zero => rfl
  | succ count ih => rw [pieces, List.length_cons, ih]

/-- A reader that takes exactly the encodings of members takes a list of encodings of members. -/
theorem mapM_read_eq_ok_iff {read : Bytes → Except Failure α} {member : α → Prop}
    (hread : ∀ d a, read d = .ok a ↔ d = write a ∧ member a) {ds : List Bytes} {as : List α} :
    ds.mapM read = .ok as ↔ ds = as.map write ∧ ∀ a ∈ as, member a := by
  rw [mapM_eq_ok_iff]
  induction as generalizing ds with
  | nil => simp
  | cons a as ih =>
    rw [List.forall₂_cons_right_iff, List.map_cons, List.forall_mem_cons]
    constructor
    · rintro ⟨d, ds', hd, hds, rfl⟩
      obtain ⟨rfl, ha⟩ := (hread d a).mp hd
      obtain ⟨rfl, has⟩ := ih.mp hds
      exact ⟨rfl, ha, has⟩
    · rintro ⟨rfl, ha, has⟩
      exact ⟨write a, as.map write, (hread _ a).mpr ⟨rfl, ha⟩, ih.mpr ⟨rfl, has⟩, rfl⟩

/-- It reads the pieces of bytes that were written from members. -/
theorem mapM_pieces_eq_ok_iff {read : Bytes → Except Failure α} {member : α → Prop}
    (hread : ∀ d a, read d = .ok a ↔ d = write a ∧ member a)
    (hwidth : ∀ a, (write a).length = size) {count : ℕ} (hlength : count * size ≤ data.length)
    {as : List α} :
    (pieces size count data).mapM read = .ok as ↔
      as.length = count ∧ data.take (count * size) = as.flatMap write ∧ ∀ a ∈ as, member a := by
  rw [mapM_read_eq_ok_iff hread]
  constructor
  · rintro ⟨hpieces, hmember⟩
    have hcount : as.length = count := by
      rw [← length_pieces size count data, hpieces, List.length_map]
    subst hcount
    exact ⟨rfl, (pieces_eq_map_iff hwidth hlength).mp hpieces, hmember⟩
  · rintro ⟨rfl, hwritten, hmember⟩
    exact ⟨(pieces_eq_map_iff hwidth hlength).mpr hwritten, hmember⟩

end Pieces

/-! ### The encoding of a key -/

variable {T : Type} {E : PairingSystem T} {key : Key} {data : Bytes}

/-- Whether the counts of a key have room and its points are members of their groups. -/
structure IsValid (E : PairingSystem T) (key : Key) : Prop where
  size₁_lt : key.size₁ < 2 ^ 32
  size₂_lt : key.size₂ < 2 ^ 32
  isContained : key.IsContained E

/-- A key is countable when both counts fit into four bytes. -/
theorem isCountable_iff : key.isCountable = true ↔ key.size₁ < 2 ^ 32 ∧ key.size₂ < 2 ^ 32 := by
  rw [isCountable, Bool.and_eq_true, decide_eq_true_eq, decide_eq_true_eq]
  rfl

/-- A key is encoded when it is countable, and then as its bytes. -/
theorem encode_eq_ok_iff : key.encode = .ok data ↔ key.isCountable = true ∧ key.toBytes = data := by
  unfold encode
  split
  · next h => rw [Except.ok.injEq, and_iff_right h]
  · next h => exact iff_of_false nofun fun h' => h h'.1

/-- A valid key is encoded as its bytes. -/
theorem IsValid.encode_eq (h : key.IsValid E) : key.encode = .ok key.toBytes :=
  encode_eq_ok_iff.mpr ⟨isCountable_iff.mpr ⟨h.size₁_lt, h.size₂_lt⟩, rfl⟩

/-- What bytes are read as, once the two counts are set apart. -/
theorem ofBytes_append {a b body : Bytes} (ha : a.length = countBytes)
    (hb : b.length = countBytes) :
    ofBytes E (a ++ b ++ body) = .ok key ↔
      body.length = BigEndian.decode a * point₁Bytes + BigEndian.decode b * point₂Bytes ∧
      (pieces point₁Bytes (BigEndian.decode a) body).mapM (Decoding.point₁ E) = .ok key.points₁ ∧
      (pieces point₂Bytes (BigEndian.decode b)
        (body.drop (BigEndian.decode a * point₁Bytes))).mapM (Decoding.point₂ E) =
          .ok key.points₂ := by
  have hheader : (a ++ b ++ body).length = 2 * countBytes + body.length := by
    simp [ha, hb]
    omega
  have hfirst : (a ++ b ++ body).take countBytes = a := by
    rw [List.append_assoc, List.take_left' ha]
  have hsecond : ((a ++ b ++ body).drop countBytes).take countBytes = b := by
    rw [List.append_assoc, List.drop_left' ha, List.take_left' hb]
  have hbody : (a ++ b ++ body).drop (2 * countBytes) = body :=
    List.drop_left' (by rw [List.length_append, ha, hb, Nat.two_mul])
  unfold ofBytes
  dsimp only
  rw [hheader, hfirst, hsecond, hbody, if_neg (by omega)]
  by_cases hlength :
      body.length = BigEndian.decode a * point₁Bytes + BigEndian.decode b * point₂Bytes
  · rw [if_neg (by omega), and_iff_right hlength, bind_eq_ok_iff]
    constructor
    · rintro ⟨ps, hps, h⟩
      obtain ⟨qs, hqs, h⟩ := bind_eq_ok_iff.mp h
      obtain ⟨rfl, rfl⟩ := ofPoints_eq_ok_iff.mp h
      exact ⟨hps, hqs⟩
    · rintro ⟨hps, hqs⟩
      exact ⟨_, hps, bind_eq_ok_iff.mpr ⟨_, hqs, ofPoints_points key⟩⟩
  · rw [if_pos (by omega)]
    exact iff_of_false nofun fun h => hlength h.1

/-- Bytes that are read as a key hold both counts. -/
theorem le_length_of_ofBytes (h : ofBytes E data = .ok key) : 2 * countBytes ≤ data.length := by
  by_contra hlt
  unfold ofBytes at h
  dsimp only at h
  rw [if_pos (by omega)] at h
  cases h

/-- Bytes that are long enough begin with both counts. -/
theorem exists_counts_append (h : 2 * countBytes ≤ data.length) :
    ∃ a b body : Bytes, data = a ++ b ++ body ∧ a.length = countBytes ∧ b.length = countBytes := by
  refine ⟨data.take countBytes, (data.drop countBytes).take countBytes,
    data.drop (2 * countBytes), ?_, ?_, ?_⟩
  · rw [List.append_assoc, Nat.two_mul, ← List.drop_drop, List.take_append_drop,
      List.take_append_drop]
  · rw [List.length_take]
    omega
  · rw [List.length_take, List.length_drop]
    omega

/-- Everything that is not read as a key is refused as malformed. -/
theorem fails_ofBytes : Fails Failure.IsMalformed (ofBytes E data) := by
  unfold ofBytes
  dsimp only
  split
  · exact .error ⟨_, rfl⟩
  · split
    · exact .error ⟨_, rfl⟩
    · exact .bind (.mapM fun _ _ => Decoding.fails_point₁) fun _ _ =>
        .bind (.mapM fun _ _ => Decoding.fails_point₂) fun _ _ => fails_ofPoints

section Canonical

variable [E.g₁.Lawful] [E.g₂.Lawful] [E.g₁.OriginFree] [E.g₂.OriginFree]

/-- Only the encoding of a valid key is read as that key. -/
theorem isValid_of_ofBytes (h : ofBytes E data = .ok key) :
    key.IsValid E ∧ key.toBytes = data := by
  obtain ⟨a, b, body, rfl, ha, hb⟩ := exists_counts_append (le_length_of_ofBytes h)
  obtain ⟨hlength, hps, hqs⟩ := (ofBytes_append ha hb).mp h
  obtain ⟨hn₁, hbody₁, hmember₁⟩ := (mapM_pieces_eq_ok_iff (fun _ _ => Decoding.point₁_eq_ok_iff)
    Encoding.length_point₁ (by omega)).mp hps
  have hrest : (body.drop (BigEndian.decode a * point₁Bytes)).length =
      BigEndian.decode b * point₂Bytes := by
    rw [List.length_drop]
    omega
  obtain ⟨hn₂, hbody₂, hmember₂⟩ := (mapM_pieces_eq_ok_iff (fun _ _ => Decoding.point₂_eq_ok_iff)
    Encoding.length_point₂ hrest.ge).mp hqs
  rw [List.take_of_length_le hrest.le] at hbody₂
  rw [length_points₁] at hn₁
  rw [length_points₂] at hn₂
  have hcount (c : Bytes) (hc : c.length = countBytes) : BigEndian.decode c < 2 ^ 32 :=
    (BigEndian.decode_lt c).trans_eq (by rw [hc]; rfl)
  have hencode (c : Bytes) (hc : c.length = countBytes) :
      BigEndian.encode countBytes (BigEndian.decode c) = c := by
    rw [← hc, BigEndian.encode_decode]
  refine ⟨⟨hn₁.trans_lt (hcount a ha), hn₂.trans_lt (hcount b hb), hmember₁, hmember₂⟩, ?_⟩
  rw [toBytes, hn₁, hn₂, hencode a ha, hencode b hb, ← hbody₁, ← hbody₂, List.append_assoc,
    List.take_append_drop]

/-- A valid key is read from its encoding. -/
theorem ofBytes_toBytes (h : key.IsValid E) : ofBytes E key.toBytes = .ok key := by
  have hdecode (n : ℕ) (hn : n < 2 ^ 32) :
      BigEndian.decode (BigEndian.encode countBytes n) = n := by
    rw [BigEndian.decode_encode]
    exact Nat.mod_eq_of_lt hn
  have hwidth₁ : (key.points₁.flatMap Encoding.point₁).length = key.size₁ * point₁Bytes := by
    simp [List.length_flatMap, ← length_points₁]
  have hwidth₂ : (key.points₂.flatMap Encoding.point₂).length = key.size₂ * point₂Bytes := by
    simp [List.length_flatMap, ← length_points₂]
  rw [toBytes, List.append_assoc _ (key.points₁.flatMap _),
    ofBytes_append (BigEndian.length_encode _ _) (BigEndian.length_encode _ _),
    hdecode _ h.size₁_lt, hdecode _ h.size₂_lt, List.drop_left' hwidth₁]
  refine ⟨by rw [List.length_append, hwidth₁, hwidth₂], ?_, ?_⟩
  · have hle : key.size₁ * point₁Bytes ≤
        (key.points₁.flatMap Encoding.point₁ ++ key.points₂.flatMap Encoding.point₂).length := by
      rw [List.length_append]
      omega
    exact (mapM_pieces_eq_ok_iff (fun _ _ => Decoding.point₁_eq_ok_iff) Encoding.length_point₁
      hle).mpr ⟨key.length_points₁, List.take_left' hwidth₁, h.isContained.1⟩
  · exact (mapM_pieces_eq_ok_iff (fun _ _ => Decoding.point₂_eq_ok_iff) Encoding.length_point₂
      hwidth₂.ge).mpr ⟨key.length_points₂, List.take_of_length_le hwidth₂.le, h.isContained.2⟩

/-- Bytes are read as a key exactly when they are the encoding of a valid key. -/
theorem ofBytes_eq_ok_iff : ofBytes E data = .ok key ↔ key.IsValid E ∧ key.encode = .ok data := by
  constructor
  · intro h
    obtain ⟨hvalid, rfl⟩ := isValid_of_ofBytes h
    exact ⟨hvalid, hvalid.encode_eq⟩
  · rintro ⟨hvalid, hencode⟩
    obtain ⟨-, rfl⟩ := encode_eq_ok_iff.mp hencode
    exact ofBytes_toBytes hvalid

/-- Whatever a hex text is, the key that it spells is valid. -/
theorem yields_ofHex (v : Value) : Yields (IsValid E) (ofHex E v) := by
  unfold ofHex
  split
  · split
    · exact fun _ h => (isValid_of_ofBytes h).1
    · exact .error
  · exact .error

/-- A valid key is read from its hex text. -/
theorem ofHex_toHex (h : key.IsValid E) : ofHex E (.str key.toHex) = .ok key := by
  simp only [ofHex, toHex, Hex.decode?_encode, ofBytes_toBytes h]

end Canonical

/-- The key of the two bases and their opposites is valid. -/
theorem isValid_bases : IsValid bn254
    ⟨[Bn254.base₁, Bn254.base₁.neg], [Bn254.base₂, Bn254.base₂.neg], by simp, by simp⟩ := by
  have hbase₁ := PointGroup.Lawful.contains_base (G := bn254.g₁)
  have hbase₂ := PointGroup.Lawful.contains_base (G := bn254.g₂)
  have hneg₁ : some Bn254.base₁.neg = bn254.g₁.neg bn254.g₁.base := rfl
  have hneg₂ : some Bn254.base₂.neg = bn254.g₂.neg bn254.g₂.base := rfl
  refine ⟨by decide, by decide, ?_, ?_⟩
  · refine List.forall_mem_cons.mpr ⟨hbase₁, List.forall_mem_singleton.mpr ?_⟩
    rw [hneg₁]
    exact PointGroup.Lawful.contains_neg hbase₁
  · refine List.forall_mem_cons.mpr ⟨hbase₂, List.forall_mem_singleton.mpr ?_⟩
    rw [hneg₂]
    exact PointGroup.Lawful.contains_neg hbase₂

/-- Writing and reading are inverse to each other between the valid keys and the bytes that are read
at all. So bytes are accepted exactly if they encode a valid key, and valid keys are told apart by
their encodings. -/
theorem encoding_exact :
    (∀ key : Key, key.IsValid bn254 →
      ∃ data, key.encode = .ok data ∧ ofBytes bn254 data = .ok key) ∧
    (∀ data, (∃ reason, ofBytes bn254 data = .error (.malformed reason)) ∨
      ∃ key, ofBytes bn254 data = .ok key ∧ key.IsValid bn254 ∧ key.encode = .ok data) ∧
    (∀ data, (∃ key, ofBytes bn254 data = .ok key) ↔
      ∃ key : Key, key.IsValid bn254 ∧ key.encode = .ok data) ∧
    ∀ key key' : Key, key.IsValid bn254 → key'.IsValid bn254 →
      (key = key' ↔ key.encode = key'.encode) := by
  refine ⟨fun key hkey => ⟨_, hkey.encode_eq, ofBytes_toBytes hkey⟩, fun data => ?_,
    fun data => exists_congr fun _ => ofBytes_eq_ok_iff, fun key key' hkey hkey' => ?_⟩
  · cases h : ofBytes bn254 data with
    | error f =>
      obtain ⟨reason, rfl⟩ := fails_ofBytes f h
      exact .inl ⟨reason, rfl⟩
    | ok key => exact .inr ⟨key, rfl, ofBytes_eq_ok_iff.mp h⟩
  · refine ⟨fun h => by rw [h], fun h => ?_⟩
    rw [hkey.encode_eq, hkey'.encode_eq, Except.ok.injEq] at h
    have hread := ofBytes_toBytes hkey
    rw [h, ofBytes_toBytes hkey'] at hread
    exact (Except.ok.inj hread).symm

/-- The key of the two bases and their opposites is read back. -/
theorem encoding_exact_bases : ∃ key : Key,
    key.points₁ = [bn254.g₁.base, bn254.g₁.neg bn254.g₁.base] ∧
    key.points₂ = [bn254.g₂.base, bn254.g₂.neg bn254.g₂.base] ∧ key.IsValid bn254 ∧
    ∃ data, key.encode = .ok data ∧ ofBytes bn254 data = .ok key :=
  ⟨_, rfl, rfl, isValid_bases, encoding_exact.1 _ isValid_bases⟩

end Key

end PolyCommit

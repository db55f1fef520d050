import PolyCommit.Transcript
import PolyCommit.Proofs.Bytes.Points

/-!
# A transcript determines its points

Two transcripts with the same kinds of steps under the same labels grow by pieces of the same
widths, so that equal bytes at the end mean equal pieces all along, whatever the hash function adds.
Since no member shares its encoding with another one, equal transcripts have absorbed equal points.
Nothing is ever taken back: what is hashed for one challenge is a proper prefix of what is hashed
for the next.
-/

namespace PolyCommit

namespace Encoding

/-- Points on the curve have different encodings. -/
theorem point₁_inj {P Q : Point Fq} (hP : Bn254.onCurve₁ P = true) (hQ : Bn254.onCurve₁ Q = true) :
    point₁ P = point₁ Q ↔ P = Q := by
  refine ⟨fun h => ?_, congrArg point₁⟩
  have hreadP : Decoding.point₁ bn254 (point₁ P) = .ok P :=
    Decoding.point₁_eq_ok_iff.mpr ⟨rfl, hP⟩
  have hreadQ : Decoding.point₁ bn254 (point₁ Q) = .ok Q :=
    Decoding.point₁_eq_ok_iff.mpr ⟨rfl, hQ⟩
  rw [h, hreadQ, Except.ok.injEq] at hreadP
  exact hreadP.symm

end Encoding

namespace Transcript

/-- The point that a step absorbs, if it is no challenge. -/
def Step.point? : Step → Option (Point Fq)
  | .point _ P => some P
  | .challenge _ => none

/-- Steps of one kind under one label. -/
inductive Step.Alike : Step → Step → Prop
  | point (label : Bytes) (P Q : Point Fq) : Alike (.point label P) (.point label Q)
  | challenge (label : Bytes) : Alike (.challenge label) (.challenge label)

/-- The points that steps absorb, in order. -/
def absorbed (steps : List Step) : List (Point Fq) := steps.filterMap Step.point?

variable (hash : Bytes → Digest)

/-- The transcript before the first step and after each of them. -/
def trace (t : Transcript) (steps : List Step) : List Transcript :=
  t :: (t.run hash steps).map Prod.snd

/-- The transcript after the last step. -/
def final (t : Transcript) (steps : List Step) : Transcript :=
  (trace hash t steps).getLast (List.cons_ne_nil _ _)

/-- What the challenges among the steps hash, in order. -/
def questions : Transcript → List Step → List Bytes
  | _, [] => []
  | t, .point label P :: rest => questions (t.absorb label P) rest
  | t, .challenge label :: rest =>
    t.question label :: questions (t.challenge hash label).2 rest

variable {hash} {t t' : Transcript} {s s' : Step} {steps steps' : List Step}

/-- A trace begins with the transcript before the first step. -/
theorem trace_cons : trace hash t (s :: steps) = t :: trace hash (t.step hash s).2 steps := rfl

/-- Without steps a transcript stays as it is. -/
theorem final_nil : final hash t [] = t := rfl

/-- The last transcript is reached from that after the first step. -/
theorem final_cons : final hash t (s :: steps) = final hash (t.step hash s).2 steps :=
  List.getLast_cons (List.cons_ne_nil _ _)

/-! ### What determines the state -/

variable (hash) in
/-- Steps of one kind under one label add equally many bytes. -/
theorem length_state_step (hs : s.Alike s') (ht : t.state.length = t'.state.length) :
    (t.step hash s).2.state.length = (t'.step hash s').2.state.length := by
  cases hs with
  | point label P Q => simp [step, absorb, ht]
  | challenge label => simp [step, challenge, question, ht, Digest.length_eq]

/-- States of one length stay apart when points are absorbed, unless both are the same. -/
theorem absorb_eq_iff {label : Bytes} {P Q : Point Fq} (ht : t.state.length = t'.state.length)
    (hP : Bn254.onCurve₁ P = true) (hQ : Bn254.onCurve₁ Q = true) :
    t.absorb label P = t'.absorb label Q ↔ t = t' ∧ P = Q := by
  constructor
  · intro h
    obtain ⟨hbefore, hpoint⟩ := List.append_inj (mk.inj h) (by simp [ht])
    obtain ⟨hstate, -⟩ := List.append_inj hbefore ht
    exact ⟨congrArg mk hstate, (Encoding.point₁_inj hP hQ).mp hpoint⟩
  · rintro ⟨rfl, rfl⟩
    rfl

/-- States of one length stay apart when a challenge is taken, unless they are the same. -/
theorem challenge_eq_iff {label : Bytes} (ht : t.state.length = t'.state.length) :
    (t.challenge hash label).2 = (t'.challenge hash label).2 ↔ t = t' := by
  constructor
  · intro h
    obtain ⟨hquestion, -⟩ := List.append_inj (mk.inj h) (by simp [question, ht])
    obtain ⟨hstate, -⟩ := List.append_inj hquestion ht
    exact congrArg mk hstate
  · rintro rfl
    rfl

/-- Transcripts of one length are equal after alike steps exactly when they were before and the
steps absorb the same points. -/
theorem final_eq_iff (hsteps : List.Forall₂ Step.Alike steps steps')
    (ht : t.state.length = t'.state.length)
    (hpoints : ∀ P ∈ absorbed steps, Bn254.onCurve₁ P = true)
    (hpoints' : ∀ P ∈ absorbed steps', Bn254.onCurve₁ P = true) :
    final hash t steps = final hash t' steps' ↔ t = t' ∧ absorbed steps = absorbed steps' := by
  induction hsteps generalizing t t' with
  | nil =>
    rw [final_nil, final_nil]
    exact (and_iff_left rfl).symm
  | cons hs _ ih =>
    have hlength := length_state_step hash hs ht
    cases hs with
    | point label P Q =>
      obtain ⟨hP, hrest⟩ := List.forall_mem_cons.mp hpoints
      obtain ⟨hQ, hrest'⟩ := List.forall_mem_cons.mp hpoints'
      rw [final_cons, final_cons, ih hlength hrest hrest']
      change t.absorb label P = t'.absorb label Q ∧ _ ↔ t = t' ∧ P :: absorbed _ = Q :: absorbed _
      rw [absorb_eq_iff ht hP hQ, List.cons.injEq, and_assoc]
    | challenge label =>
      rw [final_cons, final_cons, ih hlength hpoints hpoints']
      exact and_congr_left' (challenge_eq_iff ht)

/-! ### What is hashed -/

variable (hash) in
/-- A step extends the state. -/
theorem prefix_step (t : Transcript) (s : Step) : t.state <+: (t.step hash s).2.state := by
  cases s with
  | point label P => exact (List.prefix_append _ _).trans (List.prefix_append _ _)
  | challenge label => exact (List.prefix_append _ _).trans (List.prefix_append _ _)

/-- The state at the beginning is a prefix of all others. -/
theorem prefix_of_mem_trace {u : Transcript} (hu : u ∈ trace hash t steps) :
    t.state <+: u.state := by
  induction steps generalizing t with
  | nil => rw [List.mem_singleton.mp hu]
  | cons s steps ih =>
    rw [trace_cons] at hu
    rcases List.mem_cons.mp hu with rfl | hu
    · exact List.prefix_rfl
    · exact (prefix_step hash t s).trans (ih hu)

/-- Every state is a prefix of all later ones. -/
theorem pairwise_trace :
    (trace hash t steps).Pairwise fun earlier later => earlier.state <+: later.state := by
  induction steps generalizing t with
  | nil => exact List.pairwise_singleton _ _
  | cons s steps ih =>
    rw [trace_cons]
    exact .cons (fun u hu => (prefix_step hash t s).trans (prefix_of_mem_trace hu)) ih

/-- The answers are the hashes of the questions as scalars. -/
theorem answers_eq : (run hash t steps).filterMap Prod.fst =
    (questions hash t steps).map fun q => Residue.ofNat (hash q).toNat := by
  induction steps generalizing t with
  | nil => rfl
  | cons s steps ih =>
    cases s with
    | point label P => exact ih
    | challenge label => exact congrArg (_ :: ·) ih

/-- A question begins with the state. -/
theorem prefix_of_mem_questions {q : Bytes} (hq : q ∈ questions hash t steps) : t.state <+: q := by
  induction steps generalizing t with
  | nil => cases hq
  | cons s steps ih =>
    cases s with
    | point label P => exact (prefix_step hash t (.point label P)).trans (ih hq)
    | challenge label =>
      rcases List.mem_cons.mp hq with rfl | hq
      · exact List.prefix_append _ _
      · exact (prefix_step hash t (.challenge label)).trans (ih hq)

/-- The digest makes every later question longer. -/
theorem pairwise_questions :
    (questions hash t steps).Pairwise fun earlier later => earlier.length < later.length := by
  induction steps generalizing t with
  | nil => exact .nil
  | cons s steps ih =>
    cases s with
    | point label P => exact ih
    | challenge label =>
      refine .cons (fun q hq => ?_) ih
      have hlength := (prefix_of_mem_questions hq).length_le
      simp only [challenge, List.length_append, Digest.length_eq] at hlength
      omega

/-- No question is asked twice. -/
theorem nodup_questions : (questions hash t steps).Nodup :=
  pairwise_questions.imp fun hlt heq => absurd (congrArg List.length heq) hlt.ne

/-! ### The transcript of three commitments -/

/-- The steps in which three commitments are said. -/
def commitmentSteps (A B C : Point Fq) : List Step :=
  [.point (label "commit_a") A, .point (label "commit_b") B, .point (label "commit_c") C]

variable (hash) in
/-- The steps for three commitments lead to their transcript. -/
theorem final_commitmentSteps (A B C : Point Fq) :
    final hash (start defaultLabel) (commitmentSteps A B C) = ofCommitments A B C := rfl

/-- Questions under one label are told apart by the transcripts. -/
theorem question_eq_iff {label : Bytes} : t.question label = t'.question label ↔ t = t' :=
  List.append_left_inj label |>.trans (mk.injEq _ _).to_iff.symm

/-- Three commitments on the curve are determined by the question under one label. -/
theorem question_ofCommitments_eq_iff {label : Bytes} {A B C A' B' C' : Point Fq}
    (hpoints : ∀ P ∈ [A, B, C], Bn254.onCurve₁ P = true)
    (hpoints' : ∀ P ∈ [A', B', C'], Bn254.onCurve₁ P = true) :
    (ofCommitments A B C).question label = (ofCommitments A' B' C').question label ↔
      A = A' ∧ B = B' ∧ C = C' := by
  have halike : List.Forall₂ Step.Alike (commitmentSteps A B C) (commitmentSteps A' B' C') :=
    .cons (.point _ A A') (.cons (.point _ B B') (.cons (.point _ C C') .nil))
  -- No challenge stands among the steps, so that any hash function will do.
  rw [question_eq_iff, ← final_commitmentSteps Sha256.hash, ← final_commitmentSteps Sha256.hash,
    final_eq_iff halike rfl hpoints hpoints']
  simp [absorbed, commitmentSteps, Step.point?]

/-- Transcripts of members on the curve with the same kinds of steps under the same labels are equal
exactly when the members are. In every run the states extend one another and the questions, whose
hashes are the answers, become longer and longer; and the question for three commitments
determines them, their order included. -/
theorem binding (hash : Bytes → Digest) (first : Bytes) :
    (∀ steps steps', List.Forall₂ Step.Alike steps steps' →
      (∀ P ∈ absorbed steps, Bn254.onCurve₁ P = true) →
      (∀ P ∈ absorbed steps', Bn254.onCurve₁ P = true) →
      (final hash (start first) steps = final hash (start first) steps' ↔
        absorbed steps = absorbed steps')) ∧
    (∀ steps,
      ((trace hash (start first) steps).Pairwise fun earlier later =>
        earlier.state <+: later.state) ∧
      (run hash (start first) steps).filterMap Prod.fst =
        ((questions hash (start first) steps).map fun q => Residue.ofNat (hash q).toNat) ∧
      ((questions hash (start first) steps).Pairwise fun earlier later =>
        earlier.length < later.length) ∧
      (questions hash (start first) steps).Nodup) ∧
    ∀ A B C A' B' C', (∀ P ∈ [A, B, C], Bn254.onCurve₁ P = true) →
      (∀ P ∈ [A', B', C'], Bn254.onCurve₁ P = true) →
      openingPoint hash A B C =
        Residue.ofNat (hash ((ofCommitments A B C).question (label "point"))).toNat ∧
      ((ofCommitments A B C).question (label "point") =
          (ofCommitments A' B' C').question (label "point") ↔ A = A' ∧ B = B' ∧ C = C') := by
  refine ⟨fun steps steps' hsteps hpoints hpoints' => ?_,
    fun steps => ⟨pairwise_trace, answers_eq, pairwise_questions, nodup_questions⟩,
    fun A B C A' B' C' hpoints hpoints' => ⟨rfl, question_ofCommitments_eq_iff hpoints hpoints'⟩⟩
  rw [final_eq_iff hsteps rfl hpoints hpoints']
  exact and_iff_right rfl

/-- Two points in the other order, with a challenge between them, make another transcript, and
commitments in another order another question. -/
theorem binding_swapped :
    final Sha256.hash (start defaultLabel) [.point (label "left") Bn254.group₁.base,
        .challenge (label "point"), .point (label "right") none] ≠
      final Sha256.hash (start defaultLabel) [.point (label "left") none,
        .challenge (label "point"), .point (label "right") Bn254.group₁.base] ∧
    (ofCommitments Bn254.group₁.base none none).question (label "point") ≠
      (ofCommitments none Bn254.group₁.base none).question (label "point") := by
  obtain ⟨hfinal, -, hquestion⟩ := binding Sha256.hash defaultLabel
  constructor
  · intro h
    have hpoints := (hfinal _ _
      (.cons (.point _ _ _) (.cons (.challenge _) (.cons (.point _ _ _) .nil))) (by decide)
      (by decide)).mp h
    exact absurd hpoints (by decide)
  · intro h
    have hpoints := (hquestion _ _ _ _ _ _ (by decide) (by decide)).2.mp h
    exact absurd hpoints.1 (by decide)

end Transcript

end PolyCommit

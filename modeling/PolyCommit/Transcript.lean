import PolyCommit.Bytes.Points
import PolyCommit.Bytes.Sha256

/-!
# Transcripts

A transcript is the byte string of everything that both sides have said. A challenge hashes all of
it after a label, and the digest joins the transcript, so that later challenges differ. The hash
function is a parameter.
-/

namespace PolyCommit

/-- What has been said so far. -/
structure Transcript where
  state : Bytes
  deriving DecidableEq

namespace Transcript

/-- The bytes of an ASCII label. -/
def label (s : String) : Bytes := s.toList.map fun c => UInt8.ofNat c.toNat

/-- The label that a transcript begins with when none is given. -/
def defaultLabel : Bytes := label "kzg10"

/-- A transcript that says only its label. -/
def start (label : Bytes) : Transcript := ⟨label⟩

/-- Say a point of the first group under a label. -/
def absorb (t : Transcript) (label : Bytes) (P : Point Fq) : Transcript :=
  ⟨t.state ++ label ++ Encoding.point₁ P⟩

/-- The bytes that a challenge under a label hashes. -/
def question (t : Transcript) (label : Bytes) : Bytes := t.state ++ label

/-- A challenge under a label, and the transcript with its digest. -/
def challenge (hash : Bytes → Digest) (t : Transcript) (label : Bytes) : Fr × Transcript :=
  let digest := hash (t.question label)
  (Residue.ofNat digest.toNat, ⟨t.question label ++ digest.bytes⟩)

/-- What may be added to a transcript. -/
inductive Step
  | point (label : Bytes) (P : Point Fq)
  | challenge (label : Bytes)

/-- Add one step; a challenge answers with its scalar. -/
def step (hash : Bytes → Digest) (t : Transcript) : Step → Option Fr × Transcript
  | .point label P => (none, t.absorb label P)
  | .challenge label => let (c, t) := t.challenge hash label; (some c, t)

/-- The answers and the states after each of a list of steps. -/
def run (hash : Bytes → Digest) : Transcript → List Step → List (Option Fr × Transcript)
  | _, [] => []
  | t, s :: rest => t.step hash s :: run hash (t.step hash s).2 rest

/-- The transcript in which three commitments are said. -/
def ofCommitments (A B C : Point Fq) : Transcript :=
  (((start defaultLabel).absorb (label "commit_a") A).absorb (label "commit_b") B).absorb
    (label "commit_c") C

/-- The point at which three commitments are to be opened. -/
def openingPoint (hash : Bytes → Digest) (A B C : Point Fq) : Fr :=
  ((ofCommitments A B C).challenge hash (label "point")).1

end Transcript

end PolyCommit

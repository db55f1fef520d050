import PolyCommit.Value.Literal

/-!
# Errors

A refusal says what is wrong with an input and has a kind and a sentence. A fault says only that an
operation was handed something it has no meaning for. Which of two errors comes first is decided
where the checks are made; here is the wording. A sentence that quotes an integer of too many digits
cannot be written, and then the refusal ends as a fault.
-/

namespace PolyCommit

/-- Why a value has not the shape that is looked for in it. -/
inductive Misfit
  /-- A value of this kind is neither an integer nor a scalar. -/
  | notNumber (kind : Kind)
  /-- A value of this kind has no entries. -/
  | noEntries (kind : Kind)
  /-- A value of this kind has no fields. -/
  | noFields (kind : Kind)
  /-- A list has entries by place and not by name. -/
  | listByName
  /-- A text has code points by place and not by name. -/
  | textByName
  /-- An object has no field of this name. -/
  | missing (name : Text)

/-- The parts of an encoding that error texts name. -/
inductive Part
  | scalar
  | point₁
  | point₂
  deriving DecidableEq

/-- The name of a part. -/
def Part.name : Part → String
  | scalar => "FR"
  | point₁ => "G1"
  | point₂ => "G2"

/-- Why a degree or a degree bound is refused. -/
inductive BadDegree
  | notInteger (degree : Value)
  | below (least : Nat) (degree : Int)
  | boundNotInteger (bound : Value)
  | boundNotPositive (bound : Int)

/-- Why an input is malformed. -/
inductive Malformed
  | coefficients (misfit : Misfit)
  | emptyFactor
  | shortDividend
  | shortPolynomial (length : Nat) (degree : Int)
  | emptyKey
  | identityInKey
  | singlePower₂
  | encodingLength (part : Part) (length expected : Nat)
  | encodingRange (part : Part)
  | offCurve₁
  | offGroup₂
  | keyHeader
  | keyLength (length expected : Nat)
  | keyHex
  | keyFields (misfit : Misfit)
  | witnessLength (length expected : Nat)
  | witnessHex
  | witnessFields (misfit : Misfit)
  | notDecimal (v : Value)
  | coordinateRange (v : Value)
  | scalarRange (v : Value)
  | pointShape₁ (v : Value)
  | pointShape₂ (v : Value)
  | polynomialShape (v : Value)
  | bodyNotObject
  | missingField (name : Text)
  | boundAboveLimit (limit : Int) (bound : Value)
  | notThreeCommitments

/-- An input that is refused with a sentence. -/
inductive Refusal
  | degree (reason : BadDegree)
  | beyondKey (degree : Int) (size : Nat)
  /-- A polynomial minus its value at a point leaves a remainder there. -/
  | remainder
  | malformed (reason : Malformed)

/-- An operation without meaning for what it was handed. -/
inductive Fault
  /-- A value of the wrong kind. -/
  | wrongKind
  /-- A value of the right kind that cannot be used. -/
  | badValue
  /-- A place outside a list. -/
  | outOfBounds
  /-- A number beyond what can be counted or represented. -/
  | tooLarge
  /-- A text or a list that there is no room for. -/
  | noRoom
  /-- A text with half a surrogate pair where bytes are wanted. -/
  | loneSurrogate
  /-- A host name that has no form in ASCII, or a spelled one that cannot be read. -/
  | badHostName
  /-- A variable without a name. -/
  | emptyName
  /-- A repetition without an end. -/
  | endless
  deriving DecidableEq

/-- Why an operation has no answer. -/
inductive Failure
  | refused (reason : Refusal)
  | fault (fault : Fault)

namespace Failure

/-- A malformed input. -/
def malformed (reason : Malformed) : Failure := refused (.malformed reason)

/-- A value of the wrong kind. -/
def wrongKind : Failure := fault .wrongKind

/-- A value of the right kind that cannot be used. -/
def badValue : Failure := fault .badValue

/-- A place outside a list. -/
def outOfBounds : Failure := fault .outOfBounds

/-- A text with half a surrogate pair where bytes are wanted. -/
def loneSurrogate : Failure := fault .loneSurrogate

/-- A number beyond what can be counted or represented. -/
def tooLarge : Failure := fault .tooLarge

/-- A text or a list that there is no room for. -/
def noRoom : Failure := fault .noRoom

end Failure

private def say (s : String) : Text := Text.ofString s

/-- The sentence of a misfit. -/
def Misfit.message : Misfit → Text
  | notNumber kind =>
    say s!"Expected an int or FQ object, but got object of type <class '{kind.name}'>"
  | noEntries kind => say s!"'{kind.name}' object is not iterable"
  | noFields kind => say s!"'{kind.name}' object is not subscriptable"
  | listByName => say "list indices must be integers or slices, not str"
  | textByName => say "string indices must be integers, not 'str'"
  | missing name => name.quoted

/-- The sentence of a refused degree. -/
def BadDegree.message : BadDegree → Text
  | notInteger degree => say "degree는 정수여야 합니다: " ++ degree.literal
  | below least degree => say s!"degree는 {least} 이상이어야 합니다: " ++ Text.ofInt degree
  | boundNotInteger bound => say "차수 경계는 정수여야 합니다: " ++ bound.literal
  | boundNotPositive bound => say "차수 경계는 1 이상이어야 합니다: " ++ Text.ofInt bound

/-- Whether the degree that the sentence quotes can be written. -/
def BadDegree.isWritable : BadDegree → Bool
  | notInteger degree => degree.isWritable
  | below _ degree => (Value.int degree).isWritable
  | boundNotInteger bound => bound.isWritable
  | boundNotPositive bound => (Value.int bound).isWritable

/-- The sentence of a malformed input. -/
def Malformed.message : Malformed → Text
  | coefficients misfit => say "다항식 계수를 FR로 변환할 수 없습니다: " ++ misfit.message
  | emptyFactor => say "빈 다항식은 곱할 수 없습니다"
  | shortDividend => say "일차식으로 나누려면 계수가 2개 이상 필요합니다"
  | shortPolynomial length degree =>
    say s!"다항식 계수가 {length}개뿐입니다 (degree " ++ Text.ofInt degree ++ say " 필요)"
  | emptyKey => say "커밋먼트 키에는 G1, G2 원소가 각각 하나 이상 필요합니다"
  | identityInKey => say "커밋먼트 키에 항등원(무한원점)이 있습니다"
  | singlePower₂ => say "검증에는 G2 원소 2개 (g2, a·g2)가 필요합니다"
  | encodingLength part length expected =>
    say s!"{part.name} 인코딩 길이가 잘못되었습니다: {length} != {expected}"
  | encodingRange part => say s!"{part.name} 좌표가 범위를 벗어났습니다"
  | offCurve₁ => say "G1 점이 곡선 위에 있지 않습니다"
  | offGroup₂ => say "G2 점이 곡선 또는 부분군 위에 있지 않습니다"
  | keyHeader => say "커밋먼트 키 헤더가 잘렸습니다"
  | keyLength length expected =>
    say s!"커밋먼트 키 길이가 잘못되었습니다: {length} != {expected}"
  | keyHex => say "커밋먼트 키 hex 문자열이 잘못되었습니다"
  | keyFields misfit => say "커밋먼트 키 필드가 없습니다: " ++ misfit.message
  | witnessLength length expected =>
    say s!"witness 길이가 잘못되었습니다: {length} != {expected}"
  | witnessHex => say "witness hex 문자열이 잘못되었습니다"
  | witnessFields misfit => say "witness 필드가 없습니다: " ++ misfit.message
  | notDecimal v => say "정수로 해석할 수 없습니다: " ++ v.literal
  | coordinateRange v => say "좌표가 범위를 벗어났습니다: " ++ v.literal
  | scalarRange v => say "FR 값이 범위를 벗어났습니다: " ++ v.literal
  | pointShape₁ v => say "G1 점 형식이 잘못되었습니다: " ++ v.literal
  | pointShape₂ v => say "G2 점 형식이 잘못되었습니다: " ++ v.literal
  | polynomialShape v => say "다항식은 계수 리스트여야 합니다: " ++ v.literal
  | bodyNotObject => say "JSON 객체 본문이 필요합니다"
  | missingField name => say "필드가 없습니다: " ++ name
  | boundAboveLimit limit bound =>
    say "t는 " ++ Text.ofInt limit ++ say " 이하여야 합니다: " ++ bound.literal
  | notThreeCommitments => say "커밋먼트 3개가 필요합니다"

/-- Whether everything that the sentence quotes of an input can be written. -/
def Malformed.isWritable : Malformed → Bool
  | shortPolynomial _ degree => (Value.int degree).isWritable
  | notDecimal v => v.isWritable
  | coordinateRange v => v.isWritable
  | scalarRange v => v.isWritable
  | pointShape₁ v => v.isWritable
  | pointShape₂ v => v.isWritable
  | polynomialShape v => v.isWritable
  | boundAboveLimit limit bound => (Value.int limit).isWritable && bound.isWritable
  | _ => true

namespace Refusal

/-- The name of the kind of a refusal. -/
def kind : Refusal → String
  | degree _ => "InvalidDegree"
  | beyondKey _ _ => "DegreeExceedsSRS"
  | remainder => "KZGError"
  | malformed _ => "MalformedInput"

/-- The sentence of a refusal. -/
def message : Refusal → Text
  | degree reason => reason.message
  | beyondKey requested size =>
    say "degree " ++ Text.ofInt requested ++ say s!"가 커밋먼트 키 크기 {size}를 초과합니다"
  | remainder => say "열기 증명 생성 실패: 나머지가 0이 아닙니다"
  | malformed reason => reason.message

/-- Whether the sentence of a refusal can be written. -/
def isWritable : Refusal → Bool
  | degree reason => reason.isWritable
  | beyondKey requested _ => (Value.int requested).isWritable
  | remainder => true
  | malformed reason => reason.isWritable

end Refusal

/-- A refusal whose sentence quotes the input, as far as it can be written. -/
def Failure.quoting (reason : Refusal) : Failure :=
  if reason.isWritable then refused reason else badValue

end PolyCommit

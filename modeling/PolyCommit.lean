import PolyCommit.Bytes.BigEndian
import PolyCommit.Bytes.Hex
import PolyCommit.Bytes.Points
import PolyCommit.Bytes.Sha256
import PolyCommit.Commitment
import PolyCommit.Curve.Bn254
import PolyCommit.Curve.Homogeneous
import PolyCommit.Curve.Point
import PolyCommit.Curve.PointGroup
import PolyCommit.Decimal.Binary64
import PolyCommit.Decimal.Count
import PolyCommit.Decimal.Shortest
import PolyCommit.Error
import PolyCommit.Field.Bn254
import PolyCommit.Field.Repeated
import PolyCommit.Field.Residue
import PolyCommit.Field.Tower
import PolyCommit.Key.Basic
import PolyCommit.Key.Bytes
import PolyCommit.Key.Fields
import PolyCommit.Key.Setup
import PolyCommit.Pairing.Ate
import PolyCommit.Pairing.System
import PolyCommit.Polynomial.Basic
import PolyCommit.Polynomial.Input
import PolyCommit.ProductFlow
import PolyCommit.Proofs.Bytes.Agreement
import PolyCommit.Proofs.Bytes.Hex
import PolyCommit.Proofs.Bytes.Points
import PolyCommit.Proofs.Bytes.Transport
import PolyCommit.Proofs.Commitment.Alignment
import PolyCommit.Proofs.Commitment.Binding
import PolyCommit.Proofs.Commitment.Contents
import PolyCommit.Proofs.Commitment.Linearity
import PolyCommit.Proofs.Commitment.Opening
import PolyCommit.Proofs.Commitment.Outcomes
import PolyCommit.Proofs.Commitment.Padding
import PolyCommit.Proofs.Commitment.ProductFlow
import PolyCommit.Proofs.Commitment.Refusals
import PolyCommit.Proofs.Commitment.Totality
import PolyCommit.Proofs.Commitment.Verification
import PolyCommit.Proofs.Commitment.Window
import PolyCommit.Proofs.Curve.Bn254
import PolyCommit.Proofs.Curve.ChordTangent
import PolyCommit.Proofs.Curve.Homogeneous
import PolyCommit.Proofs.Curve.Multiples
import PolyCommit.Proofs.Curve.PointGroup
import PolyCommit.Proofs.Curve.Subgroup
import PolyCommit.Proofs.Field.Primality
import PolyCommit.Proofs.Field.Quadratic
import PolyCommit.Proofs.Field.Residue
import PolyCommit.Proofs.Field.Tower
import PolyCommit.Proofs.Key.Basic
import PolyCommit.Proofs.Key.Bytes
import PolyCommit.Proofs.Key.Fields
import PolyCommit.Proofs.Key.Malformed
import PolyCommit.Proofs.Key.Setup
import PolyCommit.Proofs.Outcome
import PolyCommit.Proofs.Pairing.Bilinear
import PolyCommit.Proofs.Pairing.Frobenius
import PolyCommit.Proofs.Pairing.Totality
import PolyCommit.Proofs.Polynomial.Convolution
import PolyCommit.Proofs.Polynomial.Division
import PolyCommit.Proofs.Polynomial.Evaluation
import PolyCommit.Proofs.Polynomial.Input
import PolyCommit.Proofs.Polynomial.Linearity
import PolyCommit.Proofs.Service.Body
import PolyCommit.Proofs.Service.Cache
import PolyCommit.Proofs.Service.Completeness
import PolyCommit.Proofs.Service.Failures
import PolyCommit.Proofs.Service.Machine
import PolyCommit.Proofs.Service.WitnessForms
import PolyCommit.Proofs.Text.Numeral
import PolyCommit.Proofs.Text.Utf8
import PolyCommit.Proofs.Transcript.Binding
import PolyCommit.Proofs.Value.Canonical
import PolyCommit.Proofs.Value.Order
import PolyCommit.Proofs.Value.Overlong
import PolyCommit.Proofs.Value.Points
import PolyCommit.Proofs.Value.Reader
import PolyCommit.Proofs.Value.Scalars
import PolyCommit.Proofs.Value.Shapes
import PolyCommit.Proofs.Value.Writable
import PolyCommit.Proofs.Witness.Codec
import PolyCommit.Service.Authority
import PolyCommit.Service.HostAddress
import PolyCommit.Service.HostName
import PolyCommit.Service.Plan
import PolyCommit.Service.Reference
import PolyCommit.Service.Request
import PolyCommit.Service.Route
import PolyCommit.Service.Session
import PolyCommit.Service.Target
import PolyCommit.Settings
import PolyCommit.Text.Ascii
import PolyCommit.Text.Basic
import PolyCommit.Text.Blank
import PolyCommit.Text.CombiningMark
import PolyCommit.Text.Composition
import PolyCommit.Text.DecimalDigit
import PolyCommit.Text.Direction
import PolyCommit.Text.Folding
import PolyCommit.Text.FoldingTable
import PolyCommit.Text.HexDigit
import PolyCommit.Text.KeptBytes
import PolyCommit.Text.Numeral
import PolyCommit.Text.PercentCode
import PolyCommit.Text.Printable
import PolyCommit.Text.Punycode
import PolyCommit.Text.Quoted
import PolyCommit.Text.Template
import PolyCommit.Text.Utf16
import PolyCommit.Text.Utf32
import PolyCommit.Text.Utf8
import PolyCommit.Transcript
import PolyCommit.Value.Arithmetic
import PolyCommit.Value.Basic
import PolyCommit.Value.Display
import PolyCommit.Value.Document
import PolyCommit.Value.Literal
import PolyCommit.Value.Points
import PolyCommit.Value.Printer
import PolyCommit.Value.Product
import PolyCommit.Value.Reader
import PolyCommit.Window
import PolyCommit.Witness.Basic
import PolyCommit.Witness.Fields

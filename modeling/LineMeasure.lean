import LineMeasure.Binary64.Arithmetic
import LineMeasure.Binary64.Basic
import LineMeasure.Binary64.Shortest
import LineMeasure.Borel.Decompose
import LineMeasure.Borel.Expr
import LineMeasure.Borel.Generation
import LineMeasure.Caratheodory.Ray
import LineMeasure.Caratheodory.Split
import LineMeasure.Compactness.Certificate
import LineMeasure.Compactness.Sweep
import LineMeasure.Config
import LineMeasure.Contract.Basic
import LineMeasure.Contract.Catalogue
import LineMeasure.Contract.MetaSchema
import LineMeasure.Contract.Path
import LineMeasure.Contract.Shape
import LineMeasure.Cover.Basic
import LineMeasure.Cover.Canonical
import LineMeasure.Cover.Points
import LineMeasure.ENNRat.Basic
import LineMeasure.ENNRat.Sum
import LineMeasure.Error
import LineMeasure.Given.Expr
import LineMeasure.Given.Measure
import LineMeasure.Given.Set
import LineMeasure.Given.Sum
import LineMeasure.Interval.Basic
import LineMeasure.Interval.HalfOpen
import LineMeasure.Json.Basic
import LineMeasure.Json.Reader
import LineMeasure.Json.Writer
import LineMeasure.Lebesgue
import LineMeasure.Length
import LineMeasure.Limit.Affine
import LineMeasure.Limit.Superlevel
import LineMeasure.OuterMeasure
import LineMeasure.Pattern.Basic
import LineMeasure.Pattern.Character
import LineMeasure.Pattern.Flags
import LineMeasure.Pattern.Reader
import LineMeasure.Pattern.Repetition
import LineMeasure.Pattern.Scope
import LineMeasure.Pattern.Token
import LineMeasure.Pattern.Width
import LineMeasure.Proofs.Borel.Decompose
import LineMeasure.Proofs.Borel.Meaning
import LineMeasure.Proofs.Borel.Probing
import LineMeasure.Proofs.Borel.Verification
import LineMeasure.Proofs.Caratheodory.Additivity
import LineMeasure.Proofs.Caratheodory.Complement
import LineMeasure.Proofs.Caratheodory.Ray
import LineMeasure.Proofs.Compactness.Budget
import LineMeasure.Proofs.Compactness.Certificate
import LineMeasure.Proofs.Compactness.CoveredLength
import LineMeasure.Proofs.Compactness.CoveredMeasure
import LineMeasure.Proofs.Compactness.Outcome
import LineMeasure.Proofs.Compactness.Progress
import LineMeasure.Proofs.Compactness.Reach
import LineMeasure.Proofs.Compactness.Rounds
import LineMeasure.Proofs.Contract.Conformance
import LineMeasure.Proofs.Cover.Canonical
import LineMeasure.Proofs.Cover.CanonicalTerms
import LineMeasure.Proofs.Cover.Indices
import LineMeasure.Proofs.Cover.Points
import LineMeasure.Proofs.Cover.Terms
import LineMeasure.Proofs.Cover.Views
import LineMeasure.Proofs.ENNRat.Embedding
import LineMeasure.Proofs.ENNRat.ExtendedLine
import LineMeasure.Proofs.ENNRat.PartialSums
import LineMeasure.Proofs.ENNRat.Semiring
import LineMeasure.Proofs.ENNRat.Tsum
import LineMeasure.Proofs.Interval.Intersection
import LineMeasure.Proofs.Interval.Merge
import LineMeasure.Proofs.Interval.Order
import LineMeasure.Proofs.Lebesgue.Intervals
import LineMeasure.Proofs.Lebesgue.Restriction
import LineMeasure.Proofs.Limit.Acceptance
import LineMeasure.Proofs.Limit.Affine
import LineMeasure.Proofs.Limit.Segments
import LineMeasure.Proofs.Limit.Superlevel
import LineMeasure.Proofs.OuterMeasure.Countable
import LineMeasure.Proofs.OuterMeasure.Infimum
import LineMeasure.Proofs.OuterMeasure.Length
import LineMeasure.Proofs.OuterMeasure.Monotonicity
import LineMeasure.Proofs.OuterMeasure.Subadditivity
import LineMeasure.Proofs.OuterMeasure.Translation
import LineMeasure.Proofs.OuterMeasure.Value
import LineMeasure.Proofs.Rational.Grammar
import LineMeasure.Proofs.Rational.RoundTrip
import LineMeasure.Proofs.RealSet.Boundary
import LineMeasure.Proofs.RealSet.Canonical
import LineMeasure.Proofs.RealSet.Line
import LineMeasure.Proofs.RealSet.Operation
import LineMeasure.Proofs.RealSet.Overlap
import LineMeasure.Proofs.RealSet.Volume
import LineMeasure.Proofs.Record.Ends
import LineMeasure.Proofs.Record.RoundTrip
import LineMeasure.Proofs.Record.Serialisation
import LineMeasure.Proofs.Record.Validation
import LineMeasure.Proofs.Report.Bracket
import LineMeasure.Rational.Basic
import LineMeasure.Rational.Literal
import LineMeasure.RealSet.Basic
import LineMeasure.RealSet.Inclusion
import LineMeasure.RealSet.Normal
import LineMeasure.Record.Fault
import LineMeasure.Record.Interval
import LineMeasure.Record.RealSet
import LineMeasure.Report
import LineMeasure.Sequence
import LineMeasure.Subadditivity
import LineMeasure.Text.Blank
import LineMeasure.Text.CharacterName.Aliases
import LineMeasure.Text.CharacterName.Alphabets
import LineMeasure.Text.CharacterName.Basic
import LineMeasure.Text.CharacterName.Lookup
import LineMeasure.Text.CharacterName.Pictographs
import LineMeasure.Text.CharacterName.Scripts
import LineMeasure.Text.CharacterName.Syllables
import LineMeasure.Text.CharacterName.Symbols
import LineMeasure.Text.CodePoint
import LineMeasure.Text.DecimalDigit
import LineMeasure.Text.Hexadecimal
import LineMeasure.Text.Identifier
import LineMeasure.Text.Line
import LineMeasure.Text.Order
import LineMeasure.Text.Printable
import LineMeasure.Text.Quoted
import LineMeasure.Text.Split
import LineMeasure.Value
import LineMeasure.Value.Arithmetic
import LineMeasure.Value.Hash
import LineMeasure.Value.Operand

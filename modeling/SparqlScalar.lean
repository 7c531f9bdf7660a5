import SparqlScalar.Calendar.DateTime
import SparqlScalar.Calendar.Day
import SparqlScalar.Calendar.Duration
import SparqlScalar.Calendar.Instant
import SparqlScalar.Calendar.Shift
import SparqlScalar.Calendar.Zone
import SparqlScalar.Digest.Block
import SparqlScalar.Digest.Md5
import SparqlScalar.Digest.Sha1
import SparqlScalar.Digest.Sha2
import SparqlScalar.Error
import SparqlScalar.Evaluation.Builtins
import SparqlScalar.Evaluation.Context
import SparqlScalar.Evaluation.Entropy
import SparqlScalar.Evaluation.Environment
import SparqlScalar.Evaluation.Evaluate
import SparqlScalar.Evaluation.Function
import SparqlScalar.Evaluation.Lookup
import SparqlScalar.Evaluation.Registry
import SparqlScalar.Evaluation.Rows
import SparqlScalar.Evaluation.State
import SparqlScalar.Evaluation.Stock
import SparqlScalar.Expression.Arity
import SparqlScalar.Expression.Basic
import SparqlScalar.Expression.Builtin
import SparqlScalar.Expression.Depth
import SparqlScalar.Expression.Simplify
import SparqlScalar.Iri.Address
import SparqlScalar.Iri.Grammar
import SparqlScalar.Iri.Resolve
import SparqlScalar.Number.Binary
import SparqlScalar.Number.BinaryText
import SparqlScalar.Number.Conversion
import SparqlScalar.Number.Decimal
import SparqlScalar.Number.Integer
import SparqlScalar.Number.Numeric
import SparqlScalar.Operator.Arithmetic
import SparqlScalar.Operator.Cast
import SparqlScalar.Operator.Comparison
import SparqlScalar.Operator.Dates
import SparqlScalar.Operator.Digests
import SparqlScalar.Operator.Logic
import SparqlScalar.Operator.Patterns
import SparqlScalar.Operator.Strings
import SparqlScalar.Operator.Symbol
import SparqlScalar.Operator.Temporal
import SparqlScalar.Operator.Terms
import SparqlScalar.Pattern.CharSet
import SparqlScalar.Pattern.Match
import SparqlScalar.Pattern.Named
import SparqlScalar.Pattern.OfText
import SparqlScalar.Pattern.Opening
import SparqlScalar.Pattern.Program
import SparqlScalar.Pattern.Regex
import SparqlScalar.Pattern.Replacement
import SparqlScalar.Pattern.Size
import SparqlScalar.Pattern.Tree.Basic
import SparqlScalar.Pattern.Tree.Blank
import SparqlScalar.Pattern.Tree.Bracket
import SparqlScalar.Pattern.Tree.Escape
import SparqlScalar.Pattern.Tree.OfText
import SparqlScalar.Session.Command
import SparqlScalar.Session.Run
import SparqlScalar.Term.Basic
import SparqlScalar.Term.Datatype
import SparqlScalar.Term.LanguageTag
import SparqlScalar.Term.OfText
import SparqlScalar.Term.Operand
import SparqlScalar.Term.Value
import SparqlScalar.Term.ValueOrder
import SparqlScalar.Text.Blank
import SparqlScalar.Text.Case
import SparqlScalar.Text.CaseTable
import SparqlScalar.Text.Commonness
import SparqlScalar.Text.Digits
import SparqlScalar.Text.Folding
import SparqlScalar.Text.Hex
import SparqlScalar.Text.Percent
import SparqlScalar.Text.Property.Age
import SparqlScalar.Text.Property.Binary
import SparqlScalar.Text.Property.Boundary
import SparqlScalar.Text.Property.Category
import SparqlScalar.Text.Property.Later
import SparqlScalar.Text.Property.Ordered
import SparqlScalar.Text.Property.Ranges
import SparqlScalar.Text.Property.Script
import SparqlScalar.Text.Quoted
import SparqlScalar.Text.Shown
import SparqlScalar.Text.Split
import SparqlScalar.Text.Utf8
import SparqlScalar.Proofs.Plan
import SparqlScalar.Proofs.NodePlan
import SparqlScalar.Proofs.Behaviour
import SparqlScalar.Proofs.Performed
import SparqlScalar.Proofs.DeadOperands
import SparqlScalar.Proofs.Simplification
import SparqlScalar.Proofs.NormalForms
import SparqlScalar.Proofs.OperatorErrors
import SparqlScalar.Proofs.ErrorSources
import SparqlScalar.Proofs.DepthErrors
import SparqlScalar.Proofs.DepthGuard
import SparqlScalar.Proofs.BlankNodes
import SparqlScalar.Proofs.SessionNodes
import SparqlScalar.Proofs.FirstSolutions
import SparqlScalar.Proofs.Coincidence
import SparqlScalar.Proofs.ErrorOrigins
import SparqlScalar.Proofs.Related
import SparqlScalar.Proofs.DeMorgan
import SparqlScalar.Proofs.DigitLists
import SparqlScalar.Proofs.Numerals
import SparqlScalar.Proofs.ExactOperands
import SparqlScalar.Proofs.AdditiveChains
import SparqlScalar.Proofs.ProductChains
import SparqlScalar.Proofs.DecimalQuotients
import SparqlScalar.Proofs.Quotients
import SparqlScalar.Proofs.CivilDays
import SparqlScalar.Proofs.LocalDays
import SparqlScalar.Proofs.WrittenDurations
import SparqlScalar.Proofs.TemporalChains
import SparqlScalar.Proofs.PointShifts
import SparqlScalar.Proofs.InverseShifts
import SparqlScalar.Proofs.Orders
import SparqlScalar.Proofs.Comparisons
import SparqlScalar.Proofs.SameTerms
import SparqlScalar.Proofs.Visits
import SparqlScalar.Proofs.RegistryRuns
import SparqlScalar.Proofs.WellFormedTerms
import SparqlScalar.Proofs.WellFormedRuns
import SparqlScalar.Proofs.ExactComparisons
import SparqlScalar.Proofs.SortOrder
import SparqlScalar.Proofs.Connectives
import SparqlScalar.Proofs.EqualValues
import SparqlScalar.Proofs.Memberships
import SparqlScalar.Proofs.DecodedIntegers
import SparqlScalar.Proofs.Rounding
import SparqlScalar.Proofs.KeptDatatypes
import SparqlScalar.Proofs.ByteSearch
import SparqlScalar.Proofs.Occurrences
import SparqlScalar.Proofs.Casts
import SparqlScalar.Proofs.CastTexts
import SparqlScalar.Proofs.ExactCasts
import SparqlScalar.Proofs.IllTypedCasts
import SparqlScalar.Proofs.WrittenValues
import SparqlScalar.Proofs.Replacements
import SparqlScalar.Proofs.Threads
import SparqlScalar.Proofs.Searches
import SparqlScalar.Proofs.EscapedPatterns
import SparqlScalar.Proofs.ReplacedMatches
import SparqlScalar.Proofs.LiteralPatterns
import SparqlScalar.Proofs.DoubleRounding
import SparqlScalar.Proofs.RoundedPositions
import SparqlScalar.Proofs.Substrings
import SparqlScalar.Proofs.PercentEncoding
import SparqlScalar.Proofs.Concatenations
import SparqlScalar.Proofs.LanguageRanges
import SparqlScalar.Proofs.ChainOperands

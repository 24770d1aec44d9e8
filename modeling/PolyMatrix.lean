import PolyMatrix.Coefficient.Exact
import PolyMatrix.Coefficient.Binary64
import PolyMatrix.Evaluation
import PolyMatrix.Noted
import PolyMatrix.Polynomial.Calculus
import PolyMatrix.Polynomial.Canonical
import PolyMatrix.Polynomial.Comparison
import PolyMatrix.Polynomial.Division
import PolyMatrix.Polynomial.Substitution
import PolyMatrix.Polynomial.OfExpression
import PolyMatrix.Rule.Document
import PolyMatrix.CellMatrix.Basic
import PolyMatrix.CellMatrix.Determinant
import PolyMatrix.CellMatrix.Table
import PolyMatrix.CellMatrix.Parse
import PolyMatrix.Context
import PolyMatrix.Logging.Verbosity
import PolyMatrix.Logging.FileName
import PolyMatrix.Proofs.Monomial.Admissible
import PolyMatrix.Proofs.Polynomial.RingLaws
import PolyMatrix.Proofs.Polynomial.Construction
import PolyMatrix.Proofs.Polynomial.Grouping
import PolyMatrix.Proofs.Polynomial.Silence
import PolyMatrix.Proofs.Polynomial.Limit
import PolyMatrix.Proofs.Polynomial.Skipping
import PolyMatrix.Proofs.Polynomial.EmptyBrackets
import PolyMatrix.Proofs.Polynomial.RoundTrip
import PolyMatrix.Proofs.Expression.Arithmetic
import PolyMatrix.Proofs.CellMatrix.Products
import PolyMatrix.Proofs.CellMatrix.Leibniz
import PolyMatrix.Proofs.CellMatrix.RoundTrip
import PolyMatrix.Proofs.Polynomial.Leading
import PolyMatrix.Proofs.Polynomial.Reductions
import PolyMatrix.Proofs.Polynomial.ExactDivision
import PolyMatrix.Proofs.Polynomial.Termination
import PolyMatrix.Proofs.Polynomial.RationalDivision
import PolyMatrix.Proofs.CellMatrix.Shape
import PolyMatrix.Proofs.Trace.History
import PolyMatrix.Proofs.Monomial.Division
import PolyMatrix.Proofs.Polynomial.Derivation
import PolyMatrix.Proofs.CellMatrix.Comparison
import PolyMatrix.Proofs.CellMatrix.EmptyCells
import PolyMatrix.Proofs.Polynomial.Unital
import PolyMatrix.Proofs.Polynomial.Antiderivative
import PolyMatrix.Proofs.Polynomial.Dropping
import PolyMatrix.Proofs.CellMatrix.ScaledSums
import PolyMatrix.Proofs.CellMatrix.Rewriting
import PolyMatrix.Proofs.Rule.Documents
import PolyMatrix.Proofs.CellMatrix.ProductCells
import PolyMatrix.Proofs.CellMatrix.Acceptance
import PolyMatrix.Proofs.CellMatrix.Labels
import PolyMatrix.Proofs.Expression.Scanning
import PolyMatrix.Proofs.CellMatrix.Minors

import PolyMatrix.CellMatrix.Basic
import PolyMatrix.Polynomial.Calculus
import PolyMatrix.Rule.Basic

/-!
# Matrix algebra

Sums, products, transposes and minors, and what polynomials can do done in every
cell.  Products are simplified cell by cell with the rules at hand.  Empty cells
stay empty where nothing else comes in, and never take part in a product.
-/

namespace PolyMatrix

/-- The polynomial simplified with the rules at hand, if there are any. -/
def simplify
    {K : Type} [Add K] [Mul K] [Coefficient K]
    (rules : Option (RuleSet K))
    (p : Polynomial K) : Noted (Polynomial K) :=
  match rules with
  | some set => set.applyTo p
  | none => pure p

namespace CellMatrix

variable {K : Type}

/-- The sum of the diagonal. -/
def trace [Add K] [Mul K] [Coefficient K] (matrix : CellMatrix K) : Polynomial K :=
  (List.range (min matrix.rows matrix.cols)).foldl
    (fun sum place =>
      match matrix.entry place place with
      | some p => sum.accumulateScaled p Coefficient.one
      | none => sum) .zero

/-- Rows and columns exchanged; the label says so. -/
def transpose (matrix : CellMatrix K) : CellMatrix K :=
  (ofFn matrix.cols matrix.rows fun row col => matrix.entry col row).withLabel?
    (matrix.label.map fun label => "tr(" ++ label ++ ")")

/-- The sum of a cell and a multiple of another; two empty cells stay empty. -/
def addCells [Add K] [Mul K] [Coefficient K] (k : K) : Cell K → Cell K → Cell K
  | none, none => none
  | some p, none => some (Polynomial.zero.accumulateScaled p Coefficient.one)
  | none, some q => some (Polynomial.zero.accumulateScaled q k)
  | some p, some q =>
      some ((Polynomial.zero.accumulateScaled p Coefficient.one).accumulateScaled q k)

/-- The sum of a matrix and a multiple of another of the same shape. -/
def addScaled [Add K] [Mul K] [Coefficient K] (left right : CellMatrix K) (k : K) :
    Except Fault (CellMatrix K) :=
  if left.rows = right.rows ∧ left.cols = right.cols then
    .ok (ofFn left.rows left.cols fun row col =>
      addCells k (left.entry row col) (right.entry row col))
  else .error (.shapesDiffer left.rows left.cols right.rows right.cols)

/-- The sum of two matrices. -/
def add [Add K] [Mul K] [Coefficient K] (left right : CellMatrix K) :
    Except Fault (CellMatrix K) :=
  left.addScaled right Coefficient.one

/-- The difference of two matrices. -/
def subtract [Add K] [Neg K] [Mul K] [Coefficient K] (left right : CellMatrix K) :
    Except Fault (CellMatrix K) :=
  left.addScaled right (-Coefficient.one)

/-- Every cell times a number. -/
def scale
    [Add K] [Mul K] [Coefficient K]
    (matrix : CellMatrix K)
    (k : K) : CellMatrix K :=
  matrix.map fun p => p.scale k

/-- Every cell times a scaled monomial. -/
def scaleTerm
    [Add K] [Mul K] [Coefficient K]
    (matrix : CellMatrix K)
    (k : K)
    (monomial : Monomial) : CellMatrix K :=
  matrix.map fun p => p.multiplyTerm monomial k

/-- Every cell times a polynomial; the zero polynomial empties the matrix. -/
def multiplyPolynomial
    [Add K] [Mul K] [Coefficient K]
    (matrix : CellMatrix K)
    (q : Polynomial K) : CellMatrix K :=
  if q.isZero then empty matrix.rows matrix.cols
  else matrix.map fun p => p.multiply q

/-- The sum of the products of cells at equal places; where a cell is empty nothing
is added. -/
def dotCells [Add K] [Mul K] [Coefficient K] (left right : List (Cell K)) :
    Polynomial K :=
  (left.zip right).foldl
    (fun sum pair =>
      match pair with
      | (some p, some q) => sum.accumulateScaled (p.multiply q) Coefficient.one
      | _ => sum) .zero

/-- The product of two matrices, each cell simplified with the rules at hand.  No
notice is made of the rules that a single cell turns down. -/
def multiply
    [Add K] [Mul K] [Coefficient K]
    (left : CellMatrix K)
    (rules : Option (RuleSet K))
    (right : CellMatrix K) : Attempt (CellMatrix K) :=
  if left.cols = right.rows then do
    Attempt.note (.multiplied left.rows left.cols right.rows right.cols)
    pure (ofFn left.rows right.cols fun row col =>
      some (simplify rules (dotCells (left.row row) (right.column col))).value)
  else
    Attempt.fail (.innerSizesDiffer left.rows left.cols right.rows right.cols)

/-- The partial derivative of every cell. -/
def derive [Add K] [Mul K] [Coefficient K] (matrix : CellMatrix K) (symbol : String) :
    CellMatrix K :=
  matrix.map fun p => p.derive symbol

/-- The antiderivative of every cell. -/
def integrate
    [Add K] [Div K] [Coefficient K]
    (matrix : CellMatrix K)
    (symbol : String) :
    CellMatrix K :=
  matrix.map fun p => p.integrate symbol

/-- The matrix with a rule set applied to every cell that is not empty. -/
def substitute
    [Add K] [Mul K] [Coefficient K]
    (matrix : CellMatrix K)
    (rules : RuleSet K) : Noted (CellMatrix K) :=
  let present := matrix.cells.filterMap id
  let changed := present.countP fun p => (rules.applyTo? p).value.isSome
  { value := (matrix.map fun p => (rules.applyTo p).value).withLabel? matrix.label
    notices :=
      (present.flatMap fun p => (rules.applyTo p).notices) ++ [.cellsChanged changed] }

/-- The matrix with a single rule applied to every cell that does not grow by it. -/
def substituteRule
    [Add K] [Mul K] [Coefficient K]
    (matrix : CellMatrix K)
    (rule : Rule K) : Noted (CellMatrix K) :=
  matrix.substitute { mode := .ifReducing, rules := [rule] }

/-- The place that a place moves to where another one is put in. -/
def skip (gap place : Nat) : Nat :=
  if place < gap then place else place + 1

/-- The matrix without one row and one column. -/
def minor (matrix : CellMatrix K) (row col : Nat) : CellMatrix K :=
  ofFn (matrix.rows - 1) (matrix.cols - 1) fun i j =>
    matrix.entry (skip row i) (skip col j)

/-- The matrix without the row and the column of one of its cells. -/
def minorAt (matrix : CellMatrix K) (row col : Nat) : Except Fault (CellMatrix K) :=
  if matrix.Contains row col then .ok (matrix.minor row col)
  else .error (matrix.outsideFault row col)

/-- Transposing exchanges the two coordinates. -/
@[simp] theorem entry_transpose (matrix : CellMatrix K) (row col : Nat) :
    matrix.transpose.entry row col = matrix.entry col row := by
  by_cases inside : row < matrix.cols ∧ col < matrix.rows
  · exact entry_ofFn (fun row col => matrix.entry col row) inside.1 inside.2
  · rw [entry_of_not_contains matrix.transpose inside,
      entry_of_not_contains matrix fun reversed => inside ⟨reversed.2, reversed.1⟩]

/-- A minor keeps every other cell, moved up behind the gap. -/
theorem entry_minor
    (matrix : CellMatrix K)
    {row col i j : Nat}
    (rowInside : i < matrix.rows - 1)
    (colInside : j < matrix.cols - 1) :
    (matrix.minor row col).entry i j = matrix.entry (skip row i) (skip col j) :=
  entry_ofFn (fun i j => matrix.entry (skip row i) (skip col j)) rowInside colInside

end CellMatrix
end PolyMatrix

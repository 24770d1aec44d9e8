import PolyMatrix.CellMatrix.Determinant
import PolyMatrix.CellMatrix.Parse
import PolyMatrix.CellMatrix.Text

/-!
# Matrices in memory

A matrix says in its type that its cells fill its shape, and reading outside of it gives an
empty cell.  In memory there is neither: a store has a shape and some cells, and a program on
stores computes the places of cells from rows and columns.  Here the operations on matrices
are such programs.  Reading or writing behind the last cell, dividing a place by a column
count of zero, taking a row from none and failing where success was taken for granted are
breaches, kept apart from the faults that are documented.
-/

namespace PolyMatrix

/-- What a program on stored cells must not do. -/
inductive Breach where
  /-- Using a place of a list that has fewer elements. -/
  | outOfRange (place count : Nat)
  /-- Dividing a place by a size of zero. -/
  | divisionByZero
  /-- Taking one from a size of zero. -/
  | sizeBelowZero
  /-- Failing in a step whose success is taken for granted. -/
  | unexpected (fault : Fault)
  deriving DecidableEq, Repr

/-- Why a program on stored cells has no result. -/
inductive Halt where
  /-- The request is faulty. -/
  | fault (fault : Fault)
  /-- The program did what it must not do. -/
  | breach (breach : Breach)
  deriving DecidableEq, Repr

/-- A program on stored cells, with every step checked. -/
abbrev Checked :=
  Except Halt

namespace Checked

variable {α : Type}

/-- Ends in a fault. -/
def fail (fault : Fault) : Checked α :=
  .error (.fault fault)

/-- Ends in a breach. -/
def violate (breach : Breach) : Checked α :=
  .error (.breach breach)

/-- Ends in the given value or fault. -/
def ofOutcome : Except Fault α → Checked α
  | .ok value => pure value
  | .error fault => fail fault

/-- A step whose success is taken for granted. -/
def certain : Checked α → Checked α
  | .error (.fault fault) => violate (.unexpected fault)
  | outcome => outcome

/-- The element at a place. -/
def read (elements : List α) (place : Nat) : Checked α :=
  match elements[place]? with
  | some element => pure element
  | none => violate (.outOfRange place elements.length)

/-- The list with another element at a place. -/
def write (elements : List α) (place : Nat) (element : α) : Checked (List α) :=
  if place < elements.length then pure (elements.set place element)
  else violate (.outOfRange place elements.length)

/-- How often a size goes into a place. -/
def quotient (place size : Nat) : Checked Nat :=
  if size = 0 then violate .divisionByZero else pure (place / size)

/-- What is left of a place. -/
def remainder (place size : Nat) : Checked Nat :=
  if size = 0 then violate .divisionByZero else pure (place % size)

/-- A size without one row or column. -/
def oneLess : Nat → Checked Nat
  | 0 => violate .sizeBelowZero
  | size + 1 => pure size

end Checked

open Checked

/-- A shape and some cells, which may or may not fill it. -/
structure Store (K : Type) where
  /-- How many rows there are. -/
  rows : Nat
  /-- How many columns there are. -/
  cols : Nat
  /-- The cells in reading order. -/
  cells : List (Cell K)
  /-- A name. -/
  label : Option String := none

namespace Store

variable {K : Type}

/-- A matrix in memory. -/
def of (matrix : CellMatrix K) : Store K where
  rows := matrix.rows
  cols := matrix.cols
  cells := matrix.cells
  label := matrix.label

/-! ## Building stores -/

/-- Empty cells throughout. -/
def empty (rows cols : Nat) : Store K where
  rows
  cols
  cells := List.replicate (rows * cols) none

/-- Fails unless the count is the one of the shape. -/
def checkCount (rows cols count : Nat) : Checked Unit :=
  if rows * cols = count then pure () else fail (.cellCount rows cols count)

/-- The store of cells in reading order. -/
def ofCells (rows cols : Nat) (cells : List (Cell K)) : Checked (Store K) := do
  checkCount rows cols cells.length
  pure { rows, cols, cells }

/-- The store of polynomials in reading order. -/
def ofPolynomials (rows cols : Nat) (polynomials : List (Polynomial K)) :
    Checked (Store K) :=
  ofCells rows cols (polynomials.map some)

/-- The store of numbers in reading order. -/
def ofScalars [Add K] [Coefficient K] (rows cols : Nat) (scalars : List K) :
    Checked (Store K) := do
  checkCount rows cols scalars.length
  certain (ofCells rows cols (scalars.map fun scalar => some (.constant scalar)))

/-- One value written to every place of the diagonal of an empty square. -/
def diagonal (size : Nat) (value : Polynomial K) : Checked (Store K) := do
  let square : Store K := empty size size
  let cells ← (List.range size).foldlM
    (fun cells place => write cells (place * size + place) (some value)) square.cells
  pure { square with cells }

/-- Ones on the diagonal of an empty square. -/
def identity [Add K] [Coefficient K] (size : Nat) : Checked (Store K) :=
  diagonal size .one

section Reading

variable [Add K] [Neg K] [Mul K] [Coefficient K]

/-- The store of texts in reading order. -/
def ofTexts (rows cols : Nat) (texts : List String) : Checked (Store K) := do
  checkCount rows cols texts.length
  let cells ← ofOutcome (CellMatrix.parseCells texts).result
  certain (ofCells rows cols cells)

/-- The store of rows of cell texts, each as long as the first one. -/
def ofGrid (rows : List (List (List Char))) : Checked (Store K) := do
  let first ← read rows 0
  match rows.findIdx? fun row => row.length != first.length with
  | some bad => do
      let row ← read rows bad
      fail (.raggedRow bad row.length first.length)
  | none => do
      let cells ← ofOutcome (CellMatrix.parseCells (rows.flatten.map String.ofList)).result
      certain (ofCells rows.length first.length cells)

/-- Reads a store behind its header. -/
def parseBody (source : String) (header : CellMatrix.Header) (body : List Char) :
    Checked (Store K) := do
  let fromRows : Checked (Store K) := do
    let rows ← ofOutcome (CellMatrix.grid source body)
    ofGrid rows
  let store ←
    match header.shape with
    | some (rows, cols) =>
        if rows * cols = 0 ∧ Text.allBlank body then pure (empty rows cols)
        else fromRows
    | none => fromRows
  pure { store with label := header.label }

/-- Reads a store. -/
def parse (source : String) : Checked (Store K) :=
  match CellMatrix.Header.split? source.toList with
  | some (header, body) => parseBody source header body
  | none => parseBody source ⟨none, none⟩ source.toList

end Reading

/-! ## Using cells -/

/-- The place of a position. -/
def placeOf (store : Store K) (row col : Nat) : Checked Nat :=
  if store.rows ≤ row ∨ store.cols ≤ col then
    fail (.outside row col store.rows store.cols)
  else pure (row * store.cols + col)

/-- The cell at a position. -/
def cell (store : Store K) (row col : Nat) : Checked (Cell K) := do
  let place ← store.placeOf row col
  read store.cells place

/-- The value at a position, zero in an empty cell. -/
def get (store : Store K) (row col : Nat) : Checked (Polynomial K) := do
  let cell ← store.cell row col
  pure (cell.getD .zero)

/-- The store with another cell at a position. -/
def set (store : Store K) (row col : Nat) (cell : Cell K) : Checked (Store K) := do
  let place ← store.placeOf row col
  let cells ← write store.cells place cell
  pure { store with cells }

/-- Visits every cell with its place, in reading order. -/
def visit {σ : Type}
    (store : Store K)
    (step : σ → Nat → Cell K → Checked σ)
    (start : σ) : Checked σ :=
  store.cells.zipIdx.foldlM (fun state visited => step state visited.2 visited.1) start

/-- Visits every cell with its row and column, in reading order. -/
def iterate {σ : Type}
    (store : Store K)
    (step : σ → Nat → Nat → Cell K → Checked σ)
    (start : σ) : Checked σ :=
  store.visit
    (fun state place cell => do
      let row ← quotient place store.cols
      let col ← remainder place store.cols
      step state row col cell) start

/-- The texts of the cells, row by row. -/
def records [Coefficient K] (store : Store K) : Checked (List (List String)) :=
  (List.range store.rows).mapM fun row =>
    (List.range store.cols).mapM fun col => do
      let cell ← read store.cells (row * store.cols + col)
      pure (CellMatrix.cellText cell)

/-- What is written for a cell: a line is opened before the first cell of a row and closed
behind the last one. -/
def piece [Coefficient K] (cols col : Nat) (cell : Cell K) : String :=
  (if col = 0 then "\n  " else "") ++ CellMatrix.cellText cell ++
    (if col + 1 < cols then ",  " else ";")

/-- What is written behind the header. -/
def written [Coefficient K] (store : Store K) : Checked String :=
  store.visit
    (fun text place cell => do
      let col ← remainder place store.cols
      pure (text ++ piece store.cols col cell)) ""

/-! ## Algebra -/

/-- The store of what a function makes of every cell that is not empty. -/
def map (store : Store K) (f : Polynomial K → Polynomial K) : Store K where
  rows := store.rows
  cols := store.cols
  cells := store.cells.map (Option.map f)

/-- Rows and columns exchanged, every cell written to its place. -/
def transpose (store : Store K) : Checked (Store K) := do
  let turned : Store K := empty store.cols store.rows
  let cells ← store.iterate
    (fun cells row col cell => write cells (col * store.rows + row) cell) turned.cells
  pure { turned with
    cells
    label := store.label.map fun label => "tr(" ++ label ++ ")" }

/-- The cells outside of one row and one column, gathered in reading order. -/
def minorAt (store : Store K) (row col : Nat) : Checked (Store K) := do
  let _ ← store.placeOf row col
  let rows ← oneLess store.rows
  let cols ← oneLess store.cols
  let cells ← store.iterate
    (fun cells i j cell =>
      if i ≠ row ∧ j ≠ col then pure (cells ++ [cell]) else pure cells) []
  certain (ofCells rows cols cells)

variable [Add K] [Mul K] [Coefficient K]

/-- The sum of the diagonal. -/
def trace (store : Store K) : Checked (Polynomial K) :=
  (List.range (min store.rows store.cols)).foldlM
    (fun sum place => do
      match ← read store.cells (place * store.cols + place) with
      | some p => pure (sum.accumulateScaled p Coefficient.one)
      | none => pure sum) .zero

/-- The sum of a store and a multiple of another, cell by cell. -/
def addScaled (left right : Store K) (k : K) : Checked (Store K) :=
  if left.rows = right.rows ∧ left.cols = right.cols then
    certain (ofCells left.rows left.cols
      (List.zipWith (CellMatrix.addCells k) left.cells right.cells))
  else fail (.shapesDiffer left.rows left.cols right.rows right.cols)

/-- Every cell times a polynomial; the zero polynomial empties the store. -/
def multiplyPolynomial (store : Store K) (q : Polynomial K) : Store K :=
  if q.isZero then empty store.rows store.cols
  else store.map fun p => p.multiply q

/-- A rule set applied to every cell that is not empty. -/
def substitute (store : Store K) (rules : RuleSet K) : Store K :=
  { store with
    cells := store.cells.map (Option.map fun p => (rules.applyTo? p).value.getD p) }

/-- A sum with the product of two cells added: those of a row of the left store and of a
column of the right one, as many steps behind their beginnings as told. -/
def addProductAt
    (left right : Store K)
    (row col : Nat)
    (sum : Polynomial K)
    (step : Nat) : Checked (Polynomial K) := do
  let p ← read left.cells (row * left.cols + step)
  let q ← read right.cells (step * right.cols + col)
  match p, q with
  | some p, some q => pure (sum.accumulateScaled (p.multiply q) Coefficient.one)
  | _, _ => pure sum

/-- The cell of a product at a place, simplified with the rules at hand. -/
def productCell
    (left : Store K)
    (rules : Option (RuleSet K))
    (right : Store K)
    (place : Nat) : Checked (Cell K) := do
  let row ← quotient place right.cols
  let col ← remainder place right.cols
  let sum ← (List.range left.cols).foldlM (left.addProductAt right row col) .zero
  pure (some (simplify rules sum).value)

/-- The product of two stores, cell by cell. -/
def multiply (left : Store K) (rules : Option (RuleSet K)) (right : Store K) :
    Checked (Store K) :=
  if left.cols = right.rows then do
    let cells ← (List.range (left.rows * right.cols)).mapM (left.productCell rules right)
    certain (ofCells left.rows right.cols cells)
  else fail (.innerSizesDiffer left.rows left.cols right.rows right.cols)

variable [Neg K]

/-- The determinant of a store with `size` rows, by expansion along the first row. -/
def expansion (rules : Option (RuleSet K)) : Nat → Store K → Checked (Polynomial K)
  | 0, _ => pure .one
  | 1, store => certain (store.get 0 0)
  | 2, store => do
      let a ← certain (store.get 0 0)
      let d ← certain (store.get 1 1)
      let b ← certain (store.get 0 1)
      let c ← certain (store.get 1 0)
      pure ((a.multiply d).subtract (b.multiply c))
  | size + 3, store =>
      (List.range (size + 3)).foldlM
        (fun sum col => do
          match ← certain (store.cell 0 col) with
          | none => pure sum
          | some cell =>
              if cell.isZero then pure sum
              else do
                let minor ← certain (store.minorAt 0 col)
                let value ← expansion rules (size + 2) minor
                pure (simplify rules
                  (sum.addScaled (cell.multiply value)
                    (Coefficient.sign (col % 2 == 1)))).value) .zero

/-- The determinant of a square store. -/
def determinant (store : Store K) (rules : Option (RuleSet K)) :
    Checked (Polynomial K) :=
  if store.rows = store.cols then expansion rules store.rows store
  else fail (.notSquare store.rows store.cols)

end Store
end PolyMatrix

import PolyMatrix.CellMatrix.Basic
import PolyMatrix.Polynomial.OfExpression
import PolyMatrix.Text.Blank
import PolyMatrix.Text.Fields

/-!
# Reading matrices

A matrix is read from rows that end with semicolons and hold cells with commas
between them, no cell blank and all rows of one length.  A header in curly braces
may stand before the first cell; its label is kept, and its shape matters only
where there are no cells.
-/

namespace PolyMatrix
namespace CellMatrix

/-- What a header says. -/
structure Header where
  /-- The shape, if it is written as one. -/
  shape : Option (Nat × Nat)
  /-- The label. -/
  label : Option String
  deriving DecidableEq, Repr

namespace Header

/-- The least number that does not fit into a machine word of 64 bits. -/
def wordBound : Nat :=
  0x10000000000000000

/-- A number of rows or columns: digits, a plus sign allowed in front, below the
range of machine words. -/
def size? (text : List Char) : Option Nat :=
  let digits :=
    match text with
    | '+' :: rest => rest
    | other => other
  if digits.isEmpty || !digits.all Char.isDigit then none
  else
    let size := Nat.ofDigitChars 10 digits 0
    if size < wordBound then some size else none

/-- A shape: two sizes with an `x` between them. -/
def shape? (text : List Char) : Option (Nat × Nat) :=
  match text.dropWhile (· != 'x') with
  | _ :: cols => do
      let rows ← size? (text.takeWhile (· != 'x'))
      let cols ← size? cols
      pure (rows, cols)
  | [] => none

/-- Reads what stands between the braces: a shape, and a label behind the first
space. -/
def ofContent (content : List Char) : Header :=
  let content := Text.trim content
  let label := Text.trim ((content.dropWhile (· != ' ')).drop 1)
  { shape := shape? (content.takeWhile (· != ' '))
    label := if label.isEmpty then none else some (String.ofList label) }

/-- The header of a text and what stands behind it.  A brace behind a comma or a
semicolon opens none. -/
def split? (text : List Char) : Option (Header × List Char) :=
  match text.dropWhile fun c => c != '\x7b' && c != ',' && c != ';' with
  | '\x7b' :: rest =>
      match rest.dropWhile (· != '\x7d') with
      | _ :: body => some (ofContent (rest.takeWhile (· != '\x7d')), body)
      | [] => none
  | _ => none

end Header

/-- The texts of the cells of a row, if none of them is blank. -/
def rowTexts? (row : List Char) : Option (List (List Char)) :=
  let cells := Text.fields (· == ',') (row.dropWhile Text.isLayout)
  if cells.any Text.allBlank then none else some cells

/-- The rows at the front of a list of row texts, and the texts behind them. -/
def leadingRows : List (List Char) → List (List (List Char)) × List (List Char)
  | [] => ([], [])
  | row :: rest =>
      match rowTexts? row with
      | some cells =>
          let others := leadingRows rest
          (cells :: others.1, others.2)
      | none => ([], row :: rest)

/-- Splits a text without header into the texts of its cells; all that follows the
last row must be layout. -/
def grid (source : String) (body : List Char) :
    Except Fault (List (List (List Char))) :=
  let pieces := Text.fields (· == ';') body
  let split := leadingRows pieces.dropLast
  let unread := [';'].intercalate (split.2 ++ [pieces.getLastD []])
  let rest := unread.dropWhile Text.isLayout
  if split.1.isEmpty then
    .error (.notMatrix (String.ofList (Text.trim source.toList)))
  else if rest.isEmpty then .ok split.1
  else .error (.textAfterRows (String.ofList rest))

/-- Fails at the first row whose length differs from that of the first row. -/
def checkLengths (rows : List (List (List Char))) : Except Fault Nat :=
  let cols := (rows.headD []).length
  match rows.findIdx? fun row => row.length != cols with
  | some bad => .error (.raggedRow bad (rows.getD bad []).length cols)
  | none => .ok cols

variable {K : Type} [Add K] [Neg K] [Mul K] [Coefficient K]

/-- Reads the cells of a list of texts. -/
def parseCells (texts : List String) : Attempt (List (Cell K)) :=
  texts.mapM fun text => do
    let p ← Polynomial.parse text
    pure (some p)

/-- The matrix of texts in reading order; their number is checked before they are
read. -/
def ofTexts (rows cols : Nat) (texts : List String) : Attempt (CellMatrix K) :=
  if rows * cols = texts.length then do
    let cells ← parseCells texts
    Attempt.ofExcept (ofCells rows cols cells)
  else
    Attempt.fail (.cellCount rows cols texts.length)

/-- The matrix of rows of cell texts. -/
def ofGrid (rows : List (List (List Char))) : Attempt (CellMatrix K) := do
  let cols ← Attempt.ofExcept (checkLengths rows)
  let cells ← parseCells (rows.flatten.map String.ofList)
  Attempt.ofExcept (ofCells rows.length cols cells)

/-- Reads a matrix behind its header. -/
def parseBody (source : String) (header : Header) (body : List Char) :
    Attempt (CellMatrix K) := do
  let fromRows : Attempt (CellMatrix K) := do
    let rows ← Attempt.ofExcept (grid source body)
    ofGrid rows
  let matrix ←
    match header.shape with
    | some (rows, cols) =>
        if rows * cols = 0 ∧ Text.allBlank body then pure (empty rows cols)
        else fromRows
    | none => fromRows
  pure (matrix.withLabel? header.label)

/-- Reads a matrix. -/
def parse (source : String) : Attempt (CellMatrix K) :=
  match Header.split? source.toList with
  | some (header, body) => parseBody source header body
  | none => parseBody source ⟨none, none⟩ source.toList

end CellMatrix
end PolyMatrix

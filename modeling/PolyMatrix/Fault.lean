/-!
# Faults

What can be wrong with a request, as causes.  The wording of a cause is in one
place, `Fault.message`.
-/

namespace PolyMatrix

/-- The reason why an operation has no result. -/
inductive Fault where
  /-- A text that should be a product of symbols holds something else. -/
  | notMonomial (text : String)
  /-- A run of digits and points in an expression is no number. -/
  | notNumber (literal : String) (text : String)
  /-- Brackets stand in more than `limit` other brackets. -/
  | nestedTooDeep (limit : Nat)
  /-- The number of cells does not fit the shape. -/
  | cellCount (rows cols count : Nat)
  /-- A position lies outside of a matrix. -/
  | outside (row col rows cols : Nat)
  /-- Two matrices to be added differ in shape. -/
  | shapesDiffer (rows cols otherRows otherCols : Nat)
  /-- Two matrices to be multiplied differ in their inner size. -/
  | innerSizesDiffer (rows cols otherRows otherCols : Nat)
  /-- A matrix that should be square is not. -/
  | notSquare (rows cols : Nat)
  /-- Two vectors to be multiplied differ in length. -/
  | lengthsDiffer (left right : Nat)
  /-- A text that should be a matrix has no row at its front. -/
  | notMatrix (text : String)
  /-- The last row of a matrix is followed by something else. -/
  | textAfterRows (rest : String)
  /-- A row has another number of cells than the first one. -/
  | raggedRow (row count expected : Nat)
  /-- An entry of a rule document has no arrow. -/
  | notRule (entry : String)
  /-- No verbosity has this name. -/
  | unknownLevel (name : String)
  deriving DecidableEq, Repr

namespace Fault

/-- What a fault is about. -/
inductive Kind where
  /-- A product of symbols. -/
  | monomial
  /-- A written number. -/
  | number
  /-- A shape, a position or a length. -/
  | dimension
  /-- The layout of a text. -/
  | format
  deriving DecidableEq, Repr

/-- What a fault is about. -/
def kind : Fault → Kind
  | notMonomial _ => .monomial
  | notNumber _ _ => .number
  | cellCount _ _ _ | outside _ _ _ _ | shapesDiffer _ _ _ _
  | innerSizesDiffer _ _ _ _ | notSquare _ _ | lengthsDiffer _ _ => .dimension
  | nestedTooDeep _ | notMatrix _ | textAfterRows _ | raggedRow _ _ _ | notRule _
  | unknownLevel _ => .format

/-- The opening of every message about one kind of fault. -/
def Kind.heading : Kind → String
  | .monomial => "Invalid term (only non-numeric symbols allowed): "
  | .number => "Invalid number literal: "
  | .dimension => "Invalid dimension: "
  | .format => "Invalid format: "

/-- A shape as it is written in messages and headers. -/
def shapeText (rows cols : Nat) : String :=
  toString rows ++ "x" ++ toString cols

/-- The part of a message that tells what is wrong. -/
def detail : Fault → String
  | notMonomial text => text
  | notNumber literal text => "'" ++ literal ++ "' in '" ++ text ++ "'"
  | nestedTooDeep limit => "brackets nested deeper than " ++ toString limit
  | cellCount rows cols count =>
      "Expected nRows*nCols " ++ toString rows ++ "*" ++ toString cols ++ "=" ++
        toString (rows * cols) ++ ", Got:" ++ toString count
  | outside row col rows cols =>
      "cell (" ++ toString row ++ ", " ++ toString col ++ ") outside of " ++
        shapeText rows cols ++ " matrix"
  | shapesDiffer rows cols otherRows otherCols =>
      "add: " ++ shapeText rows cols ++ " and " ++ shapeText otherRows otherCols
  | innerSizesDiffer rows cols otherRows otherCols =>
      "cannot multiply " ++ shapeText rows cols ++ " by " ++
        shapeText otherRows otherCols
  | notSquare rows cols =>
      "determinant of non-square " ++ shapeText rows cols ++ " matrix"
  | lengthsDiffer left right =>
      "different vector lengths " ++ toString left ++ " and " ++ toString right
  | notMatrix text => "not a matrix: '" ++ text ++ "'"
  | textAfterRows rest => "unexpected text after last row: '" ++ rest ++ "'"
  | raggedRow row count expected =>
      "row " ++ toString row ++ " has " ++ toString count ++ " cells, expected " ++
        toString expected
  | notRule entry => "expected 'pattern -> replacement', got '" ++ entry ++ "'"
  | unknownLevel name =>
      "loglevel must be debug, info, warn, error or off, got '" ++ name ++ "'"

/-- The message that reports a fault. -/
def message (fault : Fault) : String :=
  fault.kind.heading ++ fault.detail

end Fault
end PolyMatrix

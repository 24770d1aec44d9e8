import PolyMatrix.Fault
import PolyMatrix.Monomial.Text

/-!
# Notices

What an operation has to tell besides its result: text that was passed over,
rules that were turned down, steps that were taken.  A notice is a value with
a level and a wording; who shows it, and from which level on, is not decided
here.
-/

namespace PolyMatrix

/-- How much a notice matters, and from where on notices are shown. -/
inductive Level where
  /-- Steps of a computation. -/
  | debug
  /-- Results that were asked for. -/
  | info
  /-- Text that was read leniently. -/
  | warning
  /-- Failures. -/
  | error
  /-- Nothing is shown. -/
  | off
  deriving DecidableEq, Repr

namespace Level

/-- The name of a level in a protocol of notices. -/
def name : Level → String
  | debug => "DEBUG"
  | info => "INFO"
  | warning => "WARN"
  | error => "ERROR"
  | off => "OFF"

end Level

/-- Something worth telling that is no fault. -/
inductive Notice where
  /-- A character outside of every token was left out. -/
  | skippedCharacter (character : Char) (text : String)
  /-- A star without a factor behind it was left out. -/
  | danglingStar
  /-- Signs without a term behind them were left out. -/
  | danglingSign
  /-- Brackets around nothing were left out. -/
  | emptyBrackets
  /-- An open bracket was closed where the text went on without its partner. -/
  | missingBracket
  /-- A token that continues nothing was left out. -/
  | strayToken (token : String) (text : String)
  /-- A division ended at a leading monomial that did not descend. -/
  | divisionStopped (leading : Monomial)
  /-- A rule would have made an expression larger. -/
  | ruleRejected (rule : String) (before after : Nat)
  /-- Rules changed this many cells of a matrix. -/
  | cellsChanged (count : Nat)
  /-- Two matrices were multiplied. -/
  | multiplied (rows cols otherRows otherCols : Nat)
  /-- A determinant is about to be computed. -/
  | determinant (rows cols : Nat)
  /-- An entry of an operation trace that nobody else takes. -/
  | traceEntry (entry : String)
  /-- A matrix was drawn as a table. -/
  | drawing (text : String)
  deriving DecidableEq

namespace Notice

/-- How much a notice matters. -/
def level : Notice → Level
  | skippedCharacter _ _ | danglingStar | danglingSign | emptyBrackets
  | missingBracket | strayToken _ _ => .warning
  | divisionStopped _ | ruleRejected _ _ _ | cellsChanged _ | multiplied _ _ _ _
  | determinant _ _ => .debug
  | traceEntry _ | drawing _ => .info

/-- The wording of a notice. -/
def text : Notice → String
  | skippedCharacter character text =>
      "skipping unrecognized character '" ++ character.toString ++ "' in '" ++
        text ++ "'"
  | danglingStar => "dangling '*' ignored"
  | danglingSign => "dangling sign ignored"
  | emptyBrackets => "empty brackets ignored"
  | missingBracket => "missing ')' closed at end of input"
  | strayToken token text => "unbalanced '" ++ token ++ "' skipped in '" ++ text ++ "'"
  | divisionStopped leading =>
      "division stopped: leading term " ++ leading.text ++ " did not descend"
  | ruleRejected rule before after =>
      "rule " ++ rule ++ " rejected: size " ++ toString before ++ " -> " ++
        toString after
  | cellsChanged count => "substitution changed " ++ toString count ++ " cells"
  | multiplied rows cols otherRows otherCols =>
      "multiplied " ++ Fault.shapeText rows cols ++ " by " ++
        Fault.shapeText otherRows otherCols
  | determinant rows cols =>
      "determinant of " ++ Fault.shapeText rows cols ++ " matrix"
  | traceEntry entry => entry
  | drawing text => text

end Notice
end PolyMatrix

import PolyMatrix.Expression.Basic
import PolyMatrix.Expression.Token

/-!
# Reading expressions

An expression is a sum of signed products.  The factors of a product stand side
by side or with a star between them, and each may have signs of its own; a factor
is a number, a symbol, a number in front of a symbol, or a sum in brackets.

Reading is lenient and goes through the tokens once, with a stack of the sums
whose end has not been reached: one for every open bracket, and one for the whole
expression.  What does not fit is left out with a notice:

* a star without a factor on its right, signs without a term behind them, and
  brackets around nothing contribute nothing;
* a bracket is closed where the sum in it cannot go on, though its partner is not
  there;
* a token at which the outermost sum cannot go on is skipped, and another sum
  starts behind it.

Only too many open brackets are a fault.
-/

namespace PolyMatrix
namespace Expression

/-- What an expression is read from, token by token: a number in front of a
symbol belongs to it. -/
inductive Piece
  | operand (value : Expression)
  | sign (negative : Bool)
  | star
  | opening
  | closing
  deriving DecidableEq, Repr

namespace Piece

/-- The pieces of a list of tokens. -/
def ofTokens : List Token → List Piece
  | [] => []
  | .number value :: .symbol name :: rest =>
      .operand (.multiple value name) :: ofTokens rest
  | .number value :: rest => .operand (.number value) :: ofTokens rest
  | .symbol name :: rest => .operand (.symbol name) :: ofTokens rest
  | .plus :: rest => .sign false :: ofTokens rest
  | .minus :: rest => .sign true :: ofTokens rest
  | .star :: rest => .star :: ofTokens rest
  | .opening :: rest => .opening :: ofTokens rest
  | .closing :: rest => .closing :: ofTokens rest

/-- How a piece is called in notices. -/
def text : Piece → String
  | operand (.symbol _) => Token.text (.symbol "")
  | operand _ => Token.text (.number ⟨0, 0⟩)
  | sign false => Token.text .plus
  | sign true => Token.text .minus
  | star => Token.text .star
  | opening => Token.text .opening
  | closing => Token.text .closing

end Piece

/-- Where in a sum the reader stands. -/
inductive Place
  /-- In front of a term, behind some of its signs. -/
  | term
  /-- Behind a factor. -/
  | joint
  /-- Behind a star. -/
  | star
  /-- Behind a star and some signs of the next factor. -/
  | factor (negative : Bool)
  deriving DecidableEq, Repr

namespace Place

/-- The sign of a factor that starts at a place. -/
def negative : Place → Bool
  | factor negative => negative
  | _ => false

end Place

/-- A sum whose end has not been reached. -/
structure OpenSum where
  /-- The sum of the terms that have been read, if there are any. -/
  total : Option Expression := none
  /-- The sign in front of the term that is being read. -/
  negative : Bool := false
  /-- Whether anything was read since the last term, or since a star that was
  left out. -/
  touched : Bool := false
  /-- The product of the factors of the term that have been read. -/
  product : Option Expression := none
  /-- Where in the term the reader stands. -/
  place : Place := .term
  deriving DecidableEq, Repr

namespace OpenSum

/-- How reading goes on after a piece. -/
inductive Step
  /-- The piece was read. -/
  | onward (next : OpenSum)
  /-- The piece was a bracket, and a factor starts behind it. -/
  | inward (outside : OpenSum)
  /-- The sum ends in front of the piece. -/
  | outward (total : Option Expression)
  deriving DecidableEq, Repr

/-- The sum with another factor read. -/
def addFactor (state : OpenSum) (value : Expression) : OpenSum :=
  let factor := Expression.signed state.place.negative value
  { state with
    product :=
      match state.product with
      | some product => some (.product product factor)
      | none => some factor
    touched := true
    place := .joint }

/-- The sum of all terms, if the term that is being read has the given factors. -/
def totalWith (state : OpenSum) (product : Expression) : Expression :=
  .sum (state.total.getD .zero) state.negative product

/-- The sum with a bracket closed around what was read in it. -/
def closeGroup (state : OpenSum) (inner : Option Expression) : Noted OpenSum :=
  match inner with
  | some value => pure (state.addFactor value)
  | none => do
      Noted.note .emptyBrackets
      pure { state with touched := true, place := .joint }

/-- Ends the sum, in front of a bracket or of nothing. -/
def stop (state : OpenSum) : Noted (Option Expression) := do
  if state.place = .star then Noted.note .danglingStar
  match state.product with
  | some product => pure (some (state.totalWith product))
  | none => do
      if state.touched then Noted.note .danglingSign
      pure state.total

/-- Ends a term in front of a sign.  Where the term has no factors the sum ends
with it. -/
def endAtSign (state : OpenSum) (negative : Bool) : Noted Step :=
  match state.product with
  | some product =>
      pure (.onward
        { total := some (state.totalWith product), negative, touched := true })
  | none => do
      if state.touched then Noted.note .danglingSign
      pure (.outward state.total)

/-- Ends a term in front of a star.  Where the term has no factors the star is left
out, and where it has some the sum ends. -/
def endAtStar (state : OpenSum) : Noted Step :=
  match state.product with
  | some product => pure (.outward (some (state.totalWith product)))
  | none => do
      Noted.note .danglingStar
      pure (.onward { state with touched := false, place := .term })

/-- Reads a sign. -/
def readSign (state : OpenSum) (negative : Bool) : Noted Step :=
  match state.place with
  | .term =>
      pure (.onward
        { state with negative := state.negative ^^ negative, touched := true })
  | .joint => state.endAtSign negative
  | .star => pure (.onward { state with place := .factor negative })
  | .factor earlier =>
      pure (.onward { state with place := .factor (earlier ^^ negative) })

/-- Reads a star. -/
def readStar (state : OpenSum) : Noted Step :=
  match state.place with
  | .joint => pure (.onward { state with place := .star })
  | .star => do
      Noted.note .danglingStar
      state.endAtStar
  | _ => state.endAtStar

/-- Reads a piece, or ends in front of it. -/
def read (state : OpenSum) : Piece → Noted Step
  | .operand value => pure (.onward (state.addFactor value))
  | .sign negative => state.readSign negative
  | .star => state.readStar
  | .opening => pure (.inward state)
  | .closing => do
      let total ← state.stop
      pure (.outward total)

end OpenSum

/-- How many brackets may be open at a time. -/
def nestingLimit : Nat :=
  256

/-- What reading a piece makes of the open sums. -/
inductive Advance
  /-- These sums are open now, the innermost one first. -/
  | reading (current : OpenSum) (outer : List OpenSum)
  /-- The outermost sum ends in front of the piece. -/
  | ended (total : Option Expression)
  deriving DecidableEq, Repr

/-- Reads a piece with the given sums open, the innermost one first. -/
def advance (piece : Piece) : OpenSum → List OpenSum → Attempt Advance
  | current, outer => do
      match ← Attempt.ofNoted (current.read piece) with
      | .onward next => pure (.reading next outer)
      | .inward outside =>
          if outer.length < nestingLimit then pure (.reading {} (outside :: outer))
          else Attempt.fail (.nestedTooDeep nestingLimit)
      | .outward total =>
          match outer with
          | [] => pure (.ended total)
          | parent :: others =>
              if piece = .closing then do
                let joined ← Attempt.ofNoted (parent.closeGroup total)
                pure (.reading joined others)
              else do
                Attempt.note .missingBracket
                let joined ← Attempt.ofNoted (parent.closeGroup total)
                advance piece joined others

/-- Ends all open sums. -/
def close : OpenSum → List OpenSum → Noted (Option Expression)
  | current, [] => current.stop
  | current, parent :: others => do
      let total ← current.stop
      Noted.note .missingBracket
      let joined ← parent.closeGroup total
      close joined others

/-- A reader between two pieces. -/
structure Reader where
  /-- What was read in front of the last token that was skipped. -/
  total : Expression := .zero
  /-- The innermost open sum. -/
  current : OpenSum := {}
  /-- The other open sums, the innermost one first. -/
  outer : List OpenSum := []
  deriving DecidableEq, Repr

namespace Reader

/-- Reads a piece, or skips it if no sum can go on with it. -/
def read (source : String) (reader : Reader) (piece : Piece) : Attempt Reader := do
  match ← advance piece reader.current reader.outer with
  | .reading current outer => pure { reader with current, outer }
  | .ended total => do
      Attempt.note (.strayToken piece.text source)
      pure { total := reader.total.extend total }

/-- Reads all pieces and ends the expression. -/
def readAll (source : String) : Reader → List Piece → Attempt Expression
  | reader, [] => do
      let total ← Attempt.ofNoted (close reader.current reader.outer)
      pure (reader.total.extend total)
  | reader, piece :: rest => do
      let next ← reader.read source piece
      next.readAll source rest

end Reader

/-- The expression that a list of tokens denotes. -/
def ofTokens (source : String) (tokens : List Token) : Attempt Expression :=
  ({} : Reader).readAll source (Piece.ofTokens tokens)

/-- Reads an expression. -/
def parse (source : String) : Attempt Expression := do
  let tokens ← Token.scan source
  ofTokens source tokens

end Expression
end PolyMatrix

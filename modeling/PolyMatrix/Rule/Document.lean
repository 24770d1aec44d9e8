import PolyMatrix.Rule.Basic
import PolyMatrix.Text.Fields

/-!
# Rule documents

A rule document lists rules, one an entry: a pattern, an arrow and a replacement.
Entries end at line breaks and at semicolons.  Blank entries are passed over, and
so is a line whose first characters besides blanks are two slashes or a hash,
semicolons and all.
-/

namespace PolyMatrix
namespace RuleDocument

/-- Whether a line is a comment. -/
def isComment (line : List Char) : Bool :=
  match Text.trim line with
  | '#' :: _ => true
  | '/' :: '/' :: _ => true
  | _ => false

/-- The entries of a document, without blanks around them. -/
def entries (document : List Char) : List (List Char) :=
  let lines := (Text.fields (· == '\n') document).filter fun line => !isComment line
  ((lines.flatMap (Text.fields (· == ';'))).map Text.trim).filter
    fun entry => !entry.isEmpty

/-- The texts on either side of the first arrow. -/
def splitAtArrow? : List Char → Option (List Char × List Char)
  | [] => none
  | '-' :: '>' :: rest => some ([], rest)
  | character :: rest =>
      (splitAtArrow? rest).map fun sides => (character :: sides.1, sides.2)

/-- Reads the rule of an entry. -/
def readEntry
    {K : Type} [Add K] [Neg K] [Mul K] [Coefficient K]
    (entry : List Char) : Attempt (Rule K) :=
  match splitAtArrow? entry with
  | some (pattern, replacement) =>
      Rule.parse (String.ofList (Text.trim pattern))
        (String.ofList (Text.trim replacement))
  | none => Attempt.fail (.notRule (String.ofList entry))

end RuleDocument

/-- Reads the rules of a document; the first entry that is no rule is the fault. -/
def RuleSet.ofDocument
    {K : Type} [Add K] [Neg K] [Mul K] [Coefficient K]
    (mode : RuleMode)
    (document : String) : Attempt (RuleSet K) := do
  let rules ← (RuleDocument.entries document.toList).mapM RuleDocument.readEntry
  pure { mode, rules }

end PolyMatrix

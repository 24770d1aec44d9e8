import PolyMatrix.Noted
import PolyMatrix.Polynomial.Comparison
import PolyMatrix.Polynomial.OfExpression
import PolyMatrix.Polynomial.Substitution

/-!
# Substitution rules

A rule replaces a product of symbols by a polynomial, and a rule set applies its
rules one after another, each to the result of those before.  A set in reducing
mode turns down a rule's result that weighs more than what the rule was applied
to, so no application makes a polynomial heavier.
-/

namespace PolyMatrix

/-- A product of symbols and the polynomial that it stands for. -/
structure Rule (K : Type) where
  /-- What is replaced. -/
  pattern : Monomial
  /-- What it is replaced by. -/
  replacement : Polynomial K

namespace Rule

variable {K : Type}

/-- Reads a rule from the texts of its two sides, the pattern first. -/
def parse [Add K] [Neg K] [Mul K] [Coefficient K] (pattern replacement : String) :
    Attempt (Rule K) := do
  let pattern ← Attempt.ofExcept (Monomial.parse pattern)
  let replacement ← Polynomial.parse replacement
  pure { pattern, replacement }

/-- The written form of a rule. -/
def text [Coefficient K] (rule : Rule K) : String :=
  "'" ++ rule.pattern.text ++ "'->'" ++ rule.replacement.text ++ "'"

/-- The polynomial with the rule applied, if its pattern occurs. -/
def applyTo? [Add K] [Mul K] [Coefficient K] (rule : Rule K) (p : Polynomial K) :
    Option (Polynomial K) :=
  p.substitute? rule.pattern rule.replacement

/-- Whether two rules have one pattern and replacements that count as equal. -/
def agrees [Coefficient K] (left right : Rule K) : Bool :=
  left.pattern == right.pattern && left.replacement.agrees right.replacement

end Rule

/-- Which results of its rules a set keeps. -/
inductive RuleMode where
  /-- All of them. -/
  | always
  /-- Those that weigh no more than what the rule was applied to. -/
  | ifReducing
  deriving DecidableEq, Repr

namespace RuleMode

/-- The name of a mode. -/
def name : RuleMode → String
  | always => "ApplyAll"
  | ifReducing => "ApplyIfReducing"

/-- Every mode, by name. -/
def all : List RuleMode :=
  [always, ifReducing]

/-- The mode of a rule set that names none. -/
def standard : RuleMode :=
  ifReducing

/-- Whether a mode keeps a result, given what the rule was applied to. -/
def accepts {K : Type} (mode : RuleMode) (before after : Polynomial K) : Bool :=
  match mode with
  | always => true
  | ifReducing => decide (after.weight ≤ before.weight)

end RuleMode

/-- Rules in the order in which they are applied. -/
structure RuleSet (K : Type) where
  /-- Which results are kept. -/
  mode : RuleMode
  /-- The rules. -/
  rules : List (Rule K)

namespace RuleSet

variable {K : Type}

/-- A rule applied under a mode: nothing if the pattern does not occur, and
nothing but a notice if the result is turned down. -/
def applyRule?
    [Add K] [Mul K] [Coefficient K]
    (mode : RuleMode)
    (rule : Rule K)
    (p : Polynomial K) : Noted (Option (Polynomial K)) :=
  match rule.applyTo? p with
  | none => pure none
  | some candidate =>
      if mode.accepts p candidate then pure (some candidate)
      else do
        Noted.note (.ruleRejected rule.text p.weight candidate.weight)
        pure none

/-- The rules applied in order to a polynomial and to what it has become. -/
def applyRules? [Add K] [Mul K] [Coefficient K] (mode : RuleMode) :
    List (Rule K) → Polynomial K → Noted (Option (Polynomial K))
  | [], _ => pure none
  | rule :: rest, p => do
      match ← applyRule? mode rule p with
      | some changed => do
          let later ← applyRules? mode rest changed
          pure (some (later.getD changed))
      | none => applyRules? mode rest p

/-- The polynomial with the rules applied, if the result of any of them was kept. -/
def applyTo? [Add K] [Mul K] [Coefficient K] (set : RuleSet K) (p : Polynomial K) :
    Noted (Option (Polynomial K)) :=
  applyRules? set.mode set.rules p

/-- The polynomial with the rules applied. -/
def applyTo [Add K] [Mul K] [Coefficient K] (set : RuleSet K) (p : Polynomial K) :
    Noted (Polynomial K) := do
  let changed ← set.applyTo? p
  pure (changed.getD p)

/-- The written form of a rule set. -/
def text [Coefficient K] (set : RuleSet K) : String :=
  set.mode.name ++ " [" ++ ", ".intercalate (set.rules.map Rule.text) ++ "]"

/-- Whether two rule sets have one mode and rules that agree in order. -/
def agrees [Coefficient K] (left right : RuleSet K) : Bool :=
  left.mode == right.mode && left.rules.length == right.rules.length &&
    (left.rules.zip right.rules).all fun pair => pair.1.agrees pair.2

/-- A set without rules changes nothing. -/
@[simp] theorem applyTo?_of_no_rules
    [Add K] [Mul K] [Coefficient K]
    (mode : RuleMode)
    (p : Polynomial K) : applyTo? ⟨mode, []⟩ p = pure none :=
  rfl

end RuleSet
end PolyMatrix

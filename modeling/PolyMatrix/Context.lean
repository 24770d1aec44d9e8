import PolyMatrix.CellMatrix.Determinant
import PolyMatrix.Trace

/-!
# Contexts of computation

A context holds what matrix operations share: the rules that simplify products and
determinants, and the trace that their results are recorded in.  Nothing is
global; an operation in a context gives its result, the context as it is after
recording, and the entries that went to the reader of the trace.
-/

namespace PolyMatrix

/-- Rules and a trace, either of which may be missing. -/
structure Context (K : Type) where
  /-- The rules that results are simplified with. -/
  rules : Option (RuleSet K) := none
  /-- The trace that operations are recorded in. -/
  trace : Option Trace := none

/-- What an operation in a context gives. -/
structure Recorded (K α : Type) where
  /-- The result. -/
  value : α
  /-- The context after recording. -/
  context : Context K
  /-- The entries that went to the reader of the trace, oldest first. -/
  delivered : List String

namespace Context

variable {K α : Type}

/-- A result together with a context that carries a trace on. -/
def carry (context : Context K) (value : α) (handover : Trace.Handover) :
    Recorded K α :=
  { value
    context := { context with trace := some handover.trace }
    delivered := handover.delivered }

/-- A result that leaves the context as it is. -/
def unchanged (context : Context K) (value : α) : Recorded K α :=
  { value, context, delivered := [] }

/-- A result that is recorded as a matrix under the name of an operation. -/
def record
    [Coefficient K]
    (context : Context K)
    (operation : String)
    (matrix : CellMatrix K)
    (value : α) : Recorded K α :=
  match context.trace with
  | some trace => context.carry value (trace.record operation matrix)
  | none => context.unchanged value

/-- Hands out every entry of the trace. -/
def flush (context : Context K) : Noted (Recorded K Unit) :=
  match context.trace with
  | some trace => do
      let handover ← trace.drain
      pure (context.carry () handover)
  | none => pure (context.unchanged ())

/-- A matrix, recorded under the name of the operation that it comes from. -/
def traced
    [Coefficient K]
    (context : Context K)
    (operation : String)
    (matrix : CellMatrix K) : Recorded K (CellMatrix K) :=
  context.record operation matrix matrix

/-- Recording leaves the result as it is. -/
@[simp] theorem value_record
    [Coefficient K]
    (context : Context K)
    (operation : String)
    (matrix : CellMatrix K)
    (value : α) :
    (context.record operation matrix value).value = value := by
  unfold record
  split <;> rfl

/-- Recording leaves the rules as they are. -/
@[simp] theorem rules_record
    [Coefficient K]
    (context : Context K)
    (operation : String)
    (matrix : CellMatrix K)
    (value : α) :
    (context.record operation matrix value).context.rules = context.rules := by
  unfold record
  split <;> rfl

variable [Add K] [Mul K] [Coefficient K]

/-- The polynomial simplified with the rules of the context. -/
def simplify (context : Context K) (p : Polynomial K) : Noted (Polynomial K) :=
  PolyMatrix.simplify context.rules p

/-- The product of two matrices, recorded. -/
def multiply (context : Context K) (left right : CellMatrix K) :
    Attempt (Recorded K (CellMatrix K)) := do
  let product ← left.multiply context.rules right
  pure (context.record "multiply" product product)

/-- The determinant of a matrix, recorded with the matrix. -/
def determinant [Neg K] (context : Context K) (matrix : CellMatrix K) :
    Attempt (Recorded K (Polynomial K)) := do
  let value ← matrix.determinant context.rules
  pure (context.record ("determinant = " ++ value.text) matrix value)

end Context
end PolyMatrix

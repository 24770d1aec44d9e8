import PolyMatrix.CellMatrix.Determinant
import PolyMatrix.Coefficient.Binary64
import PolyMatrix.Polynomial.Division
import PolyMatrix.Polynomial.OfExpression
import PolyMatrix.Proofs.Rule.Soundness

/-!
# Every polynomial that can be built is canonical

A polynomial is built from numbers, scaled monomials and texts by the operations of
the other modules.  Each of them adds one scaled monomial after another to
something canonical, so what it gives is canonical again.  Nothing is asked of the
arithmetic of the coefficients: rounding, infinities and values that are no number
make no difference.
-/

namespace PolyMatrix

variable {K : Type} [Coefficient K]

namespace Polynomial

section Operations

variable [Add K]

theorem Canonical.addScalar
    {p : Polynomial K}
    (canonical : p.Canonical)
    (k : K) : (p.addScalar k).Canonical :=
  canonical.withoutNote.accumulate .unit k

theorem canonical_integrate [Div K] (p : Polynomial K) (symbol : String) :
    (p.integrate symbol).Canonical :=
  Canonical.zero.foldl (fun _ _ canonical => canonical.accumulate _ _) p.terms

variable [Mul K]

theorem canonical_derive (p : Polynomial K) (symbol : String) :
    (p.derive symbol).Canonical := by
  refine Canonical.zero.foldl ?_ p.terms
  intro sum term canonical
  split
  · exact canonical.accumulate _ _
  · exact canonical

theorem canonical_dot (left right : List (Polynomial K)) :
    (dot left right).Canonical :=
  Canonical.zero.foldl (fun _ _ canonical => canonical.accumulateScaled _ _)
    (left.zip right)

/-- Whatever an expression is, its polynomial is canonical. -/
theorem canonical_toPolynomial [Neg K] (expression : Expression) :
    (expression.toPolynomial : Polynomial K).Canonical := by
  induction expression with
  | zero => exact .zero
  | number value => exact canonical_constant _
  | symbol name => exact canonical_ofTerm _ _
  | multiple value name => exact canonical_ofTerm _ _
  | signed negative operand => exact canonical_scale _ _
  | product left right => exact canonical_multiply _ _
  | sum left negative right leftHypothesis =>
      exact leftHypothesis.accumulateScaled _ _

theorem canonical_of_parse
    [Neg K]
    {source : String}
    {p : Polynomial K}
    (read : (parse source).result = .ok p) : p.Canonical := by
  rw [result_parse] at read
  cases parsed : (Expression.parse source).result with
  | error fault =>
      rw [parsed] at read
      cases read
  | ok expression =>
      rw [parsed] at read
      obtain rfl := Except.ok.inj read
      exact canonical_toPolynomial expression

end Operations

/-! ## Division -/

namespace Division

/-- Both results of a division are canonical. -/
structure Canonical (division : Division K) : Prop where
  quotient : division.quotient.Canonical
  remainder : division.remainder.Canonical

variable [Add K] [Neg K] [Mul K] [Div K]

/-- A reduction of the leading monomial keeps both results canonical. -/
theorem Canonical.step
    {divisor : Polynomial K}
    {head : Monomial × K}
    {state next : State K}
    (canonical : state.toDivision.Canonical)
    (reduced : Division.step divisor head state = .reduced next) :
    next.toDivision.Canonical := by
  unfold Division.step at reduced
  split at reduced
  · cases reduced
  · split at reduced
    · split at reduced
      · cases reduced
      · cases reduced
        exact ⟨canonical.quotient.accumulate _ _, canonical.remainder.subtract _⟩
    · cases reduced

/-- However many reductions a division takes, both results stay canonical. -/
theorem Canonical.run
    (divisor : Polynomial K)
    (head : Monomial × K)
    (steps : Nat)
    {state : State K}
    (canonical : state.toDivision.Canonical) :
    (Division.run divisor head steps state).value.Canonical := by
  induction steps generalizing state with
  | zero => exact canonical
  | succ steps inductionHypothesis =>
      unfold Division.run
      split
      · exact canonical
      · exact canonical
      · rename_i next reduced
        exact inductionHypothesis (canonical.step reduced)

end Division

theorem Canonical.divide
    [Add K] [Neg K] [Mul K] [Div K]
    {p : Polynomial K}
    (canonical : p.Canonical)
    (divisor : Polynomial K) : (p.divide divisor).value.Canonical := by
  have start : (Division.start p).toDivision.Canonical :=
    ⟨.zero, canonical.withoutNote⟩
  unfold Polynomial.divide
  split
  · exact start
  · exact start.run divisor _ _

end Polynomial

open PolyMatrix.Polynomial

/-! ## Rules -/

namespace RuleSet

variable [Add K] [Mul K]

/-- What rules make of a polynomial is canonical, whichever of them apply. -/
theorem Canonical.applyTo
    {p : Polynomial K}
    (canonical : p.Canonical)
    (set : RuleSet K) : (set.applyTo p).value.Canonical :=
  set.applyTo_keeps Polynomial.Canonical
    (fun _ _ _ _ substituted _ _ => canonical_of_substitute? substituted) canonical

theorem Canonical.simplify
    {p : Polynomial K}
    (canonical : p.Canonical)
    (rules : Option (RuleSet K)) : (simplify rules p).value.Canonical := by
  cases rules with
  | none => exact canonical
  | some set => exact Canonical.applyTo canonical set

end RuleSet

/-! ## Determinants -/

namespace CellMatrix

theorem canonical_entry
    {matrix : CellMatrix K}
    (canonical : ∀ cell ∈ matrix.cells, ∀ p ∈ cell, p.Canonical)
    (row col : Nat) : ∀ p ∈ matrix.entry row col, p.Canonical := by
  intro p found
  unfold CellMatrix.entry at found
  split at found
  · rw [List.getD_eq_getElem?_getD] at found
    cases stored : matrix.cells[row * matrix.cols + col]? with
    | none =>
        rw [stored] at found
        cases found
    | some cell =>
        rw [stored] at found
        exact canonical cell (List.mem_of_getElem? stored) p found
  · cases found

theorem canonical_value
    {matrix : CellMatrix K}
    (canonical : ∀ cell ∈ matrix.cells, ∀ p ∈ cell, p.Canonical)
    (row col : Nat) : (matrix.value row col).Canonical := by
  unfold CellMatrix.value
  cases found : matrix.entry row col with
  | none => exact .zero
  | some p => exact canonical_entry canonical row col p found

variable [Add K] [Neg K] [Mul K]

theorem canonical_expansion
    (rules : Option (RuleSet K))
    (size : Nat)
    {matrix : CellMatrix K}
    (canonical : ∀ cell ∈ matrix.cells, ∀ p ∈ cell, p.Canonical) :
    (expansion rules size matrix).value.Canonical := by
  match size with
  | 0 => exact canonical_one
  | 1 => exact canonical_value canonical 0 0
  | 2 => exact (canonical_multiply _ _).subtract _
  | size + 3 =>
      -- A partial sum is canonical whatever the minors are.
      rw [expansion, Noted.value_foldlM]
      refine Canonical.zero.foldl ?_ _
      intro sum col canonicalSum
      split
      · exact canonicalSum
      · split
        · exact canonicalSum
        · exact RuleSet.Canonical.simplify (canonicalSum.addScaled _ _) rules

theorem canonical_of_determinant
    {matrix : CellMatrix K}
    {rules : Option (RuleSet K)}
    {p : Polynomial K}
    (canonical : ∀ cell ∈ matrix.cells, ∀ p ∈ cell, p.Canonical)
    (result : (matrix.determinant rules).result = .ok p) : p.Canonical := by
  rw [result_determinant] at result
  split at result
  · obtain rfl := Except.ok.inj result
    exact canonical_expansion rules matrix.rows canonical
  · cases result

end CellMatrix

/-! ## Construction -/

namespace Polynomial

variable [Add K] [Neg K] [Mul K] [Div K]

/-- The polynomials that can be built, each operation from operands that have been
built before. -/
inductive Constructed : Polynomial K → Prop
  | zero : Constructed zero
  | constant (k : K) : Constructed (constant k)
  | ofTerm (monomial : Monomial) (k : K) : Constructed (ofTerm monomial k)
  | ofTerms (terms : List (Monomial × K)) : Constructed (ofTerms terms)
  | parse {source : String} {p : Polynomial K}
      (read : (parse source).result = .ok p) : Constructed p
  | withNote {p : Polynomial K} (note : String) :
      Constructed p → Constructed (p.withNote note)
  | addScaled {p q : Polynomial K} (k : K) :
      Constructed p → Constructed q → Constructed (p.addScaled q k)
  | addScalar {p : Polynomial K} (k : K) : Constructed p → Constructed (p.addScalar k)
  | scale {p : Polynomial K} (k : K) : Constructed p → Constructed (p.scale k)
  | multiplyTerm {p : Polynomial K} (monomial : Monomial) (k : K) :
      Constructed p → Constructed (p.multiplyTerm monomial k)
  | multiply {p q : Polynomial K} :
      Constructed p → Constructed q → Constructed (p.multiply q)
  | quotient {p q : Polynomial K} :
      Constructed p → Constructed q → Constructed (p.divide q).value.quotient
  | remainder {p q : Polynomial K} :
      Constructed p → Constructed q → Constructed (p.divide q).value.remainder
  | substitute {p q replacement : Polynomial K} {pattern : Monomial} :
      Constructed p → Constructed replacement →
        p.substitute? pattern replacement = some q → Constructed q
  | rewrite {p : Polynomial K} {set : RuleSet K} :
      Constructed p → (∀ rule ∈ set.rules, Constructed rule.replacement) →
        Constructed (set.applyTo p).value
  | derive {p : Polynomial K} (symbol : String) :
      Constructed p → Constructed (p.derive symbol)
  | integrate {p : Polynomial K} (symbol : String) :
      Constructed p → Constructed (p.integrate symbol)
  | dotProduct {left right : List (Polynomial K)} {p : Polynomial K} :
      (∀ q ∈ left, Constructed q) → (∀ q ∈ right, Constructed q) →
        dotProduct left right = .ok p → Constructed p
  | determinant {matrix : CellMatrix K} {rules : Option (RuleSet K)}
      {p : Polynomial K} :
      (∀ cell ∈ matrix.cells, ∀ q ∈ cell, Constructed q) →
        (∀ set ∈ rules, ∀ rule ∈ set.rules, Constructed rule.replacement) →
          (matrix.determinant rules).result = .ok p → Constructed p

/-- A polynomial that can be built stores distinct monomials in monomial order, each
with its symbols in ascending order and with a coefficient that is not
negligible. -/
theorem canonical_of_constructed
    {p : Polynomial K}
    (constructed : Constructed p) :
    (p.terms.Pairwise fun earlier later => earlier.1.precedes later.1 = true) ∧
      ∀ term ∈ p.terms,
        term.1.symbols.Pairwise (· ≤ ·) ∧ Coefficient.isNegligible term.2 = false := by
  suffices canonical : p.Canonical from
    ⟨canonical.descending, fun term member =>
      ⟨term.1.sorted, canonical.significant term member⟩⟩
  induction constructed with
  | zero => exact .zero
  | constant k => exact canonical_constant k
  | ofTerm monomial k => exact canonical_ofTerm monomial k
  | ofTerms terms => exact canonical_ofTerms terms
  | parse read => exact canonical_of_parse read
  | withNote note _ canonical => exact canonical.withNote note
  | addScaled k _ _ canonical _ => exact canonical.addScaled _ k
  | addScalar k _ canonical => exact canonical.addScalar k
  | scale k _ _ => exact canonical_scale _ k
  | multiplyTerm monomial k _ _ => exact canonical_multiplyTerm _ monomial k
  | multiply _ _ _ _ => exact canonical_multiply _ _
  | quotient _ _ canonical _ => exact (canonical.divide _).quotient
  | remainder _ _ canonical _ => exact (canonical.divide _).remainder
  | substitute _ _ substituted _ _ => exact canonical_of_substitute? substituted
  | rewrite _ _ canonical _ => exact RuleSet.Canonical.applyTo canonical _
  | derive symbol _ _ => exact canonical_derive _ symbol
  | integrate symbol _ _ => exact canonical_integrate _ symbol
  | dotProduct _ _ product _ _ =>
      obtain ⟨-, rfl⟩ := (dotProduct_eq_ok_iff _ _ _).mp product
      exact canonical_dot _ _
  | determinant _ _ result cells _ =>
      exact CellMatrix.canonical_of_determinant cells result

/-- An infinite multiple of a symbol taken from itself leaves a value that is no
number; dividing by it keeps both results in form. -/
theorem canonical_of_constructed_infinite :
    let infinite : Polynomial Float := .ofTerm (.ofSymbols ["y", "x"]) (1.0 / 0.0)
    let undefined := infinite.addScaled infinite (-1.0)
    let remainder := (infinite.divide undefined).value.remainder
    Constructed remainder ∧
      remainder.terms.Pairwise fun earlier later =>
        earlier.1.precedes later.1 = true := by
  intro infinite undefined remainder
  have constructedInfinite : Constructed infinite := .ofTerm _ _
  have constructed : Constructed remainder :=
    .remainder constructedInfinite (.addScaled _ constructedInfinite constructedInfinite)
  exact ⟨constructed, (canonical_of_constructed constructed).1⟩

end Polynomial
end PolyMatrix

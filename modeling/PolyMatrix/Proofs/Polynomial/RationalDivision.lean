import PolyMatrix.Proofs.Coefficient.Rational
import PolyMatrix.Proofs.Polynomial.Construction
import PolyMatrix.Proofs.Polynomial.Reductions

/-!
# Where a division of rational polynomials stops

A reduction takes away a multiple of the divisor with the same leading term, and as the order
of monomials is multiplicative the remainder then lies behind that term.  But a quotient of
two coefficients that is too small to be kept makes that multiple zero.  The leading term is
then still there, and the division stops at a leading monomial that could be divided.
-/

namespace PolyMatrix
namespace Polynomial

/-! ## Leading terms -/

section Fold

variable {K : Type} [Coefficient K]

/-- What follows the leading term of a canonical polynomial lies behind it. -/
theorem Canonical.precedes_of_leading
    {p : Polynomial K}
    (canonical : p.Canonical)
    {head : Monomial × K} {rest : List (Monomial × K)}
    (stored : p.terms = head :: rest) :
    ∀ term ∈ rest, head.1.precedes term.1 = true := by
  have descending := canonical.descending
  rw [stored] at descending
  exact (List.pairwise_cons.mp descending).1

variable [Add K]

theorem terms_accumulate
    (p : Polynomial K)
    (monomial : Monomial)
    {k : K}
    (significant : Coefficient.isNegligible k = false) :
    (p.accumulate monomial k).terms = insertTerm monomial k p.terms := by
  rw [Polynomial.accumulate, significant]
  rfl

/-- A scaled monomial behind the leading one leaves the leading term alone. -/
theorem leading_accumulate
    {p : Polynomial K}
    {head : Monomial × K}
    (leads : p.leading? = some head)
    {monomial : Monomial}
    (behind : head.1.precedes monomial = true)
    (k : K) : (p.accumulate monomial k).leading? = some head := by
  cases size : Coefficient.isNegligible k with
  | true => rwa [accumulate_of_isNegligible p monomial size]
  | false =>
      have different : monomial ≠ head.1 := (Monomial.ne_of_precedes behind).symm
      obtain ⟨rest, stored⟩ := List.head?_eq_some_iff.mp leads
      rw [leading?, terms_accumulate p monomial size, stored, insertTerm, if_neg different,
        Monomial.precedes_asymm behind, if_neg Bool.false_ne_true, List.head?_cons]

theorem leading_foldl_accumulate
    {α : Type}
    (monomial : α → Monomial)
    (k : α → K)
    {items : List α}
    {p : Polynomial K}
    {head : Monomial × K}
    (leads : p.leading? = some head)
    (behind : ∀ item ∈ items, head.1.precedes (monomial item) = true) :
    (items.foldl (fun sum item => sum.accumulate (monomial item) (k item)) p).leading? =
      some head := by
  induction items generalizing p with
  | nil => exact leads
  | cons item rest inductionHypothesis =>
      refine inductionHypothesis ?_ fun other member =>
        behind other (List.mem_cons_of_mem item member)
      exact leading_accumulate leads (behind item List.mem_cons_self) (k item)

variable [Mul K]

/-- The leading term of a multiple is the multiple of the leading term, as long as both the
factor and that term are worth keeping. -/
theorem Canonical.leading_multiplyTerm
    {p : Polynomial K}
    (canonical : p.Canonical)
    {head : Monomial × K}
    (leads : p.leading? = some head)
    (monomial : Monomial)
    {k : K}
    (significant : Coefficient.isNegligible k = false)
    (kept : Coefficient.isNegligible (head.2 * k) = false) :
    (p.multiplyTerm monomial k).leading? =
      some (head.1.multiply monomial, head.2 * k) := by
  obtain ⟨rest, stored⟩ := List.head?_eq_some_iff.mp leads
  have first : (Polynomial.zero.accumulate (head.1.multiply monomial)
      (head.2 * k)).leading? = some (head.1.multiply monomial, head.2 * k) := by
    rw [leading?, terms_accumulate _ _ kept]
    rfl
  rw [Polynomial.multiplyTerm, significant, if_neg Bool.false_ne_true, stored,
    List.foldl_cons]
  refine leading_foldl_accumulate (fun term : Monomial × K => term.1.multiply monomial)
    (fun term => term.2 * k) first fun term member => ?_
  exact Monomial.precedes_multiply (canonical.precedes_of_leading stored term member) monomial

end Fold

/-- Of two polynomials with one leading term the difference lies behind it. -/
theorem Canonical.precedes_of_subtract
    {p q : Polynomial ℚ}
    (left : p.Canonical)
    (right : q.Canonical)
    {head : Monomial × ℚ}
    (leadsLeft : p.leading? = some head)
    (leadsRight : q.leading? = some head) :
    ∀ term ∈ (p.subtract q).terms, head.1.precedes term.1 = true := by
  obtain ⟨leftRest, leftStored⟩ := List.head?_eq_some_iff.mp leadsLeft
  obtain ⟨rightRest, rightStored⟩ := List.head?_eq_some_iff.mp leadsRight
  have opposite : head.2 * -Coefficient.one = -head.2 := mul_neg_one head.2
  have significant : Coefficient.isNegligible (-head.2) = false := by
    rw [isNegligible_eq_false_iff, abs_neg, ← isNegligible_eq_false_iff]
    exact left.significant head (List.mem_of_mem_head? leadsLeft)
  have taken : (p.withoutNote.accumulate head.1 (-head.2)).terms = leftRest := by
    rw [terms_accumulate _ _ significant, terms_withoutNote, leftStored, insertTerm,
      if_pos rfl, add_neg_cancel]
    exact if_pos rfl
  rw [Polynomial.subtract, Polynomial.addScaled, Polynomial.accumulateScaled, rightStored,
    List.foldl_cons, opposite]
  refine forall_monomial_foldl_accumulate (head.1.precedes · = true) Prod.fst
    (fun term => term.2 * -Coefficient.one) rightRest ?_
    (right.precedes_of_leading rightStored)
  rw [taken]
  exact left.precedes_of_leading leftStored

namespace Division

/-! ## The remainder after a reduction -/

/-- No leading monomial is left that the divisor's leading monomial divides. -/
def Exhausted (head : Monomial × ℚ) (remainder : Polynomial ℚ) : Prop :=
  ∀ term ∈ remainder.leading?, ¬head.1.Divides term.1

/-- The leading monomial can be divided, but the quotient of the coefficients is too small to
be kept. -/
structure TooSmall
    (head : Monomial × ℚ)
    (leading : Monomial)
    (remainder : Polynomial ℚ) : Prop where
  divisible : head.1.Divides leading
  negligible : ∃ k, remainder.leading? = some (leading, k) ∧
    Coefficient.isNegligible (k / head.2) = true

/-- A division under way whose results are canonical, with a remainder behind the leading
monomial that was reduced last, unless that one could not be taken away. -/
structure Lowered (head : Monomial × ℚ) (state : State ℚ) : Prop where
  canonical : state.toDivision.Canonical
  behind : ∀ earlier ∈ state.previous,
    (∀ term ∈ state.remainder.terms, earlier.precedes term.1 = true) ∨
      TooSmall head earlier state.remainder

variable {dividend divisor : Polynomial ℚ} {head : Monomial × ℚ}
  {state next final : State ℚ}

theorem lowered_start
    (canonical : dividend.Canonical)
    (head : Monomial × ℚ) : Lowered head (start dividend) where
  canonical := ⟨.zero, canonical.withoutNote⟩
  behind earlier impossible := by cases impossible

/-- A reduction takes the leading term away, unless the quotient is too small. -/
theorem Lowered.step
    (lowered : Lowered head state)
    (canonicalDivisor : divisor.Canonical)
    (leads : divisor.leading? = some head)
    (reduced : Division.step divisor head state = .reduced next) : Lowered head next := by
  refine ⟨lowered.canonical.step reduced, ?_⟩
  obtain ⟨leading, k, monomial, found, -, divides, rfl⟩ := exists_of_step reduced
  rintro _ ⟨rfl⟩
  have product : head.1.multiply monomial = leading :=
    Monomial.multiply_of_divide? divides
  cases size : Coefficient.isNegligible (k / head.2) with
  | true =>
      -- Nothing is subtracted, so the leading term is the one from before.
      refine .inr ⟨⟨monomial, product⟩, k, ?_, size⟩
      rw [multiplyTerm, if_pos size]
      exact found
  | false =>
      have notZero : head.2 ≠ 0 := ne_zero_of_significant
        (canonicalDivisor.significant head (List.mem_of_mem_head? leads))
      have restored : head.2 * (k / head.2) = k := mul_div_cancel₀ k notZero
      have kept : Coefficient.isNegligible (head.2 * (k / head.2)) = false := by
        rw [restored]
        exact lowered.canonical.remainder.significant _ (List.mem_of_mem_head? found)
      refine .inl (lowered.canonical.remainder.precedes_of_subtract
        (canonical_multiplyTerm divisor monomial _) found ?_)
      rw [canonicalDivisor.leading_multiplyTerm leads monomial size kept, product, restored]

theorem Lowered.reduces
    {leadings : List Monomial}
    (lowered : Lowered head state)
    (canonicalDivisor : divisor.Canonical)
    (leads : divisor.leading? = some head)
    (reduces : Reduces divisor head state leadings final) : Lowered head final := by
  induction reduces with
  | none state => exact lowered
  | more reduced _ _ inductionHypothesis =>
      exact inductionHypothesis (lowered.step canonicalDivisor leads reduced)

/-- A leading monomial that does not descend is one that could not be taken away. -/
theorem Lowered.tooSmall_of_stuck
    (lowered : Lowered head state)
    {leading : Monomial}
    (stuck : Division.step divisor head state = .stuck leading) :
    TooSmall head leading state.remainder := by
  obtain ⟨k, found, notBehind⟩ := exists_of_step_eq_stuck stuck
  cases recorded : state.previous with
  | none =>
      rw [recorded] at notBehind
      cases notBehind
  | some earlier =>
      rw [recorded] at notBehind
      rcases lowered.behind earlier recorded with behind | tooSmall
      · rw [descends, behind _ (List.mem_of_mem_head? found)] at notBehind
        cases notBehind
      · obtain ⟨k', found', -⟩ := tooSmall.negligible
        obtain ⟨rfl, -⟩ := Prod.mk.inj (Option.some.inj (found.symm.trans found'))
        exact tooSmall

theorem exhausted_of_finished
    (finished : Division.step divisor head state = .finished) :
    Exhausted head state.remainder := by
  rintro ⟨leading, k⟩ found divides
  unfold Division.step at finished
  rw [found] at finished
  simp only at finished
  split at finished
  · split at finished
    · rename_i none
      exact (Monomial.divide?_eq_none_iff leading head.1).mp none divides
    · cases finished
  · cases finished

/-- A quotient can only be too small if the divisor's leading coefficient is above one. -/
theorem TooSmall.one_lt
    {leading : Monomial} {remainder : Polynomial ℚ}
    (tooSmall : TooSmall head leading remainder)
    (canonical : remainder.Canonical)
    (notZero : head.2 ≠ 0) : 1 < |head.2| := by
  obtain ⟨k, found, negligible⟩ := tooSmall.negligible
  by_contra atMostOne
  have significant := significant_div
    (canonical.significant _ (List.mem_of_mem_head? found)) notZero (not_lt.mp atMostOne)
  rw [significant] at negligible
  cases negligible

/-- How a division by a polynomial with the leading term `head` comes out. -/
inductive Outcome (head : Monomial × ℚ) (division : Noted (Division ℚ)) : Prop
  /-- It ends where the remainder is zero or its leading monomial is not divisible, without a
  notice. -/
  | exhausted
      (nothingLeft : Exhausted head division.value.remainder)
      (silent : division.notices = [])
  /-- It stops, with a notice, at a divisible leading monomial that stays where it is, since
  the quotient of the coefficients is too small; the divisor's leading coefficient is then
  above one. -/
  | stopped
      (leading : Monomial)
      (tooSmall : TooSmall head leading division.value.remainder)
      (large : 1 < |head.2|)
      (reported : division.notices = [.divisionStopped leading])

end Division

open Division

/-- A division of rational polynomials stops only where nothing divisible is left or where a
quotient of two coefficients is too small to be kept. -/
theorem divide_stops
    {dividend divisor : Polynomial ℚ}
    (canonicalDividend : dividend.Canonical)
    (canonicalDivisor : divisor.Canonical)
    {head : Monomial × ℚ}
    (leads : divisor.leading? = some head) :
    Outcome head (dividend.divide divisor) := by
  obtain ⟨leadings, final, reduces, noneLeft, result⟩ :=
    exists_reduces_divide dividend canonicalDivisor.descending leads
  have lowered := (lowered_start canonicalDividend head).reduces canonicalDivisor leads reduces
  rw [result]
  cases outcome : Division.step divisor head final with
  | finished =>
      rw [run_one_of_finished outcome]
      exact .exhausted (exhausted_of_finished outcome) rfl
  | stuck leading =>
      have tooSmall := lowered.tooSmall_of_stuck outcome
      have notZero : head.2 ≠ 0 := ne_zero_of_significant
        (canonicalDivisor.significant head (List.mem_of_mem_head? leads))
      have stopped : run divisor head 1 final =
          ⟨final.toDivision, [.divisionStopped leading]⟩ := by
        rw [run, outcome]
        rfl
      rw [stopped]
      exact .stopped leading tooSmall
        (tooSmall.one_lt lowered.canonical.remainder notZero) rfl
  | reduced next => exact absurd outcome (noneLeft next)

/-- Several reductions by a divisor whose leading coefficient is above one. -/
theorem divide_stops_thirds :
    let x := Monomial.ofSymbols ["x"]
    let dividend : Polynomial ℚ :=
      .ofTerms [(x.multiply x, 1), (x, 1 / 3), (.ofSymbols ["y"], -5)]
    let divisor : Polynomial ℚ := .ofTerms [(x, 3), (.unit, 1 / 2)]
    dividend.Canonical ∧ divisor.Canonical ∧ divisor.leading? = some (x, 3) ∧
      Outcome (x, 3) (dividend.divide divisor) := by
  intro x dividend divisor
  have leads : divisor.leading? = some (x, 3) := by decide +kernel
  exact ⟨canonical_ofTerms _, canonical_ofTerms _, leads,
    divide_stops (canonical_ofTerms _) (canonical_ofTerms _) leads⟩

/-- Divided by more than ten billion times itself, a symbol is left as it is, though the one
monomial divides the other. -/
theorem divide_stops_divisible :
    let x := Monomial.ofSymbols ["x"]
    let dividend : Polynomial ℚ := .ofTerm x 1
    let divisor : Polynomial ℚ := .ofTerm x 17179869184
    dividend.terms = [(x, 1)] ∧ divisor.terms = [(x, 17179869184)] ∧
      (dividend.divide divisor).value.quotient.terms = [] ∧
      (dividend.divide divisor).value.remainder.terms = [(x, 1)] ∧
      (dividend.divide divisor).notices = [.divisionStopped x] ∧
      ¬Exhausted (x, 17179869184) (dividend.divide divisor).value.remainder := by
  intro x dividend divisor
  have remains : (dividend.divide divisor).value.remainder.terms = [(x, 1)] := by
    decide +kernel
  refine ⟨by decide +kernel, by decide +kernel, by decide +kernel, remains,
    by decide +kernel, ?_⟩
  intro exhausted
  have leads : (dividend.divide divisor).value.remainder.leading? = some (x, 1) :=
    congrArg List.head? remains
  have divides : x.divide? x = some .unit := by decide +kernel
  exact exhausted _ leads ⟨.unit, Monomial.multiply_of_divide? divides⟩

end Polynomial
end PolyMatrix

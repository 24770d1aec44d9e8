import PolyMatrix.Proofs.Polynomial.Construction
import PolyMatrix.Proofs.Polynomial.Leading
import PolyMatrix.Proofs.Polynomial.Reductions
import PolyMatrix.Proofs.Polynomial.RingLaws

/-!
# Division without a rest of the coefficients

As long as the divisor's leading coefficient divides the leading coefficients of the
remainder, a division of polynomials with integer coefficients keeps a balance: divisor times
quotient plus remainder denotes the dividend, and the remainder lies behind what has been
reduced.  So it never stops at a leading monomial that fails to descend, and its results make
up the dividend.  A leading coefficient of one or minus one divides every other, and the
remainders of an exact multiple are multiples themselves.
-/

namespace PolyMatrix
namespace Polynomial
namespace Division

/-- A division under way that has lost nothing. -/
structure Balanced
    (dividend divisor : Polynomial ℤ)
    (head : Monomial × ℤ)
    (state : State ℤ) : Prop where
  canonical : state.toDivision.Canonical
  noNotes : state.quotient.note = none ∧ state.remainder.note = none
  /-- Divisor times quotient plus remainder is the dividend. -/
  total : divisor.meaning * state.quotient.meaning + state.remainder.meaning =
    dividend.meaning
  /-- The remainder lies behind the leading monomial that was reduced last. -/
  behind : ∀ earlier ∈ state.previous, ∀ term ∈ state.remainder.terms,
    earlier.precedes term.1 = true
  remainder_dominated : ∀ term ∈ state.remainder.terms, dividend.Dominates term.1
  quotient_dominated : ∀ term ∈ state.quotient.terms,
    dividend.Dominates (term.1.multiply head.1)

variable {dividend divisor : Polynomial ℤ} {head : Monomial × ℤ} {state next final : State ℤ}

theorem balanced_start
    (canonical : dividend.Canonical)
    (divisor : Polynomial ℤ)
    (head : Monomial × ℤ) : Balanced dividend divisor head (start dividend) where
  canonical := ⟨.zero, canonical.withoutNote⟩
  noNotes := ⟨rfl, rfl⟩
  total := by
    change divisor.meaning * 0 + dividend.meaning = dividend.meaning
    rw [mul_zero, zero_add]
  behind earlier impossible := by cases impossible
  remainder_dominated _ member := canonical.dominates_of_mem member
  quotient_dominated term member := absurd member List.not_mem_nil

/-- A reduction without a rest of the coefficients keeps the balance. -/
theorem Balanced.step
    (balanced : Balanced dividend divisor head state)
    (leadsDivisor : Leads divisor.meaning head.1 head.2)
    (exact : ∀ leading k, state.remainder.leading? = some (leading, k) → head.2 ∣ k)
    (reduced : Division.step divisor head state = .reduced next) :
    Balanced dividend divisor head next := by
  have canonical := balanced.canonical.step reduced
  obtain ⟨leading, k, monomial, found, -, divides, rfl⟩ := exists_of_step reduced
  have product : head.1.multiply monomial = leading :=
    Monomial.multiply_of_divide? divides
  have restored : head.2 * (k / head.2) = k := Int.mul_ediv_cancel' (exact leading k found)
  have leadsRemainder : Leads state.remainder.meaning leading k :=
    balanced.canonical.remainder.leads found
  have leadsMultiple :
      Leads (divisor.multiplyTerm monomial (k / head.2)).meaning leading k := by
    have notZero : k / head.2 ≠ 0 := by
      intro vanishes
      rw [vanishes, mul_zero] at restored
      exact leadsRemainder.ne_zero restored.symm
    have leadsProduct := leadsDivisor.mul (leads_scaled monomial notZero)
    rwa [product, restored, ← meaning_multiplyTerm] at leadsProduct
  obtain ⟨first, leadsDividend, below⟩ :=
    balanced.remainder_dominated _ (List.mem_of_mem_head? found)
  have behind : ∀ term ∈ (state.remainder.subtract
      (divisor.multiplyTerm monomial (k / head.2))).terms,
      leading.precedes term.1 = true := by
    intro term member
    apply leadsRemainder.precedes_of_sub leadsMultiple
    rw [← meaning_subtract]
    exact canonical.remainder.coeff_ne_zero_of_mem member
  refine ⟨canonical, ?_, ?_, ?_, ?_, ?_⟩
  · exact ⟨(note_accumulate _ _ _).trans balanced.noNotes.1, note_subtract _ _⟩
  · simp only [meaning_accumulate, meaning_subtract, meaning_multiplyTerm]
    rw [← balanced.total]
    ring
  · rintro earlier ⟨rfl⟩
    exact behind
  · intro term member
    exact ⟨first, leadsDividend, Monomial.AtMost.trans (.inr (behind term member)) below⟩
  · apply forall_monomial_accumulate
      (fun monomial => dividend.Dominates (monomial.multiply head.1))
      balanced.quotient_dominated
    refine ⟨first, leadsDividend, ?_⟩
    rwa [Monomial.multiply_comm, product]

theorem Balanced.reduces
    {leadings : List Monomial}
    (balanced : Balanced dividend divisor head state)
    (leadsDivisor : Leads divisor.meaning head.1 head.2)
    (exact : ∀ state : State ℤ, Balanced dividend divisor head state → ∀ leading k,
      state.remainder.leading? = some (leading, k) → head.2 ∣ k)
    (reduces : Reduces divisor head state leadings final) :
    Balanced dividend divisor head final := by
  induction reduces with
  | none state => exact balanced
  | more reduced _ _ inductionHypothesis =>
      exact inductionHypothesis (balanced.step leadsDivisor (exact _ balanced) reduced)

theorem Balanced.descends
    (balanced : Balanced dividend divisor head state)
    {leading : Monomial} {k : ℤ}
    (found : state.remainder.leading? = some (leading, k)) :
    descends state.previous leading = true := by
  cases earlier : state.previous with
  | none => rfl
  | some previous => exact balanced.behind previous earlier _ (List.mem_of_mem_head? found)

/-- Where no reduction is left a balanced division is finished, and not stuck. -/
theorem Balanced.finished
    (balanced : Balanced dividend divisor head state)
    (ends : ∀ next, Division.step divisor head state ≠ .reduced next) :
    Division.step divisor head state = .finished := by
  cases outcome : Division.step divisor head state with
  | finished => rfl
  | stuck leading =>
      obtain ⟨k, found, notBehind⟩ := exists_of_step_eq_stuck outcome
      rw [balanced.descends found] at notBehind
      cases notBehind
  | reduced next => exact absurd outcome (ends next)

/-- The course of a division that ends by itself: it meets these leading monomials, one after
another, reduces them, up to one that is not divisible, and has these results. -/
def Course
    {K : Type} [Add K] [Neg K] [Mul K] [Div K] [Coefficient K]
    (dividend divisor : Polynomial K)
    (head : Monomial × K)
    (met : List Monomial)
    (division : Division K) : Prop :=
  ∃ leadings final, Reduces divisor head (start dividend) leadings final ∧
    Division.step divisor head final = .finished ∧ final.toDivision = division ∧
    met = leadings ++ (final.remainder.leading?.map Prod.fst).toList

/-- A division that never has a rest of the coefficients is balanced in the end. -/
theorem exists_balanced_course
    (canonicalDividend : dividend.Canonical)
    (canonicalDivisor : divisor.Canonical)
    (leads : divisor.leading? = some head)
    (exact : ∀ state : State ℤ, Balanced dividend divisor head state → ∀ leading k,
      state.remainder.leading? = some (leading, k) → head.2 ∣ k) :
    ∃ met final, Balanced dividend divisor head final ∧
      dividend.divide divisor = pure final.toDivision ∧
      Division.step divisor head final = .finished ∧
      Course dividend divisor head met final.toDivision ∧
      met.Pairwise fun earlier later => earlier.precedes later = true := by
  obtain ⟨leadings, final, reduces, ends, division⟩ :=
    exists_reduces_divide dividend canonicalDivisor.descending leads
  have balanced := (balanced_start canonicalDividend divisor head).reduces
    (canonicalDivisor.leads leads) exact reduces
  have finished := balanced.finished ends
  refine ⟨_, final, balanced, division.trans (run_one_of_finished finished), finished,
    ⟨leadings, final, reduces, finished, rfl, rfl⟩, ?_⟩
  cases found : final.remainder.leading? with
  | none => simpa using reduces.descending.1
  | some term =>
      have behind := (reduces.precedes_of_descends (balanced.descends found)).2
      rw [List.pairwise_append]
      exact ⟨reduces.descending.1, List.pairwise_singleton _ _, by simpa using behind⟩

end Division

open Division

/-! ## Unit leading coefficients -/

/-- Results that denote the dividend with the divisor store it. -/
theorem add_multiply_of_meaning
    {dividend divisor quotient remainder : Polynomial ℤ}
    (canonical : dividend.Canonical)
    (total : divisor.meaning * quotient.meaning + remainder.meaning = dividend.meaning) :
    (divisor.multiply quotient).add remainder = dividend.withoutNote := by
  apply ((canonical_multiply _ _).add _).eq_of_meaning_eq canonical.withoutNote
  · exact note_add _ _
  · rw [meaning_add, meaning_multiply, total, meaning_withoutNote]

/-- Division by zero or by a polynomial with the leading coefficient one or minus one splits
the dividend without loss; the leading monomials that it meets descend strictly, and no
product of a quotient's monomial with the divisor's leading one is above the dividend's. -/
theorem divide_reconstructs
    {dividend divisor : Polynomial ℤ}
    (canonicalDividend : dividend.Canonical)
    (canonicalDivisor : divisor.Canonical)
    (unitary : ∀ head ∈ divisor.leading?, head.2 = 1 ∨ head.2 = -1) :
    ∃ division, dividend.divide divisor = pure division ∧
      (divisor.multiply division.quotient).add division.remainder =
        dividend.withoutNote ∧
      ∀ head ∈ divisor.leading?,
        (∃ met, Course dividend divisor head met division ∧
          met.Pairwise fun earlier later => earlier.precedes later = true) ∧
        ∀ term ∈ division.quotient.terms,
          dividend.Dominates (term.1.multiply head.1) := by
  cases leads : divisor.leading? with
  | none =>
      refine ⟨(start dividend).toDivision, by rw [divide, leads], ?_, ?_⟩
      · exact add_multiply_of_meaning canonicalDividend
          (balanced_start canonicalDividend divisor (.unit, 1)).total
      · intro head impossible
        cases impossible
  | some head =>
      have unit : IsUnit head.2 := Int.isUnit_iff.mpr (unitary head leads)
      obtain ⟨met, final, balanced, division, -, course, descending⟩ :=
        exists_balanced_course canonicalDividend canonicalDivisor leads
          fun _ _ _ k _ => unit.dvd
      refine ⟨final.toDivision, division,
        add_multiply_of_meaning canonicalDividend balanced.total, ?_⟩
      rintro head ⟨rfl⟩
      exact ⟨⟨met, course, descending⟩, balanced.quotient_dominated⟩

/-- A divisor in two symbols with the leading coefficient minus one: the division ends in
front of `y*y`, which `x*y` does not divide. -/
theorem divide_reconstructs_greedy :
    let dividend : Polynomial ℤ := ofTerms [(.ofSymbols ["x", "x", "y"], 1),
      (.ofSymbols ["x", "y", "y"], 1), (.ofSymbols ["y", "y"], 1)]
    let divisor : Polynomial ℤ := ofTerms [(.ofSymbols ["x", "y"], -1), (.unit, 1)]
    dividend.Canonical ∧ divisor.Canonical ∧
      (∀ head ∈ divisor.leading?, head.2 = 1 ∨ head.2 = -1) ∧
      (∃ division, dividend.divide divisor = pure division ∧
        (divisor.multiply division.quotient).add division.remainder =
          dividend.withoutNote) ∧
      (dividend.divide divisor).value.quotient.terms =
        [(.ofSymbols ["y"], -1), (.ofSymbols ["x"], -1)] ∧
      (dividend.divide divisor).value.remainder.terms =
        [(.ofSymbols ["y", "y"], 1), (.ofSymbols ["y"], 1), (.ofSymbols ["x"], 1)] := by
  intro dividend divisor
  have canonicalDividend : dividend.Canonical := canonical_ofTerms _
  have canonicalDivisor : divisor.Canonical := canonical_ofTerms _
  have leads : divisor.leading? = some (.ofSymbols ["x", "y"], -1) := by decide +kernel
  have unitary : ∀ head ∈ divisor.leading?, head.2 = 1 ∨ head.2 = -1 := by
    rw [leads]
    rintro head ⟨rfl⟩
    exact .inr rfl
  obtain ⟨division, result, stored, -⟩ :=
    divide_reconstructs canonicalDividend canonicalDivisor unitary
  exact ⟨canonicalDividend, canonicalDivisor, unitary, ⟨division, result, stored⟩,
    by decide +kernel, by decide +kernel⟩

/-! ## Exact multiples -/

namespace Division

variable {p q : Polynomial ℤ} {head : Monomial × ℤ} {state : State ℤ}

/-- What is left of a multiple of the divisor is the multiple by what the quotient lacks. -/
theorem Balanced.remainder_of_multiple
    (balanced : Balanced (p.multiply q) q head state) :
    state.remainder.meaning = q.meaning * (p.subtract state.quotient).meaning := by
  have total := balanced.total
  rw [meaning_multiply] at total
  rw [meaning_subtract, mul_sub, mul_comm q.meaning p.meaning, ← total, add_sub_cancel_left]

/-- Either the quotient is complete and nothing is left, or the divisor's leading term divides
the leading term of what is left. -/
theorem Balanced.complete_or_leads
    (canonical : p.Canonical)
    (leadsDivisor : Leads q.meaning head.1 head.2)
    (balanced : Balanced (p.multiply q) q head state) :
    state.remainder.meaning = 0 ∧ state.quotient.meaning = p.meaning ∨
      ∃ monomial j,
        Leads state.remainder.meaning (head.1.multiply monomial) (head.2 * j) := by
  rw [balanced.remainder_of_multiple]
  cases lacking : (p.subtract state.quotient).leading? with
  | none =>
      have nothing := meaning_of_no_leading lacking
      refine .inl ⟨by rw [nothing, mul_zero], ?_⟩
      rw [meaning_subtract, sub_eq_zero] at nothing
      exact nothing.symm
  | some term =>
      exact .inr ⟨term.1, term.2, leadsDivisor.mul ((canonical.subtract _).leads lacking)⟩

theorem Balanced.leading_of_multiple
    (canonical : p.Canonical)
    (leadsDivisor : Leads q.meaning head.1 head.2)
    (balanced : Balanced (p.multiply q) q head state)
    {leading : Monomial} {k : ℤ}
    (found : state.remainder.leading? = some (leading, k)) :
    ∃ monomial j, leading = head.1.multiply monomial ∧ k = head.2 * j := by
  have leads := balanced.canonical.remainder.leads found
  rcases balanced.complete_or_leads canonical leadsDivisor with
    ⟨nothing, -⟩ | ⟨monomial, j, product⟩
  · exact absurd nothing leads.ne
  · exact ⟨monomial, j, leads.unique product⟩

end Division

/-- A multiple is divided exactly: the quotient stores the other factor, and nothing is
left. -/
theorem divide_multiply
    {p q : Polynomial ℤ}
    (canonicalP : p.Canonical)
    (canonicalQ : q.Canonical)
    (notZero : q.isZero = false) :
    (p.multiply q).divide q = pure ⟨p.withoutNote, zero⟩ := by
  obtain ⟨head, leads⟩ := exists_leading fun noTerms : q.terms = [] => by
    rw [isZero, noTerms] at notZero
    cases notZero
  have leadsDivisor := canonicalQ.leads leads
  obtain ⟨-, final, balanced, division, finished, -, -⟩ :=
    exists_balanced_course (canonical_multiply p q) canonicalQ leads
      fun state balanced leading k found => by
        obtain ⟨-, j, -, rfl⟩ := balanced.leading_of_multiple canonicalP leadsDivisor found
        exact Dvd.intro j rfl
  have noRemainder : final.remainder.leading? = none := by
    cases found : final.remainder.leading? with
    | none => rfl
    | some term =>
        -- The leading monomial could be reduced once more.
        obtain ⟨monomial, -, product, -⟩ :=
          balanced.leading_of_multiple canonicalP leadsDivisor found
        obtain ⟨next, reduced⟩ : ∃ next, step q head final = .reduced next :=
          exists_step_of_divides found (balanced.descends found)
            (product ▸ Monomial.divide?_multiply head.1 monomial)
        rw [finished] at reduced
        cases reduced
  have complete : final.quotient.meaning = p.meaning := by
    rcases balanced.complete_or_leads canonicalP leadsDivisor with
      ⟨-, complete⟩ | ⟨monomial, j, leadsRemainder⟩
    · exact complete
    · exact absurd (meaning_of_no_leading noRemainder) leadsRemainder.ne
  have remainder : final.remainder = zero :=
    eq_of_terms_eq (List.head?_eq_none_iff.mp noRemainder) balanced.noNotes.2
  have quotient : final.quotient = p.withoutNote :=
    balanced.canonical.quotient.eq_of_meaning_eq canonicalP.withoutNote
      balanced.noNotes.1 complete
  rw [division, ← quotient, ← remainder]

/-- A product that cancels in the middle, divided by a factor whose leading coefficient is
three. -/
theorem divide_multiply_conjugates :
    let p : Polynomial ℤ := ofTerms [(.ofSymbols ["x"], 2), (.ofSymbols ["y"], 3)]
    let q : Polynomial ℤ := ofTerms [(.ofSymbols ["x"], -2), (.ofSymbols ["y"], 3)]
    p.Canonical ∧ q.Canonical ∧ q.isZero = false ∧
      (p.multiply q).divide q = pure ⟨p.withoutNote, zero⟩ := by
  intro p q
  have notZero : q.isZero = false := by decide +kernel
  exact ⟨canonical_ofTerms _, canonical_ofTerms _, notZero,
    divide_multiply (canonical_ofTerms _) (canonical_ofTerms _) notZero⟩

end Polynomial
end PolyMatrix

import PolyMatrix.Polynomial.Calculus
import PolyMatrix.Proofs.Coefficient.Rational
import PolyMatrix.Proofs.Monomial.Exponents
import PolyMatrix.Proofs.Polynomial.Construction
import PolyMatrix.Proofs.Polynomial.InOrder

/-!
# Deriving and integrating

One symbol more in every monomial keeps monomial order, and so does one less in those that
have it.  So the summands of an antiderivative or a derivative stand in order and do not meet,
and with exact division the one operation undoes the other summand by summand.  What is lost
are the summands without the symbol when a polynomial is derived, and those that division
makes too small when it is integrated.
-/

namespace PolyMatrix
namespace Polynomial

section Summands

variable {K : Type} [Coefficient K]

/-- What becomes of a summand in an antiderivative. -/
def raised [Div K] (symbol : String) (term : Monomial × K) : Monomial × K :=
  (term.1.insert symbol,
    term.2 / Coefficient.ofNat ((term.1.insert symbol).count symbol))

/-- What becomes of a summand in a derivative, if it has the symbol. -/
def lowered? [Mul K] (symbol : String) (term : Monomial × K) : Option (Monomial × K) :=
  (term.1.erase? symbol).map fun rest =>
    (rest, term.2 * Coefficient.ofNat (term.1.count symbol))

theorem lowered?_eq_some_iff [Mul K] (symbol : String) (term low : Monomial × K) :
    lowered? symbol term = some low ↔ low.1.insert symbol = term.1 ∧
      term.2 * Coefficient.ofNat (term.1.count symbol) = low.2 := by
  rw [lowered?, Option.map_eq_some_iff]
  constructor
  · rintro ⟨rest, erased, rfl⟩
    exact ⟨(Monomial.erase?_eq_some_iff_insert _ _ _).mp erased, rfl⟩
  · rintro ⟨inserted, scaled⟩
    exact ⟨low.1, (Monomial.erase?_eq_some_iff_insert _ _ _).mpr inserted,
      Prod.ext rfl scaled⟩

variable [Add K]

theorem integrate_eq_ofTerms [Div K] (p : Polynomial K) (symbol : String) :
    p.integrate symbol = ofTerms (p.terms.map (raised symbol)) := by
  rw [ofTerms, List.foldl_map]
  rfl

theorem derive_eq_ofTerms [Mul K] (p : Polynomial K) (symbol : String) :
    p.derive symbol = ofTerms (p.terms.filterMap (lowered? symbol)) := by
  rw [ofTerms, List.foldl_filterMap, derive]
  congr 1
  funext sum term
  rw [lowered?]
  cases term.1.erase? symbol with
  | none => rfl
  | some rest => rfl

/-- The antiderivative of a canonical polynomial has its raised summands in their order. -/
theorem Canonical.integrate_eq
    [Div K]
    {p : Polynomial K}
    (canonical : p.Canonical)
    (symbol : String) :
    p.integrate symbol = ⟨keptTerms (p.terms.map (raised symbol)), none⟩ := by
  rw [integrate_eq_ofTerms]
  refine ofTerms_of_descending (List.pairwise_map.mpr (canonical.descending.imp ?_))
  intro earlier later before
  exact Monomial.precedes_insert before symbol

/-- The derivative of a canonical polynomial has its lowered summands in their order. -/
theorem Canonical.derive_eq
    [Mul K]
    {p : Polynomial K}
    (canonical : p.Canonical)
    (symbol : String) :
    p.derive symbol = ⟨keptTerms (p.terms.filterMap (lowered? symbol)), none⟩ := by
  rw [derive_eq_ofTerms]
  refine ofTerms_of_descending (canonical.descending.filterMap _ ?_)
  intro earlier later before low lowers low' lowers'
  rw [lowered?_eq_some_iff] at lowers lowers'
  rw [← lowers.1, ← lowers'.1] at before
  exact Monomial.precedes_of_precedes_insert before

end Summands

/-! ## One summand -/

section Rational

/-- Raising divides by one more than how often the symbol occurs. -/
theorem raised_snd (symbol : String) (term : Monomial × ℚ) :
    (raised symbol term).2 = term.2 / (term.1.count symbol + 1) := by
  rw [raised, Monomial.count_insert, if_pos rfl]
  change term.2 / ((term.1.count symbol + 1 : ℕ) : ℚ) = _
  rw [Nat.cast_succ]

/-- A symbol that was put in occurs. -/
theorem one_le_count_insert (monomial : Monomial) (symbol : String) :
    (1 : ℚ) ≤ (monomial.insert symbol).count symbol := by
  rw [Monomial.count_insert, if_pos rfl]
  exact Nat.one_le_cast.mpr (Nat.succ_pos _)

theorem lowered?_raised (symbol : String) (term : Monomial × ℚ) :
    lowered? symbol (raised symbol term) = some term := by
  have notZero : ((term.1.insert symbol).count symbol : ℚ) ≠ 0 :=
    (zero_lt_one.trans_le (one_le_count_insert term.1 symbol)).ne'
  rw [lowered?_eq_some_iff]
  exact ⟨rfl, div_mul_cancel₀ term.2 notZero⟩

theorem raised_of_lowered?
    {symbol : String}
    {term low : Monomial × ℚ}
    (lowers : lowered? symbol term = some low) : raised symbol low = term := by
  rw [lowered?_eq_some_iff] at lowers
  obtain ⟨inserted, scaled⟩ := lowers
  have notZero : (term.1.count symbol : ℚ) ≠ 0 := by
    rw [← inserted]
    exact (zero_lt_one.trans_le (one_le_count_insert low.1 symbol)).ne'
  rw [raised, inserted, ← scaled]
  exact Prod.ext rfl (mul_div_cancel_right₀ term.2 notZero)

theorem isSome_lowered?_iff (symbol : String) (term : Monomial × ℚ) :
    (lowered? symbol term).isSome = true ↔ symbol ∈ term.1.symbols := by
  rw [lowered?, Option.isSome_map, Monomial.erase?]
  split
  · simpa
  · simpa

/-- A summand is worth keeping in an antiderivative if division by the new exponent leaves
enough of its coefficient. -/
theorem isNegligible_raised_eq_false_iff (symbol : String) (term : Monomial × ℚ) :
    Coefficient.isNegligible (raised symbol term).2 = false ↔
      (term.1.count symbol + 1) * rationalTolerance ≤ |term.2| := by
  have positive : (0 : ℚ) < term.1.count symbol + 1 := Nat.cast_add_one_pos _
  rw [isNegligible_eq_false_iff, raised_snd, abs_div, abs_of_pos positive,
    le_div_iff₀ positive, mul_comm]

/-- Deriving makes no coefficient smaller. -/
theorem significant_of_lowered?
    {symbol : String}
    {term low : Monomial × ℚ}
    (significant : Coefficient.isNegligible term.2 = false)
    (lowers : lowered? symbol term = some low) :
    Coefficient.isNegligible low.2 = false := by
  rw [lowered?_eq_some_iff] at lowers
  obtain ⟨inserted, scaled⟩ := lowers
  have atLeastOne : (1 : ℚ) ≤ term.1.count symbol := by
    rw [← inserted]
    exact one_le_count_insert low.1 symbol
  rw [isNegligible_eq_false_iff] at significant ⊢
  rw [← scaled]
  change _ ≤ |term.2 * (term.1.count symbol : ℚ)|
  rw [abs_mul, abs_of_pos (zero_lt_one.trans_le atLeastOne)]
  exact significant.trans (le_mul_of_one_le_right (abs_nonneg _) atLeastOne)

/-! ## All summands -/

theorem derive_integrate
    {p : Polynomial ℚ}
    (canonical : p.Canonical)
    (symbol : String) :
    (p.integrate symbol).derive symbol =
      { terms := p.terms.filter fun term =>
          (term.1.count symbol + 1) * rationalTolerance ≤ |term.2| } := by
  have kept : keptTerms (p.terms.map (raised symbol)) =
      (p.terms.filter fun term =>
        (term.1.count symbol + 1) * rationalTolerance ≤ |term.2|).map (raised symbol) := by
    rw [keptTerms, List.filter_map]
    congr 2
    funext term
    rw [Function.comp, Bool.eq_iff_iff, Bool.not_eq_true', decide_eq_true_eq]
    exact isNegligible_raised_eq_false_iff symbol term
  rw [(canonical_integrate p symbol).derive_eq, canonical.integrate_eq]
  dsimp only
  rw [kept, List.filterMap_map]
  have restored : lowered? symbol ∘ raised symbol = (some : Monomial × ℚ → _) :=
    funext fun term => lowered?_raised symbol term
  rw [restored, List.filterMap_some, keptTerms_of_significant]
  intro term member
  exact canonical.significant term (List.mem_of_mem_filter member)

theorem integrate_derive
    {p : Polynomial ℚ}
    (canonical : p.Canonical)
    (symbol : String) :
    (p.derive symbol).integrate symbol =
      { terms := p.terms.filter fun term => symbol ∈ term.1.symbols } := by
  have kept : keptTerms (p.terms.filterMap (lowered? symbol)) =
      p.terms.filterMap (lowered? symbol) := by
    apply keptTerms_of_significant
    intro low member
    obtain ⟨term, stored, lowers⟩ := List.mem_filterMap.mp member
    exact significant_of_lowered? (canonical.significant term stored) lowers
  have restored : (p.terms.filterMap (lowered? symbol)).map (raised symbol) =
      p.terms.filter fun term => symbol ∈ term.1.symbols := by
    rw [List.map_filterMap, ← List.filterMap_eq_filter]
    congr 1
    funext term
    cases lowers : lowered? symbol term with
    | none =>
        have absent : ¬symbol ∈ term.1.symbols := by
          rw [← isSome_lowered?_iff, lowers]
          simp
        simp [Option.guard, absent]
    | some low =>
        have present : symbol ∈ term.1.symbols := by
          rw [← isSome_lowered?_iff, lowers]
          rfl
        simp [Option.guard, present, raised_of_lowered? lowers]
  rw [(canonical_derive p symbol).integrate_eq, canonical.derive_eq]
  dsimp only
  rw [kept, restored, keptTerms_of_significant]
  intro term member
  exact canonical.significant term (List.mem_of_mem_filter member)

end Rational

/-- What an antiderivative and a derivative in one symbol leave of a polynomial, in either
order. -/
structure Restores (p : Polynomial ℚ) (symbol : String) : Prop where
  /-- The derivative of the antiderivative stores the summands that are worth keeping when
  they are divided by one more than how often they have the symbol. -/
  derive_integrate : (p.integrate symbol).derive symbol =
    { terms := p.terms.filter fun term =>
        (term.1.count symbol + 1) * rationalTolerance ≤ |term.2| }
  /-- If no coefficient is that small, nothing is lost. -/
  derive_integrate_of_forall :
    (∀ term ∈ p.terms, (term.1.count symbol + 1) * rationalTolerance ≤ |term.2|) →
      (p.integrate symbol).derive symbol = p.withoutNote
  /-- The antiderivative of the derivative stores the summands that have the symbol. -/
  integrate_derive : (p.derive symbol).integrate symbol =
    { terms := p.terms.filter fun term => symbol ∈ term.1.symbols }

/-- Deriving and integrating undo each other, with unchanged coefficients, on all summands
but those that the first of the two loses. -/
theorem restores_of_canonical
    {p : Polynomial ℚ}
    (canonical : p.Canonical)
    (symbol : String) : Restores p symbol where
  derive_integrate := derive_integrate canonical symbol
  derive_integrate_of_forall := by
    intro large
    rw [derive_integrate canonical symbol,
      List.filter_eq_self.mpr fun term member => decide_eq_true (large term member)]
    rfl
  integrate_derive := integrate_derive canonical symbol

/-- A coefficient twice the tolerance survives division by two but not by three. -/
theorem restores_of_canonical_small :
    let small : ℚ := 2 * rationalTolerance
    let square := Monomial.ofSymbols ["x", "x"]
    let mixed := Monomial.ofSymbols ["x", "y"]
    let p : Polynomial ℚ := .ofTerms [(square, small), (mixed, small), (.unit, 3)]
    p.Canonical ∧ Restores p "x" ∧
      ((p.integrate "x").derive "x").terms = [(mixed, small), (.unit, 3)] ∧
      ((p.derive "x").integrate "x").terms = [(mixed, small), (square, small)] := by
  intro small square mixed p
  have canonical : p.Canonical := canonical_ofTerms _
  exact ⟨canonical, restores_of_canonical canonical "x", by decide +kernel,
    by decide +kernel⟩

end Polynomial
end PolyMatrix

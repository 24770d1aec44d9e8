import PolyMatrix.Proofs.CellMatrix.Positions
import PolyMatrix.Proofs.Polynomial.Dropping
import PolyMatrix.Proofs.Polynomial.Unital

/-!
# Adding a multiple, at once or in two steps

A multiple can be added summand by summand, or built first and then added.  On the way the
same products are dropped, but a multiple by a negligible number is built as zero: a number
stands for a constant polynomial there, and that of a negligible number is zero.  Added
summand by summand the multiple is kept wherever a product is worth keeping.  So the two ways
agree unless the number is negligible while one of its products is not.
-/

namespace PolyMatrix

namespace Polynomial

section Multiples

variable {K : Type} [Add K] [Mul K] [Coefficient K]

/-- The stored summands times a number. -/
def scaledTerms (q : Polynomial K) (k : K) : List (Monomial × K) :=
  q.terms.map fun term => (term.1, term.2 * k)

omit [Add K] in
theorem Canonical.descending_scaledTerms
    {q : Polynomial K}
    (canonical : q.Canonical)
    (k : K) :
    (q.scaledTerms k).Pairwise fun earlier later => earlier.1.precedes later.1 = true :=
  List.pairwise_map.mpr canonical.descending

theorem accumulateScaled_eq_foldl (p q : Polynomial K) (k : K) :
    p.accumulateScaled q k =
      (q.scaledTerms k).foldl (fun sum term => sum.accumulate term.1 term.2) p := by
  rw [scaledTerms, List.foldl_map]
  rfl

/-- A multiple has the scaled summands that are worth keeping. -/
theorem Canonical.scale_of_significant
    {q : Polynomial K}
    (canonical : q.Canonical)
    {k : K}
    (significant : Coefficient.isNegligible k = false) :
    q.scale k = ⟨keptTerms (q.scaledTerms k), none⟩ := by
  rw [← ofTerms_of_descending (canonical.descending_scaledTerms k), ofTerms, scaledTerms,
    List.foldl_map, scale, multiplyTerm, significant, if_neg Bool.false_ne_true]
  rfl

theorem scale_of_isNegligible
    (q : Polynomial K)
    {k : K}
    (negligible : Coefficient.isNegligible k = true) : q.scale k = zero := by
  rw [scale, multiplyTerm, if_pos negligible]

omit [Mul K] in
theorem constant_of_isNegligible
    {k : K}
    (negligible : Coefficient.isNegligible k = true) : (constant k : Polynomial K) = zero :=
  accumulate_of_isNegligible zero .unit negligible

/-- A multiple is a product with a constant. -/
theorem scale_eq_multiply_constant (q : Polynomial K) (k : K) :
    q.scale k = q.multiply (constant k) := by
  cases size : Coefficient.isNegligible k with
  | true =>
      rw [scale_of_isNegligible q size, constant_of_isNegligible size]
      exact (List.foldl_fixed q.terms).symm
  | false =>
      rw [constant, ofTerm_of_significant _ size, scale, multiplyTerm, size,
        if_neg Bool.false_ne_true]
      rfl

/-- By a number that is worth keeping the multiple may as well be built first. -/
theorem Canonical.accumulateScaled_scale
    [Coefficient.Unital K]
    {q : Polynomial K}
    (canonical : q.Canonical)
    (p : Polynomial K)
    {k : K}
    (significant : Coefficient.isNegligible k = false) :
    p.accumulateScaled (q.scale k) Coefficient.one = p.accumulateScaled q k := by
  rw [accumulateScaled_eq_foldl p q, ← foldl_accumulate_keptTerms,
    canonical.scale_of_significant significant]
  unfold Polynomial.accumulateScaled
  simp only [Coefficient.Unital.mul_one]

end Multiples

/-! ## Rational polynomials -/

/-- The constant polynomial of a number is zero exactly if the number is negligible. -/
theorem constant_eq_zero_iff (k : ℚ) :
    (constant k : Polynomial ℚ) = zero ↔ |k| < rationalTolerance := by
  rw [← isNegligible_eq_true_iff]
  cases size : Coefficient.isNegligible k with
  | true => exact iff_of_true (constant_of_isNegligible size) rfl
  | false =>
      rw [constant, ofTerm_of_significant _ size]
      refine iff_of_false (fun same => ?_) Bool.false_ne_true
      exact List.cons_ne_nil _ _ (congrArg terms same)

/-- The number is worth keeping, or none of its products with the coefficients is. -/
def ScalesEvenly (q : Polynomial ℚ) (k : ℚ) : Prop :=
  rationalTolerance ≤ |k| ∨ ∀ term ∈ q.terms, |term.2 * k| < rationalTolerance

theorem contribute_ne_self
    (sum : ℚ)
    {contribution : ℚ}
    (significant : Coefficient.isNegligible contribution = false) :
    contribute sum contribution ≠ sum := by
  intro unchanged
  rw [contribute, significant, if_neg Bool.false_ne_true] at unchanged
  split at unchanged
  · -- A sum that vanishes was not zero, or else the contribution would be negligible.
    rename_i vanishes
    rw [← unchanged, zero_add, significant] at vanishes
    cases vanishes
  · exact ne_zero_of_significant significant (left_eq_add.mp unchanged.symm)

/-- Adding a multiple changes nothing only where no product is worth keeping. -/
theorem Canonical.accumulateScaled_eq_self_iff
    {p q : Polynomial ℚ}
    (canonicalP : p.Canonical)
    (canonicalQ : q.Canonical)
    (k : ℚ) :
    p.accumulateScaled q k = p ↔ ∀ term ∈ q.terms, |term.2 * k| < rationalTolerance := by
  simp only [← isNegligible_eq_true_iff]
  constructor
  · intro unchanged term member
    by_contra notNegligible
    have significant : Coefficient.isNegligible (term.2 * k) = false := by
      simpa using notNegligible
    have scaled : (term.1, term.2 * k) ∈ q.scaledTerms k :=
      List.mem_map.mpr ⟨term, member, rfl⟩
    have after := canonicalP.coefficient_foldl_accumulate (q.scaledTerms k) term.1
    rw [← accumulateScaled_eq_foldl, unchanged,
      contributions_of_mem (canonicalQ.descending_scaledTerms k) scaled] at after
    exact contribute_ne_self _ significant after.symm
  · intro negligible
    have nothing : keptTerms (q.scaledTerms k) = [] := by
      rw [keptTerms, List.filter_eq_nil_iff, scaledTerms, List.forall_mem_map]
      intro term member
      rw [negligible term member]
      exact Bool.false_ne_true
    rw [accumulateScaled_eq_foldl, ← foldl_accumulate_keptTerms, nothing, List.foldl_nil]

theorem Canonical.accumulateScaled_eq_iff
    {p q : Polynomial ℚ}
    (canonicalP : p.Canonical)
    (canonicalQ : q.Canonical)
    (k : ℚ) :
    p.accumulateScaled q k = p.accumulateScaled (q.scale k) Coefficient.one ↔
      q.ScalesEvenly k := by
  cases size : Coefficient.isNegligible k with
  | true =>
      have small := (isNegligible_eq_true_iff k).mp size
      rw [scale_of_isNegligible q size, accumulateScaled_zero,
        canonicalP.accumulateScaled_eq_self_iff canonicalQ, ScalesEvenly,
        or_iff_right (not_le.mpr small)]
  | false =>
      have large := (isNegligible_eq_false_iff k).mp size
      exact iff_of_true (canonicalQ.accumulateScaled_scale p size).symm (.inl large)

end Polynomial

namespace CellMatrix

open PolyMatrix.Polynomial

/-! ## Matrices -/

/-- Every polynomial of the matrix scales evenly. -/
def ScalesEvenly (matrix : CellMatrix ℚ) (k : ℚ) : Prop :=
  ∀ row col, ∀ q ∈ matrix.entry row col, q.ScalesEvenly k

theorem addCells_eq_iff
    (left : Cell ℚ)
    {right : Cell ℚ}
    (canonical : ∀ q ∈ right, q.Canonical)
    (k : ℚ) :
    addCells k left right =
        addCells Coefficient.one left (right.map fun q => q.scale k) ↔
      ∀ q ∈ right, q.ScalesEvenly k := by
  cases right with
  | none => cases left <;> simp [addCells]
  | some q =>
      have own : q.Canonical := canonical q rfl
      simp only [Option.map_some, Option.mem_def, Option.some.injEq, forall_eq']
      cases left with
      | none =>
          exact Option.some_inj.trans (Canonical.zero.accumulateScaled_eq_iff own k)
      | some p =>
          have base := Canonical.zero.accumulateScaled p Coefficient.one
          exact Option.some_inj.trans (base.accumulateScaled_eq_iff own k)

/-- How the sum with a multiple compares with the sum with the built multiple, for polynomials
and for matrices of one shape. -/
structure ScaledSums (p q : Polynomial ℚ) (left right : CellMatrix ℚ) (k : ℚ) : Prop where
  /-- A number scales like the constant polynomial that stands for it. -/
  scale_eq : q.scale k = q.multiply (constant k)
  /-- For a negligible number that is the zero polynomial, and only for such a number. -/
  constant_eq_zero : (constant k : Polynomial ℚ) = zero ↔ |k| < rationalTolerance
  polynomials : p.addScaled q k = p.add (q.scale k) ↔ q.ScalesEvenly k
  matrices : ∃ atOnce inSteps, left.addScaled right k = .ok atOnce ∧
    left.add (right.scale k) = .ok inSteps ∧
    (atOnce = inSteps ↔ right.ScalesEvenly k)

/-- A multiple can be added at once or built first, with the same result exactly if the
number is worth keeping or none of its products is. -/
theorem scaledSums_of_canonical
    {p q : Polynomial ℚ}
    (canonicalP : p.Canonical)
    (canonicalQ : q.Canonical)
    {left right : CellMatrix ℚ}
    (rows : left.rows = right.rows)
    (cols : left.cols = right.cols)
    (canonical : ∀ cell ∈ right.cells, ∀ q ∈ cell, q.Canonical)
    (k : ℚ) : ScaledSums p q left right k where
  scale_eq := scale_eq_multiply_constant q k
  constant_eq_zero := constant_eq_zero_iff k
  polynomials := canonicalP.withoutNote.accumulateScaled_eq_iff canonicalQ k
  matrices := by
    have sameShape : left.rows = (right.scale k).rows ∧ left.cols = (right.scale k).cols :=
      ⟨rows, cols⟩
    refine ⟨_, _, if_pos ⟨rows, cols⟩, if_pos sameShape, ?_⟩
    rw [ofFn_eq_iff]
    have cells : ∀ row col,
        addCells k (left.entry row col) (right.entry row col) =
            addCells Coefficient.one (left.entry row col) ((right.scale k).entry row col) ↔
          ∀ q ∈ right.entry row col, q.ScalesEvenly k := by
      intro row col
      rw [scale, entry_map]
      exact addCells_eq_iff _ (canonical_entry canonical row col) k
    simp only [cells]
    constructor
    · intro even row col q stored
      have inside : right.Contains row col := by
        by_contra outside
        rw [entry_of_not_contains right outside] at stored
        cases stored
      rw [rows, cols] at even
      exact even row inside.1 col inside.2 q stored
    · intro even row _ col _
      exact even row col

/-- By `1 / 2 ^ 34`, which is below the tolerance, the half of a symbol scales evenly: it is
lost at once and in steps. -/
theorem scaledSums_of_canonical_half :
    let tiny : ℚ := 1 / 2 ^ 34
    let whole : Polynomial ℚ := .ofTerm (.ofSymbols ["x"]) 1
    let half : Polynomial ℚ := .ofTerm (.ofSymbols ["x"]) (1 / 2)
    let line := fun cell : Cell ℚ =>
      ofFn 1 2 fun _ col => if col = 0 then cell else some half
    whole.Canonical ∧ half.Canonical ∧
      ScaledSums whole half (line (some whole)) (line none) tiny ∧
      half.ScalesEvenly tiny := by
  intro tiny whole half line
  have canonicalWhole : whole.Canonical := canonical_ofTerm _ _
  have canonicalHalf : half.Canonical := canonical_ofTerm _ _
  have canonical : ∀ cell ∈ (line none).cells, ∀ q ∈ cell, q.Canonical := by
    have cells : (line none).cells = [none, some half] := rfl
    rw [cells]
    simp [canonicalHalf]
  have rows : (line (some whole)).rows = (line none).rows := rfl
  have cols : (line (some whole)).cols = (line none).cols := rfl
  refine ⟨canonicalWhole, canonicalHalf,
    scaledSums_of_canonical canonicalWhole canonicalHalf rows cols canonical tiny, .inr ?_⟩
  decide +kernel

/-- By `1 / 2 ^ 34` the multiple of 1024 times a symbol is kept at once but is lost when it is
built first, in polynomials and in matrices. -/
theorem addScaled_ne_add_scale :
    let tiny : ℚ := 1 / 2 ^ 34
    let many : Polynomial ℚ := .ofTerm (.ofSymbols ["x"]) 1024
    let single : CellMatrix ℚ := ofFn 1 1 fun _ _ => some many
    let stored := fun sum : CellMatrix ℚ => sum.cells.map (Option.map Polynomial.terms)
    (Polynomial.zero.addScaled many tiny).terms = [(.ofSymbols ["x"], 1 / 2 ^ 24)] ∧
      (Polynomial.zero.add (many.scale tiny)).terms = [] ∧
      ((empty 1 1).addScaled single tiny).map stored =
        .ok [some [(.ofSymbols ["x"], 1 / 2 ^ 24)]] ∧
      ((empty 1 1).add (single.scale tiny)).map stored = .ok [some []] := by
  decide +kernel

end CellMatrix
end PolyMatrix

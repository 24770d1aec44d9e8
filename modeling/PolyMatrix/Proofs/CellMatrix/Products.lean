import Mathlib.Algebra.BigOperators.Fin
import Mathlib.Data.Matrix.Mul
import PolyMatrix.Context
import PolyMatrix.Proofs.CellMatrix.Positions
import PolyMatrix.Proofs.Polynomial.Construction
import PolyMatrix.Proofs.Polynomial.RingLaws

/-!
# Laws of matrix algebra

As matrices over the ring of polynomials, products are products, and what a product stores
is determined by what it denotes: its cells are sums from nothing, so they are canonical and
come without remarks.  Without rules the laws of matrices therefore hold of the stored
cells.  With rules a product is rewritten cell by cell, and as a cell of the transposed
product is the same sum before it is rewritten, it is rewritten in the same way.
-/

namespace PolyMatrix

namespace Polynomial

/-! ## Polynomials from nothing -/

/-- A canonical polynomial without a remark. -/
structure Bare {K : Type} [Coefficient K] (p : Polynomial K) : Prop where
  canonical : p.Canonical
  noNote : p.note = none

theorem bare_zero {K : Type} [Coefficient K] : (zero : Polynomial K).Bare :=
  ⟨.zero, rfl⟩

theorem Bare.accumulateScaled
    {K : Type} [Add K] [Mul K] [Coefficient K]
    {p : Polynomial K}
    (bare : p.Bare)
    (q : Polynomial K)
    (k : K) : (p.accumulateScaled q k).Bare where
  canonical := bare.canonical.accumulateScaled q k
  noNote := by
    rw [← bare.noNote]
    exact note_foldl_accumulate Prod.fst (fun term => term.2 * k) q.terms p

/-- Bare polynomials that denote the same are the same. -/
theorem Bare.eq_of_meaning_eq
    {p q : Polynomial ℤ}
    (bareP : p.Bare)
    (bareQ : q.Bare)
    (same : p.meaning = q.meaning) : p = q :=
  bareP.canonical.eq_of_meaning_eq bareQ.canonical
    (bareP.noNote.trans bareQ.noNote.symm) same

end Polynomial

namespace CellMatrix

open PolyMatrix.Polynomial

/-! ## Sums of products -/

section Sums

variable {K : Type} [Add K] [Mul K] [Coefficient K]

/-- A sum with the product of two cells added, if neither is empty. -/
def addProduct (sum : Polynomial K) (pair : Cell K × Cell K) : Polynomial K :=
  match pair with
  | (some p, some q) => sum.accumulateScaled (p.multiply q) Coefficient.one
  | _ => sum

theorem dotCells_eq_foldl (left right : List (Cell K)) :
    dotCells left right = (left.zip right).foldl addProduct .zero :=
  rfl

theorem bare_addProduct
    {sum : Polynomial K}
    (bare : sum.Bare)
    (pair : Cell K × Cell K) : (addProduct sum pair).Bare := by
  unfold addProduct
  split
  · exact bare.accumulateScaled _ _
  · exact bare

theorem bare_dotCells (left right : List (Cell K)) : (dotCells left right).Bare := by
  suffices kept : ∀ (pairs : List (Cell K × Cell K)) {start : Polynomial K},
      start.Bare → (pairs.foldl addProduct start).Bare from
    kept (left.zip right) bare_zero
  intro pairs
  induction pairs with
  | nil => exact fun bare => bare
  | cons pair rest inductionHypothesis =>
      exact fun bare => inductionHypothesis (bare_addProduct bare pair)

theorem bare_addCells
    {k : K} {left right : Cell K} {sum : Polynomial K}
    (added : addCells k left right = some sum) : sum.Bare := by
  cases left with
  | none =>
      cases right with
      | none => cases added
      | some q =>
          cases added
          exact bare_zero.accumulateScaled q k
  | some p =>
      have first : (zero.accumulateScaled p Coefficient.one).Bare :=
        bare_zero.accumulateScaled p Coefficient.one
      cases right with
      | none =>
          cases added
          exact first
      | some q =>
          cases added
          exact first.accumulateScaled q k

end Sums

/-! ## What cells denote -/

/-- What a cell denotes; an empty one denotes zero. -/
noncomputable def cellMeaning (cell : Cell ℤ) : MvPolynomial String ℤ :=
  (cell.getD .zero).meaning

@[simp] theorem cellMeaning_none : cellMeaning none = 0 :=
  rfl

@[simp] theorem cellMeaning_some (p : Polynomial ℤ) : cellMeaning (some p) = p.meaning :=
  rfl

theorem meaning_accumulateScaled_one (p q : Polynomial ℤ) :
    (p.accumulateScaled q Coefficient.one).meaning = p.meaning + q.meaning := by
  rw [meaning_accumulateScaled]
  change _ + _ * MvPolynomial.C 1 = _
  rw [MvPolynomial.C_1, mul_one]

theorem meaning_addProduct (sum : Polynomial ℤ) (pair : Cell ℤ × Cell ℤ) :
    (addProduct sum pair).meaning =
      sum.meaning + cellMeaning pair.1 * cellMeaning pair.2 := by
  rcases pair with ⟨_ | p, _ | q⟩
  · rw [cellMeaning_none, zero_mul, add_zero]
    rfl
  · rw [cellMeaning_none, zero_mul, add_zero]
    rfl
  · rw [cellMeaning_none, mul_zero, add_zero]
    rfl
  · rw [cellMeaning_some, cellMeaning_some, ← meaning_multiply]
    exact meaning_accumulateScaled_one sum (p.multiply q)

/-- A sum of products of cells denotes the sum of the products of what they denote. -/
theorem meaning_dotCells (left right : List (Cell ℤ)) :
    (dotCells left right).meaning =
      ((left.zip right).map fun pair => cellMeaning pair.1 * cellMeaning pair.2).sum := by
  rw [dotCells_eq_foldl, measure_foldl meaning meaning_addProduct, meaning_zero, zero_add]

/-- The factors of a sum of products can be exchanged. -/
theorem dotCells_comm (left right : List (Cell ℤ)) :
    dotCells left right = dotCells right left := by
  apply (bare_dotCells left right).eq_of_meaning_eq (bare_dotCells right left)
  rw [meaning_dotCells, meaning_dotCells, ← List.zip_swap, List.map_map]
  congr 1
  apply List.map_congr_left
  intro pair _
  exact mul_comm _ _

theorem cellMeaning_addCells (left right : Cell ℤ) :
    cellMeaning (addCells Coefficient.one left right) =
      cellMeaning left + cellMeaning right := by
  cases left with
  | none =>
      cases right with
      | none => exact (add_zero 0).symm
      | some q => exact meaning_accumulateScaled_one .zero q
  | some p =>
      have first := meaning_accumulateScaled_one .zero p
      rw [meaning_zero, zero_add] at first
      cases right with
      | none => exact first.trans (add_zero _).symm
      | some q =>
          refine (meaning_accumulateScaled_one _ q).trans ?_
          rw [first]
          rfl

/-- What the cells of the first rows and columns denote, as a matrix. -/
noncomputable def meanings
    (rows cols : Nat)
    (matrix : CellMatrix ℤ) : Matrix (Fin rows) (Fin cols) (MvPolynomial String ℤ) :=
  Matrix.of fun row col => cellMeaning (matrix.entry row col)

/-! ## Products -/

/-- The matrix has the given numbers of rows and columns. -/
structure HasShape (matrix : CellMatrix ℤ) (rows cols : Nat) : Prop where
  rows_eq : matrix.rows = rows
  cols_eq : matrix.cols = cols

/-- The product of two matrices whose inner sizes agree. -/
def product
    (rules : Option (RuleSet ℤ))
    (left right : CellMatrix ℤ) : CellMatrix ℤ :=
  ofFn left.rows right.cols fun row col =>
    some (simplify rules (dotCells (left.row row) (right.column col))).value

/-- A matrix that was computed without rules: no cell is empty, and all are bare. -/
structure Computed (matrix : CellMatrix ℤ) : Prop where
  noLabel : matrix.label = none
  filled : ∀ row < matrix.rows, ∀ col < matrix.cols,
    ∃ p : Polynomial ℤ, p.Bare ∧ matrix.entry row col = some p

section Shapes

variable {rows size cols : Nat} {left right : CellMatrix ℤ}

theorem HasShape.product
    (leftShape : left.HasShape rows size)
    (rightShape : right.HasShape size cols)
    (rules : Option (RuleSet ℤ)) : (product rules left right).HasShape rows cols :=
  ⟨leftShape.rows_eq, rightShape.cols_eq⟩

theorem HasShape.result_multiply
    (leftShape : left.HasShape rows size)
    (rightShape : right.HasShape size cols)
    (rules : Option (RuleSet ℤ)) :
    (left.multiply rules right).result = .ok (CellMatrix.product rules left right) := by
  unfold multiply
  rw [if_pos (leftShape.cols_eq.trans rightShape.rows_eq.symm)]
  rfl

/-- Computed matrices of one shape that denote the same are the same. -/
theorem Computed.eq_of_meanings_eq
    (computedLeft : left.Computed)
    (computedRight : right.Computed)
    (leftShape : left.HasShape rows cols)
    (rightShape : right.HasShape rows cols)
    (same : meanings rows cols left = meanings rows cols right) : left = right := by
  obtain ⟨rfl, rfl⟩ := leftShape
  obtain ⟨sameRows, sameCols⟩ := rightShape
  apply eq_of_entry_eq sameRows.symm sameCols.symm
    (computedLeft.noLabel.trans computedRight.noLabel.symm)
  intro row rowInside col colInside
  obtain ⟨p, bareP, storedP⟩ := computedLeft.filled row rowInside col colInside
  obtain ⟨q, bareQ, storedQ⟩ := computedRight.filled row (by omega) col (by omega)
  have denoted := congrFun (congrFun same ⟨row, rowInside⟩) ⟨col, colInside⟩
  simp only [meanings, Matrix.of_apply, storedP, storedQ, cellMeaning_some] at denoted
  rw [storedP, storedQ, bareP.eq_of_meaning_eq bareQ denoted]

theorem computed_product (left right : CellMatrix ℤ) :
    (CellMatrix.product none left right).Computed where
  noLabel := rfl
  filled _ rowInside _ colInside :=
    ⟨_, bare_dotCells _ _, entry_ofFn _ rowInside colInside⟩

/-- Without rules a product denotes the product of what its factors denote. -/
theorem HasShape.meanings_product
    (leftShape : left.HasShape rows size)
    (rightShape : right.HasShape size cols) :
    meanings rows cols (CellMatrix.product none left right) =
      meanings rows size left * meanings size cols right := by
  obtain ⟨rfl, rfl⟩ := leftShape
  obtain ⟨inner, rfl⟩ := rightShape
  ext1 row col
  have stored := entry_ofFn (fun row col =>
    some (simplify none (dotCells (left.row row) (right.column col))).value)
    row.isLt col.isLt
  rw [Matrix.mul_apply, meanings, Matrix.of_apply, CellMatrix.product, stored,
    cellMeaning_some]
  change (dotCells _ _).meaning = _
  rw [meaning_dotCells, row_eq_map_entry left row.isLt, column, inner, List.zip_map',
    List.map_map]
  change (Finset.range left.cols).sum _ = _
  rw [Finset.sum_range]
  rfl

/-! ## Sums -/

/-- The sum of two matrices of one shape. -/
def sum (left right : CellMatrix ℤ) : CellMatrix ℤ :=
  ofFn left.rows left.cols fun row col =>
    addCells Coefficient.one (left.entry row col) (right.entry row col)

theorem HasShape.add
    (leftShape : left.HasShape rows cols)
    (rightShape : right.HasShape rows cols) : left.add right = .ok (sum left right) := by
  unfold CellMatrix.add addScaled
  rw [if_pos ⟨leftShape.rows_eq.trans rightShape.rows_eq.symm,
    leftShape.cols_eq.trans rightShape.cols_eq.symm⟩]
  rfl

theorem HasShape.sum (leftShape : left.HasShape rows cols) (right : CellMatrix ℤ) :
    (sum left right).HasShape rows cols :=
  ⟨leftShape.rows_eq, leftShape.cols_eq⟩

theorem HasShape.meanings_sum
    (leftShape : left.HasShape rows cols)
    (right : CellMatrix ℤ) :
    meanings rows cols (CellMatrix.sum left right) =
      meanings rows cols left + meanings rows cols right := by
  obtain ⟨rfl, rfl⟩ := leftShape
  ext1 row col
  have stored := entry_ofFn (fun row col =>
    addCells Coefficient.one (left.entry row col) (right.entry row col)) row.isLt col.isLt
  rw [Matrix.add_apply, meanings, Matrix.of_apply, CellMatrix.sum, stored]
  exact cellMeaning_addCells _ _

theorem Computed.sum
    (computedLeft : left.Computed)
    (right : CellMatrix ℤ) : (CellMatrix.sum left right).Computed where
  noLabel := rfl
  filled row rowInside col colInside := by
    obtain ⟨p, -, stored⟩ := computedLeft.filled row rowInside col colInside
    have present :
        (addCells Coefficient.one (some p) (right.entry row col)).isSome = true := by
      cases right.entry row col with
      | none => rfl
      | some q => rfl
    obtain ⟨q, added⟩ := Option.isSome_iff_exists.mp present
    refine ⟨q, bare_addCells added, (entry_ofFn _ rowInside colInside).trans ?_⟩
    rw [stored, added]

end Shapes

/-! ## Laws without rules -/

/-- Products can be bracketed in either way. -/
theorem product_assoc
    {rows size width cols : Nat} {first second third : CellMatrix ℤ}
    (firstShape : first.HasShape rows size)
    (secondShape : second.HasShape size width)
    (thirdShape : third.HasShape width cols) :
    product none (product none first second) third =
      product none first (product none second third) := by
  have left := firstShape.product secondShape none
  have right := secondShape.product thirdShape none
  apply (computed_product _ _).eq_of_meanings_eq (computed_product _ _)
    (left.product thirdShape none) (firstShape.product right none)
  rw [left.meanings_product thirdShape, firstShape.meanings_product secondShape,
    firstShape.meanings_product right, secondShape.meanings_product thirdShape,
    Matrix.mul_assoc]

/-- A product with a sum is the sum of the products. -/
theorem product_sum
    {rows size cols : Nat} {first second third : CellMatrix ℤ}
    (firstShape : first.HasShape rows size)
    (secondShape : second.HasShape size cols)
    (thirdShape : third.HasShape size cols) :
    product none first (sum second third) =
      sum (product none first second) (product none first third) := by
  have summed := secondShape.sum third
  have left := firstShape.product secondShape none
  apply (computed_product _ _).eq_of_meanings_eq ((computed_product _ _).sum _)
    (firstShape.product summed none) (left.sum _)
  rw [firstShape.meanings_product summed, secondShape.meanings_sum, left.meanings_sum,
    firstShape.meanings_product secondShape, firstShape.meanings_product thirdShape,
    Matrix.mul_add]

theorem hasShape_identity (size : Nat) :
    (identity size : CellMatrix ℤ).HasShape size size :=
  ⟨rfl, rfl⟩

theorem meanings_identity (size : Nat) : meanings size size (identity size) = 1 := by
  ext1 row col
  have stored := entry_ofFn (fun row col : Nat =>
    if row = col then some (one : Polynomial ℤ) else none) row.isLt col.isLt
  rw [meanings, Matrix.of_apply, identity, diagonal, stored, Matrix.one_apply]
  by_cases same : row = col
  · rw [if_pos same, if_pos (congrArg Fin.val same), cellMeaning_some, meaning_one]
  · rw [if_neg same, if_neg fun equal => same (Fin.ext equal), cellMeaning_none]

/-! ## Matrices with the same values -/

/-- Two matrices of one shape store the same, if empty cells count as zero; labels and
remarks do not matter. -/
structure SameValues (left right : CellMatrix ℤ) : Prop where
  rows : left.rows = right.rows
  cols : left.cols = right.cols
  terms : ∀ row col, (left.value row col).terms = (right.value row col).terms

theorem cellsAgree_of_terms_eq
    {left right : Cell ℤ}
    (same : (left.getD .zero).terms = (right.getD .zero).terms) :
    cellsAgree left right = true := by
  cases left with
  | none =>
      cases right with
      | none => rfl
      | some q => exact List.isEmpty_iff.mpr same.symm
  | some p =>
      cases right with
      | none => exact List.isEmpty_iff.mpr same
      | some q =>
          apply List.all_eq_true.mpr
          intro monomial _
          have coefficient : p.coefficient monomial = q.coefficient monomial := by
            rw [Polynomial.coefficient, Polynomial.coefficient]
            exact congrArg (fun terms => (terms.lookup monomial).getD Coefficient.zero) same
          exact (isWithin_int _ _).mpr coefficient

/-- Matrices with the same values are equal in the sense of matrices. -/
theorem SameValues.agrees
    {left right : CellMatrix ℤ}
    (same : left.SameValues right) : left.agrees right = true :=
  (agrees_iff left right).mpr ⟨same.rows, same.cols, fun row _ col _ =>
    cellsAgree_of_terms_eq (same.terms row col)⟩

/-- A computed matrix stores what a matrix of the same shape with canonical cells stores, if
they denote the same. -/
theorem Computed.sameValues
    {rows cols : Nat} {left right : CellMatrix ℤ}
    (computed : left.Computed)
    (leftShape : left.HasShape rows cols)
    (rightShape : right.HasShape rows cols)
    (canonical : ∀ cell ∈ right.cells, ∀ p ∈ cell, p.Canonical)
    (same : meanings rows cols left = meanings rows cols right) :
    left.SameValues right := by
  obtain ⟨rfl, rfl⟩ := leftShape
  obtain ⟨sameRows, sameCols⟩ := rightShape
  refine ⟨sameRows.symm, sameCols.symm, fun row col => ?_⟩
  by_cases inside : left.Contains row col
  · obtain ⟨p, bare, stored⟩ := computed.filled row inside.1 col inside.2
    have denoted := congrFun (congrFun same ⟨row, inside.1⟩) ⟨col, inside.2⟩
    simp only [meanings, Matrix.of_apply, stored, cellMeaning_some] at denoted
    rw [CellMatrix.value, stored, Option.getD_some]
    exact bare.canonical.terms_eq_of_meaning_eq (canonical_value canonical row col) denoted
  · have outside : ¬right.Contains row col := by
      rwa [Contains, sameRows, sameCols]
    rw [CellMatrix.value, CellMatrix.value, entry_of_not_contains left inside,
      entry_of_not_contains right outside]

/-! ## Transposed products -/

/-- The transposed product is the product of the transposed matrices in reverse order,
rewritten by the same rules. -/
theorem transpose_product (rules : Option (RuleSet ℤ)) (left right : CellMatrix ℤ) :
    (product rules left right).transpose =
      product rules right.transpose left.transpose := by
  apply eq_of_entry_eq
  · rfl
  · rfl
  · rfl
  · intro row rowInside col colInside
    change row < right.cols at rowInside
    change col < left.rows at colInside
    have rightInside : row < right.transpose.rows := rowInside
    have leftInside : col < left.transpose.cols := colInside
    rw [entry_transpose, product, entry_ofFn _ colInside rowInside, product,
      entry_ofFn _ rightInside leftInside, row_transpose right rowInside,
      column_transpose left colInside, dotCells_comm]

end CellMatrix

open CellMatrix

/-! ## Products in a context -/

/-- The product of two matrices in a context, without what is recorded of it. -/
def Context.product
    (context : Context ℤ)
    (left right : CellMatrix ℤ) : Except Fault (CellMatrix ℤ) :=
  (context.multiply left right).result.map Recorded.value

theorem CellMatrix.HasShape.contextProduct
    {rows size cols : Nat} {left right : CellMatrix ℤ}
    (leftShape : left.HasShape rows size)
    (rightShape : right.HasShape size cols)
    {context : Context ℤ} {rules : Option (RuleSet ℤ)}
    (hasRules : context.rules = rules) :
    context.product left right = .ok (CellMatrix.product rules left right) := by
  rw [Context.product, Context.multiply, hasRules, Attempt.result_bind_of_result
    (leftShape.result_multiply rightShape rules), Attempt.result_pure]
  change Except.ok (context.record _ _ _).value = _
  rw [Context.value_record]

/-- The laws of matrix algebra for three matrices that are multiplied in a context. -/
structure MatrixAlgebraLaws
    (context : Context ℤ)
    (first second third : CellMatrix ℤ) : Prop where
  product_assoc : context.rules = none →
    first.cols = second.rows → second.cols = third.rows →
      ∃ product,
        (do let left ← context.product first second
            context.product left third) = .ok product ∧
        (do let right ← context.product second third
            context.product first right) = .ok product
  product_add : context.rules = none →
    first.cols = second.rows → second.rows = third.rows → second.cols = third.cols →
      ∃ product,
        (do let sum ← second.add third
            context.product first sum) = .ok product ∧
        (do let left ← context.product first second
            let right ← context.product first third
            left.add right) = .ok product
  identity_product : context.rules = none →
    ∃ product, context.product (identity first.rows) first = .ok product ∧
      product.SameValues first ∧ product.agrees first = true
  product_identity : context.rules = none →
    ∃ product, context.product first (identity first.cols) = .ok product ∧
      product.SameValues first ∧ product.agrees first = true
  /-- Whatever the rules are, they rewrite the transposed product to the same cells. -/
  transpose_product : first.cols = second.rows →
    ∃ product, context.product first second = .ok product ∧
      context.product second.transpose first.transpose = .ok product.transpose
  transpose_transpose : first.transpose.transpose.withLabel? first.label = first

/-- Matrices of polynomials with integer coefficients obey the laws of matrix algebra, with
the same cells stored on both sides; transposition obeys them under any rules. -/
theorem matrixAlgebraLaws
    (context : Context ℤ)
    {first : CellMatrix ℤ}
    (canonical : ∀ cell ∈ first.cells, ∀ p ∈ cell, p.Canonical)
    (second third : CellMatrix ℤ) : MatrixAlgebraLaws context first second third where
  product_assoc noRules inner outer := by
    have firstShape : first.HasShape first.rows second.rows := ⟨rfl, inner⟩
    have secondShape : second.HasShape second.rows third.rows := ⟨rfl, outer⟩
    have thirdShape : third.HasShape third.rows third.cols := ⟨rfl, rfl⟩
    have left := firstShape.product secondShape none
    have right := secondShape.product thirdShape none
    refine ⟨product none (product none first second) third, ?_, ?_⟩
    · rw [firstShape.contextProduct secondShape noRules]
      exact left.contextProduct thirdShape noRules
    · rw [secondShape.contextProduct thirdShape noRules,
        CellMatrix.product_assoc firstShape secondShape thirdShape]
      exact firstShape.contextProduct right noRules
  product_add noRules inner sameRows sameCols := by
    have firstShape : first.HasShape first.rows second.rows := ⟨rfl, inner⟩
    have secondShape : second.HasShape second.rows second.cols := ⟨rfl, rfl⟩
    have thirdShape : third.HasShape second.rows second.cols :=
      ⟨sameRows.symm, sameCols.symm⟩
    have left := firstShape.product secondShape none
    have right := firstShape.product thirdShape none
    refine ⟨sum (product none first second) (product none first third), ?_, ?_⟩
    · rw [secondShape.add thirdShape, ← product_sum firstShape secondShape thirdShape]
      exact firstShape.contextProduct (secondShape.sum third) noRules
    · rw [firstShape.contextProduct secondShape noRules,
        firstShape.contextProduct thirdShape noRules]
      exact left.add right
  identity_product noRules := by
    have shape : first.HasShape first.rows first.cols := ⟨rfl, rfl⟩
    have identityShape := hasShape_identity first.rows
    have same : (product none (identity first.rows) first).SameValues first := by
      apply (computed_product _ _).sameValues (identityShape.product shape none) shape
        canonical
      rw [identityShape.meanings_product shape, meanings_identity, Matrix.one_mul]
    exact ⟨_, identityShape.contextProduct shape noRules, same, same.agrees⟩
  product_identity noRules := by
    have shape : first.HasShape first.rows first.cols := ⟨rfl, rfl⟩
    have identityShape := hasShape_identity first.cols
    have same : (product none first (identity first.cols)).SameValues first := by
      apply (computed_product _ _).sameValues (shape.product identityShape none) shape
        canonical
      rw [shape.meanings_product identityShape, meanings_identity, Matrix.mul_one]
    exact ⟨_, shape.contextProduct identityShape noRules, same, same.agrees⟩
  transpose_product inner := by
    have firstShape : first.HasShape first.rows second.rows := ⟨rfl, inner⟩
    have secondShape : second.HasShape second.rows second.cols := ⟨rfl, rfl⟩
    have firstTransposed : first.transpose.HasShape second.rows first.rows :=
      ⟨inner, rfl⟩
    have secondTransposed : second.transpose.HasShape second.cols second.rows :=
      ⟨rfl, rfl⟩
    refine ⟨_, firstShape.contextProduct secondShape rfl, ?_⟩
    rw [CellMatrix.transpose_product]
    exact secondTransposed.contextProduct firstTransposed rfl
  transpose_transpose := CellMatrix.transpose_transpose first

/-- A column with an empty cell, a row, and a matrix without columns, under a rule that
replaces `x*x` by one. -/
theorem matrixAlgebraLaws_hollow :
    let x : Polynomial ℤ := .ofTerm (.ofSymbols ["x"]) 1
    let column : CellMatrix ℤ := .ofFn 2 1 fun row _ => if row = 0 then none else some x
    let line : CellMatrix ℤ := .ofFn 1 2 fun _ _ => some x
    let rule : Rule ℤ := ⟨.ofSymbols ["x", "x"], .one⟩
    let context : Context ℤ := { rules := some ⟨.ifReducing, [rule]⟩ }
    (∀ cell ∈ column.cells, ∀ p ∈ cell, p.Canonical) ∧
      MatrixAlgebraLaws {} column line (.empty 2 0) ∧
      MatrixAlgebraLaws context column line (.empty 2 0) ∧
      (context.product column line).map (fun product => (product.value 1 0).terms) =
        .ok [(.unit, 1)] := by
  intro x column line rule context
  have canonicalX : x.Canonical := Polynomial.canonical_ofTerm _ _
  have cells : column.cells = [none, some x] := rfl
  have canonical : ∀ cell ∈ column.cells, ∀ p ∈ cell, p.Canonical := by
    intro cell member p present
    rw [cells] at member
    rcases List.mem_pair.mp member with rfl | rfl
    · cases present
    · cases present
      exact canonicalX
  exact ⟨canonical, matrixAlgebraLaws {} canonical line (.empty 2 0),
    matrixAlgebraLaws context canonical line (.empty 2 0), by decide +kernel⟩

end PolyMatrix

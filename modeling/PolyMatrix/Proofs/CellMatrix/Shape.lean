import PolyMatrix.Coefficient.Exact
import PolyMatrix.Proofs.CellMatrix.StorePrograms

/-!
# Every matrix that can be built fills its shape

A matrix is built from values or texts, and from other matrices by operations.  In memory it
always has as many cells as its shape, also where there are no rows or no columns, so no
program on it has a breach: no access is out of range, nothing is divided by a column count
of zero, and no step fails whose success is taken for granted.  What is left are the faults
of requests that do not fit the shape.
-/

namespace PolyMatrix

open Checked

variable {K : Type}

/-! ## Documented faults -/

/-- A program that ends like an operation, which fails exactly under a condition. -/
structure Follows {α : Type} (program : Checked α) (outcome : Except Fault α)
    (condition : Prop) (fault : Fault) : Prop where
  same : program = ofOutcome outcome
  fails : condition → outcome = .error fault
  completes : ¬condition → ∃ value, outcome = .ok value

theorem follows_of_ite
    {α : Type} {fits condition : Prop} [Decidable fits]
    {program : Checked α} {outcome : Except Fault α} {value : α} {fault : Fault}
    (same : program = ofOutcome outcome)
    (decided : outcome = if fits then .ok value else .error fault)
    (misfit : condition ↔ ¬fits) : Follows program outcome condition fault where
  same := same
  fails failing := by rw [decided, if_neg (misfit.mp failing)]
  completes passing :=
    ⟨value, by rw [decided, if_pos (not_not.mp (mt misfit.mpr passing))]⟩

theorem follows_of_map_ite
    {fits condition : Prop} [Decidable fits]
    {program : Checked (Store K)} {outcome : Except Fault (CellMatrix K)}
    {matrix : CellMatrix K} {fault : Fault}
    (same : program = ofOutcome (outcome.map Store.of))
    (decided : outcome = if fits then .ok matrix else .error fault)
    (misfit : condition ↔ ¬fits) :
    Follows program (outcome.map Store.of) condition fault := by
  have mapped : outcome.map Store.of =
      if fits then .ok (Store.of matrix) else .error fault := by
    rw [decided]
    exact apply_ite (Except.map Store.of) fits _ _
  exact follows_of_ite same mapped misfit

/-- A position outside of a matrix misses its rows or its columns. -/
theorem outside_iff (matrix : CellMatrix K) (row col : Nat) :
    matrix.rows ≤ row ∨ matrix.cols ≤ col ↔ ¬matrix.Contains row col := by
  unfold CellMatrix.Contains
  omega

/-! ## Building matrices -/

/-- What a matrix is made of at first.  Nine texts for three rows and columns are a case of
`ofTexts`. -/
inductive Origin (K : Type) where
  | empty (rows cols : Nat)
  | ofCells (rows cols : Nat) (cells : List (Cell K))
  | ofPolynomials (rows cols : Nat) (polynomials : List (Polynomial K))
  | ofTexts (rows cols : Nat) (texts : List String)
  | ofScalars (rows cols : Nat) (scalars : List K)
  | identity (size : Nat)
  | diagonal (size : Nat) (value : Polynomial K)
  | parse (source : String)

/-- What can be done with one matrix to get another. -/
inductive Operation (K : Type) where
  | withLabel (label : String)
  | set (row col : Nat) (cell : Cell K)
  | transpose
  | scale (k : K)
  | scaleTerm (k : K) (monomial : Monomial)
  | multiplyPolynomial (q : Polynomial K)
  | derive (symbol : String)
  | integrate (symbol : String)
  | substitute (rules : RuleSet K)
  | minorAt (row col : Nat)

/-- A way to build a matrix. -/
inductive Construction (K : Type) where
  /-- From values or texts. -/
  | start (origin : Origin K)
  /-- From one matrix. -/
  | perform (operand : Construction K) (operation : Operation K)
  /-- By adding a multiple of a matrix. -/
  | addScaled (left right : Construction K) (k : K)
  /-- By multiplying two matrices and simplifying with the rules at hand. -/
  | multiply (left right : Construction K) (rules : Option (RuleSet K))

/-- Where a program does in memory what an operation does, it also goes on like it. -/
theorem Checked.ofOutcome_bind
    {program : Store K → Checked (Store K)}
    {operation : CellMatrix K → Except Fault (CellMatrix K)}
    (agree : ∀ matrix, program (.of matrix) = ofOutcome ((operation matrix).map Store.of))
    (outcome : Except Fault (CellMatrix K)) :
    (ofOutcome (outcome.map Store.of) >>= program) =
      ofOutcome ((outcome >>= operation).map Store.of) := by
  cases outcome with
  | error fault => rfl
  | ok matrix => exact agree matrix

variable [Add K] [Neg K] [Mul K] [Div K] [Coefficient K]

namespace Origin

/-- The matrix. -/
def built : Origin K → Except Fault (CellMatrix K)
  | empty rows cols => pure (CellMatrix.empty rows cols)
  | ofCells rows cols cells => CellMatrix.ofCells rows cols cells
  | ofPolynomials rows cols polynomials => CellMatrix.ofPolynomials rows cols polynomials
  | ofTexts rows cols texts => (CellMatrix.ofTexts rows cols texts).result
  | ofScalars rows cols scalars => CellMatrix.ofScalars rows cols scalars
  | identity size => pure (CellMatrix.identity size)
  | diagonal size value => pure (CellMatrix.diagonal size value)
  | parse source => (CellMatrix.parse source).result

/-- The matrix in memory. -/
def stored : Origin K → Checked (Store K)
  | empty rows cols => pure (Store.empty rows cols)
  | ofCells rows cols cells => Store.ofCells rows cols cells
  | ofPolynomials rows cols polynomials => Store.ofPolynomials rows cols polynomials
  | ofTexts rows cols texts => Store.ofTexts rows cols texts
  | ofScalars rows cols scalars => Store.ofScalars rows cols scalars
  | identity size => Store.identity size
  | diagonal size value => Store.diagonal size value
  | parse source => Store.parse source

omit [Div K] in
theorem stored_eq (origin : Origin K) :
    origin.stored = ofOutcome (origin.built.map Store.of) := by
  cases origin with
  | empty rows cols => exact congrArg pure (Store.empty_eq rows cols)
  | ofCells rows cols cells => exact Store.ofCells_eq rows cols cells
  | ofPolynomials rows cols polynomials => exact Store.ofCells_eq rows cols _
  | ofTexts rows cols texts => exact Store.ofTexts_eq rows cols texts
  | ofScalars rows cols scalars => exact Store.ofScalars_eq rows cols scalars
  | identity size => exact Store.diagonal_eq size .one
  | diagonal size value => exact Store.diagonal_eq size value
  | parse source => exact Store.parse_eq source

end Origin

namespace Operation

/-- What a matrix becomes. -/
def perform : Operation K → CellMatrix K → Except Fault (CellMatrix K)
  | withLabel label, matrix => pure (matrix.withLabel label)
  | set row col cell, matrix => matrix.set row col cell
  | transpose, matrix => pure matrix.transpose
  | scale k, matrix => pure (matrix.scale k)
  | scaleTerm k monomial, matrix => pure (matrix.scaleTerm k monomial)
  | multiplyPolynomial q, matrix => pure (matrix.multiplyPolynomial q)
  | derive symbol, matrix => pure (matrix.derive symbol)
  | integrate symbol, matrix => pure (matrix.integrate symbol)
  | substitute rules, matrix => pure (matrix.substitute rules).value
  | minorAt row col, matrix => matrix.minorAt row col

/-- What a matrix in memory becomes. -/
def performStored : Operation K → Store K → Checked (Store K)
  | withLabel label, store => pure { store with label := some label }
  | set row col cell, store => store.set row col cell
  | transpose, store => store.transpose
  | scale k, store => pure (store.map fun p => p.scale k)
  | scaleTerm k monomial, store => pure (store.map fun p => p.multiplyTerm monomial k)
  | multiplyPolynomial q, store => pure (store.multiplyPolynomial q)
  | derive symbol, store => pure (store.map fun p => p.derive symbol)
  | integrate symbol, store => pure (store.map fun p => p.integrate symbol)
  | substitute rules, store => pure (store.substitute rules)
  | minorAt row col, store => store.minorAt row col

omit [Neg K] in
theorem performStored_of (operation : Operation K) (matrix : CellMatrix K) :
    operation.performStored (.of matrix) =
      ofOutcome ((operation.perform matrix).map Store.of) := by
  cases operation with
  | withLabel label => rfl
  | set row col cell => exact Store.set_of matrix row col cell
  | transpose => exact Store.transpose_of matrix
  | scale k => rfl
  | scaleTerm k monomial => rfl
  | multiplyPolynomial q => exact congrArg pure (Store.multiplyPolynomial_of matrix q)
  | derive symbol => rfl
  | integrate symbol => rfl
  | substitute rules => rfl
  | minorAt row col => exact Store.minorAt_of matrix row col

end Operation

namespace Construction

/-- The matrix that is built, or the first fault on the way. -/
def built : Construction K → Except Fault (CellMatrix K)
  | start origin => origin.built
  | perform operand operation => operand.built >>= operation.perform
  | addScaled left right k =>
      left.built >>= fun first => right.built >>= fun second => first.addScaled second k
  | multiply left right rules =>
      left.built >>= fun first => right.built >>= fun second =>
        (first.multiply rules second).result

/-- The same in memory, with every step checked. -/
def stored : Construction K → Checked (Store K)
  | start origin => origin.stored
  | perform operand operation => operand.stored >>= operation.performStored
  | addScaled left right k =>
      left.stored >>= fun first => right.stored >>= fun second => first.addScaled second k
  | multiply left right rules =>
      left.stored >>= fun first => right.stored >>= fun second => first.multiply rules second

/-- What is built in memory is the matrix that is built. -/
theorem stored_eq (construction : Construction K) :
    construction.stored = ofOutcome (construction.built.map Store.of) := by
  induction construction with
  | start origin => exact origin.stored_eq
  | perform operand operation operandHypothesis =>
      rw [stored, operandHypothesis]
      exact ofOutcome_bind operation.performStored_of _
  | addScaled left right k leftHypothesis rightHypothesis =>
      rw [stored, leftHypothesis, rightHypothesis]
      exact ofOutcome_bind
        (fun first => ofOutcome_bind (fun second => Store.addScaled_of first second k) _) _
  | multiply left right rules leftHypothesis rightHypothesis =>
      rw [stored, leftHypothesis, rightHypothesis]
      exact ofOutcome_bind
        (fun first => ofOutcome_bind (fun second => Store.multiply_of first rules second) _) _

theorem exists_of_stored
    {construction : Construction K}
    {store : Store K}
    (reached : construction.stored = .ok store) :
    ∃ matrix, construction.built = .ok matrix ∧ store = .of matrix := by
  rw [stored_eq] at reached
  cases outcome : construction.built with
  | error fault =>
      rw [outcome] at reached
      cases reached
  | ok matrix =>
      rw [outcome] at reached
      exact ⟨matrix, rfl, (Except.ok.inj reached).symm⟩

end Construction

/-! ## Every matrix -/

/-- What programs do with two stores that are matrices in memory: what the operations do
with the matrices, failing exactly where a request does not fit the shapes. -/
structure Fits (left right : Store K) (first second : CellMatrix K) : Prop where
  length_cells : left.cells.length = left.rows * left.cols
  cell : ∀ row col, Follows (left.cell row col) (first.cell row col)
    (left.rows ≤ row ∨ left.cols ≤ col) (.outside row col left.rows left.cols)
  get : ∀ row col, Follows (left.get row col) (first.get row col)
    (left.rows ≤ row ∨ left.cols ≤ col) (.outside row col left.rows left.cols)
  set : ∀ row col cell,
    Follows (left.set row col cell) ((first.set row col cell).map Store.of)
      (left.rows ≤ row ∨ left.cols ≤ col) (.outside row col left.rows left.cols)
  minorAt : ∀ row col,
    Follows (left.minorAt row col) ((first.minorAt row col).map Store.of)
      (left.rows ≤ row ∨ left.cols ≤ col) (.outside row col left.rows left.cols)
  addScaled : ∀ k,
    Follows (left.addScaled right k) ((first.addScaled second k).map Store.of)
      (left.rows ≠ right.rows ∨ left.cols ≠ right.cols)
      (.shapesDiffer left.rows left.cols right.rows right.cols)
  multiply : ∀ rules,
    Follows (left.multiply rules right) ((first.multiply rules second).result.map Store.of)
      (left.cols ≠ right.rows)
      (.innerSizesDiffer left.rows left.cols right.rows right.cols)
  determinant : ∀ rules,
    Follows (left.determinant rules) (first.determinant rules).result
      (left.rows ≠ left.cols) (.notSquare left.rows left.cols)
  transpose : left.transpose = pure (Store.of first.transpose)
  trace : left.trace = pure first.trace
  records : left.records = pure ((List.range first.rows).map fun row =>
    (first.row row).map CellMatrix.cellText)
  written : ∃ lines, left.written = pure lines ∧ first.text = first.headerText ++ lines
  /-- Every cell is visited at a position inside of the shape. -/
  iterate : ∀ {σ : Type} (step : σ → Nat → Nat → Cell K → Checked σ),
    (∀ state, ∀ row < left.rows, ∀ col < left.cols, ∀ cell,
      ∃ next, step state row col cell = pure next) →
    ∀ start, ∃ final, left.iterate step start = pure final

omit [Div K] in
/-- The programs on matrices in memory, one by one. -/
theorem fits_of (left right : CellMatrix K) :
    Fits (Store.of left) (Store.of right) left right where
  length_cells := left.length_cells
  cell row col := follows_of_ite (Store.cell_of left row col) rfl (outside_iff left row col)
  get row col := follows_of_ite (Store.get_of left row col) rfl (outside_iff left row col)
  set row col cell :=
    follows_of_map_ite (Store.set_of left row col cell) rfl (outside_iff left row col)
  minorAt row col :=
    follows_of_map_ite (Store.minorAt_of left row col) rfl (outside_iff left row col)
  addScaled k := follows_of_map_ite (Store.addScaled_of left right k) rfl not_and_or.symm
  multiply rules :=
    follows_of_map_ite (Store.multiply_of left rules right)
      (Store.result_multiply left rules right) Iff.rfl
  determinant rules :=
    follows_of_ite (Store.determinant_of left rules)
      (CellMatrix.result_determinant left rules) (not_congr beq_iff_eq).symm
  transpose := Store.transpose_of left
  trace := Store.trace_of left
  records := Store.records_of left
  written := ⟨_, Store.written_of left, rfl⟩
  iterate step succeeds start := by
    rw [Store.iterate_of]
    apply exists_foldlM
    intro place member state
    have inside := CellMatrix.position_of_place (List.mem_range.mp member)
    exact succeeds state _ inside.1 _ inside.2 _

/-- Whatever matrix is built, building it in memory gives that matrix or its fault and has
no breach.  What was built has as many cells as its shape, and a request to it fails exactly
where it does not fit. -/
theorem construction_fits (left right : Construction K) :
    left.stored = ofOutcome (left.built.map Store.of) ∧
      (∀ breach, left.stored ≠ violate breach) ∧
      ∀ store other, left.stored = .ok store → right.stored = .ok other →
        ∃ first second, left.built = .ok first ∧ right.built = .ok second ∧
          Fits store other first second := by
  refine ⟨left.stored_eq, ?_, ?_⟩
  · intro breach
    rw [left.stored_eq]
    cases left.built <;> rintro ⟨⟩
  · intro store other storeReached otherReached
    obtain ⟨first, firstBuilt, rfl⟩ := Construction.exists_of_stored storeReached
    obtain ⟨second, secondBuilt, rfl⟩ := Construction.exists_of_stored otherReached
    exact ⟨first, second, firstBuilt, secondBuilt, fits_of first second⟩

/-- A product of a matrix without columns by one without rows, and the transpose of a matrix
without columns. -/
theorem construction_fits_hollow :
    ∃ first second : CellMatrix ℤ,
      (Construction.multiply (.start (.empty 3 0)) (.start (.empty 0 2)) none).built =
        .ok first ∧
      (Construction.perform (.perform (.start (.empty 3 0)) (.withLabel "e"))
        .transpose).built = .ok second ∧
      Fits ⟨3, 2, [some .zero, some .zero, some .zero, some .zero, some .zero, some .zero],
        none⟩ ⟨0, 3, [], some "tr(e)"⟩ first second :=
  (construction_fits _ _).2.2 _ _ rfl rfl

/-- All rests on the shape: a store that lacks cells has a breach. -/
example : (⟨1, 2, [], none⟩ : Store ℤ).cell 0 1 = violate (.outOfRange 1 0) := rfl

end PolyMatrix

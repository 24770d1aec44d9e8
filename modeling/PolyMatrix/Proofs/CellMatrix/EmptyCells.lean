import PolyMatrix.Context
import PolyMatrix.Proofs.CellMatrix.Products
import PolyMatrix.Proofs.Polynomial.Remarks

/-!
# Empty cells as operands

An empty cell reads as zero, and every operation on matrices treats it as the zero
polynomial: where cells are skipped nothing would have been added, where they are kept the
zero polynomial would have been kept, and no rule applies to it.  Two matrices that read
alike therefore give results that read alike, whatever the arithmetic of the coefficients
is; the determinant by induction on its size, since minors read alike as well.
-/

namespace PolyMatrix

/-! ## Outcomes -/

/-- Two computations end in the same fault, or in values that are related. -/
inductive EndAlike {α : Type} (related : α → α → Prop) :
    Except Fault α → Except Fault α → Prop
  | ok {left right : α} (values : related left right) :
      EndAlike related (.ok left) (.ok right)
  | error (fault : Fault) : EndAlike related (.error fault) (.error fault)

theorem EndAlike.bind_ok
    {α β : Type}
    {related : α → α → Prop} {relatedAfter : β → β → Prop}
    {left right : Except Fault α}
    (alike : EndAlike related left right)
    {f g : α → β}
    (after : ∀ {a b}, related a b → relatedAfter (f a) (g b)) :
    EndAlike relatedAfter (left >>= fun value => .ok (f value))
      (right >>= fun value => .ok (g value)) := by
  cases alike with
  | ok values => exact .ok (after values)
  | error fault => exact .error fault

/-- Two attempts notice the same and end alike. -/
structure AttemptsAlike {α : Type} (related : α → α → Prop) (left right : Attempt α) :
    Prop where
  result : EndAlike related left.result right.result
  notices : left.notices = right.notices

/-- What is made of alike values in the end keeps attempts alike. -/
theorem AttemptsAlike.bind_pure
    {α β : Type}
    {related : α → α → Prop} {relatedAfter : β → β → Prop}
    {left right : Attempt α}
    (alike : AttemptsAlike related left right)
    {f g : α → β}
    (after : ∀ {a b}, related a b → relatedAfter (f a) (g b)) :
    AttemptsAlike relatedAfter (left >>= fun value => pure (f value))
      (right >>= fun value => pure (g value)) where
  result := by
    rw [Attempt.result_bind, Attempt.result_bind]
    exact alike.result.bind_ok after
  notices := by
    rw [Attempt.notices_bind_pure, Attempt.notices_bind_pure, alike.notices]

namespace CellMatrix

open PolyMatrix.Polynomial

variable {K : Type}

/-! ## Matrices that read alike -/

/-- Two matrices of one shape and label have the same value at every position, where an
empty cell has the value zero. -/
structure ReadAlike (remarks : Prop) (left right : CellMatrix K) : Prop where
  /-- The shapes have as many rows. -/
  rows : left.rows = right.rows
  /-- The shapes have as many columns. -/
  cols : left.cols = right.cols
  /-- The labels are the same. -/
  label : left.label = right.label
  /-- The values are the same, up to their remarks if these do not matter. -/
  value : ∀ row col, (left.value row col).Same remarks (right.value row col)

section Reading

variable {remarks kept : Prop} {left right : CellMatrix K}

theorem readAlike_ofFn
    (rows cols : Nat)
    {before after : Nat → Nat → Cell K}
    (same : ∀ row < rows, ∀ col < cols,
      ((before row col).getD .zero).Same remarks ((after row col).getD .zero)) :
    (ofFn rows cols before).ReadAlike remarks (ofFn rows cols after) where
  rows := rfl
  cols := rfl
  label := rfl
  value row col := by
    by_cases inside : row < rows ∧ col < cols
    · rw [value_ofFn before inside.1 inside.2, value_ofFn after inside.1 inside.2]
      exact same row inside.1 col inside.2
    · rw [value_of_not_contains (ofFn rows cols before) inside,
        value_of_not_contains (ofFn rows cols after) inside]
      exact .of_eq rfl

/-- What leaves zero as it is and takes the same to the same keeps matrices alike. -/
theorem ReadAlike.map
    (alike : left.ReadAlike remarks right)
    {f : Polynomial K → Polynomial K}
    (zero : f .zero = .zero)
    (same : ∀ {p q}, p.Same remarks q → (f p).Same kept (f q)) :
    (left.map f).ReadAlike kept (right.map f) where
  rows := alike.rows
  cols := alike.cols
  label := rfl
  value row col := by
    rw [value_map left zero, value_map right zero]
    exact same (alike.value row col)

/-- What leaves zero as it is and remarks take no part in makes alike matrices alike in
their remarks. -/
theorem ReadAlike.map_of_ignores
    (alike : left.ReadAlike remarks right)
    {f : Polynomial K → Polynomial K}
    (zero : f .zero = .zero)
    (ignores : ∀ p, f p.withoutNote = f p) :
    (left.map f).ReadAlike True (right.map f) :=
  alike.map zero fun same => .of_eq (same.apply_eq f ignores)

/-- Alike matrices have the same positions, and the same fault elsewhere. -/
theorem ReadAlike.inside_or_fault
    (alike : left.ReadAlike remarks right)
    (row col : Nat)
    {α : Type} {related : α → α → Prop} {before after : α}
    (found : related before after) :
    EndAlike related
      (if left.Contains row col then .ok before else .error (left.outsideFault row col))
      (if right.Contains row col then .ok after else .error (right.outsideFault row col)) := by
  have positions : left.Contains row col ↔ right.Contains row col := by
    rw [Contains, Contains, alike.rows, alike.cols]
  by_cases inside : left.Contains row col
  · rw [if_pos inside, if_pos (positions.mp inside)]
    exact .ok found
  · rw [if_neg inside, if_neg (mt positions.mpr inside), outsideFault, outsideFault,
      alike.rows, alike.cols]
    exact .error _

theorem ReadAlike.get
    (alike : left.ReadAlike remarks right)
    (row col : Nat) : EndAlike (Same remarks) (left.get row col) (right.get row col) :=
  alike.inside_or_fault row col (alike.value row col)

theorem ReadAlike.transpose
    (alike : left.ReadAlike remarks right) :
    left.transpose.ReadAlike remarks right.transpose where
  rows := alike.cols
  cols := alike.rows
  label := by
    change left.label.map _ = right.label.map _
    rw [alike.label]
  value row col := by
    rw [value_transpose, value_transpose]
    exact alike.value col row

theorem ReadAlike.minor
    (alike : left.ReadAlike remarks right)
    (row col : Nat) : (left.minor row col).ReadAlike remarks (right.minor row col) := by
  rw [CellMatrix.minor, CellMatrix.minor, ← alike.rows, ← alike.cols]
  exact readAlike_ofFn _ _ fun i _ j _ => alike.value (skip row i) (skip col j)

theorem ReadAlike.minorAt
    (alike : left.ReadAlike remarks right)
    (row col : Nat) :
    EndAlike (ReadAlike remarks) (left.minorAt row col) (right.minorAt row col) :=
  alike.inside_or_fault row col (alike.minor row col)

/-- The values in reading order. -/
def values (matrix : CellMatrix K) : List (Polynomial K) :=
  matrix.cells.map fun cell => cell.getD .zero

/-- What is the same for the same summands is the same all over alike matrices. -/
theorem ReadAlike.map_values
    (alike : left.ReadAlike remarks right)
    {β : Type} {f : Polynomial K → β}
    (same : ∀ {p q}, p.Same remarks q → f p = f q) :
    left.values.map f = right.values.map f := by
  rw [values, values, cells_eq_map_entry left, cells_eq_map_entry right, alike.rows,
    alike.cols, List.map_map, List.map_map, List.map_map, List.map_map]
  exact List.map_congr_left fun place _ => same (alike.value _ _)

end Reading

/-! ## Text and numbers -/

section Written

variable [Coefficient K] {remarks : Prop} {left right : CellMatrix K}

theorem ReadAlike.rowText_eq
    (alike : left.ReadAlike remarks right)
    {place : Nat}
    (inside : place < left.rows) :
    rowText (left.row place) = rowText (right.row place) := by
  have rightInside : place < right.rows := by rwa [← alike.rows]
  have cells : (left.row place).map cellText = (right.row place).map cellText := by
    rw [row_eq_map_entry left inside, row_eq_map_entry right rightInside, alike.cols,
      List.map_map, List.map_map]
    apply List.map_congr_left
    intro col _
    rw [Function.comp, Function.comp, cellText_eq, cellText_eq]
    exact (alike.value place col).apply_eq Polynomial.text fun _ => rfl
  rw [rowText, rowText, cells]

theorem ReadAlike.lines_text
    (alike : left.ReadAlike remarks right) :
    left.lines.map rowText = right.lines.map rowText := by
  unfold lines
  rw [alike.cols]
  split
  · rfl
  · rw [List.map_map, List.map_map, ← alike.rows]
    exact List.map_congr_left fun place member =>
      alike.rowText_eq (List.mem_range.mp member)

theorem ReadAlike.text (alike : left.ReadAlike remarks right) : left.text = right.text := by
  rw [CellMatrix.text, CellMatrix.text, alike.lines_text, headerText, headerText, alike.rows,
    alike.cols, alike.label]

theorem scalars_eq_map_values [Add K] (matrix : CellMatrix K) :
    matrix.scalars = matrix.values.map coefficientSum := by
  rw [CellMatrix.scalars, values, List.map_map]
  apply List.map_congr_left
  intro cell _
  cases cell with
  | none => rfl
  | some p => rfl

theorem ReadAlike.scalars
    [Add K]
    (alike : left.ReadAlike remarks right) : left.scalars = right.scalars := by
  rw [scalars_eq_map_values, scalars_eq_map_values]
  exact alike.map_values fun same => same.apply_eq coefficientSum fun _ => rfl

/-- A matrix is recorded by its text. -/
theorem record_of_text_eq
    (same : left.text = right.text)
    (context : Context K)
    (operation : String)
    {α : Type}
    (value : α) :
    context.record operation left value = context.record operation right value := by
  unfold Context.record Trace.record Trace.entryText
  rw [same]

end Written

/-! ## Sums and products -/

section Sums

variable [Add K] [Mul K] [Coefficient K]
variable {remarks : Prop} {left left' right right' : CellMatrix K}

/-- The sum of the diagonal is the sum of its values. -/
theorem trace_eq_foldl_value (matrix : CellMatrix K) :
    matrix.trace = (List.range (min matrix.rows matrix.cols)).foldl
      (fun sum place => sum.accumulateScaled (matrix.value place place) Coefficient.one)
      .zero := by
  unfold trace value
  congr 1
  funext sum place
  cases matrix.entry place place with
  | none => rfl
  | some p => rfl

theorem ReadAlike.trace
    (alike : left.ReadAlike remarks left') : left.trace = left'.trace := by
  rw [trace_eq_foldl_value, trace_eq_foldl_value, alike.rows, alike.cols]
  congr 1
  funext sum place
  exact (alike.value place place).accumulateScaled sum Coefficient.one

/-- The sum of two cells has the sum of their values. -/
theorem getD_addCells (k : K) (left right : Cell K) :
    (addCells k left right).getD .zero =
      (zero.accumulateScaled (left.getD .zero) Coefficient.one).accumulateScaled
        (right.getD .zero) k := by
  cases left with
  | none =>
      cases right with
      | none => rfl
      | some q => rfl
  | some p =>
      cases right with
      | none => rfl
      | some q => rfl

theorem ReadAlike.addScaled
    (first : left.ReadAlike remarks left')
    (second : right.ReadAlike remarks right')
    (k : K) :
    EndAlike (ReadAlike True) (left.addScaled right k) (left'.addScaled right' k) := by
  unfold CellMatrix.addScaled
  rw [first.rows, first.cols, second.rows, second.cols]
  split
  · refine .ok (readAlike_ofFn _ _ fun row _ col _ => .of_eq ?_)
    rw [getD_addCells, getD_addCells]
    change (zero.accumulateScaled (left.value row col) Coefficient.one).accumulateScaled
      (right.value row col) k = _
    rw [(first.value row col).accumulateScaled, (second.value row col).accumulateScaled]
    rfl
  · exact .error _

/-- A product that is added is the product of the values. -/
theorem addProduct_eq (sum : Polynomial K) (pair : Cell K × Cell K) :
    addProduct sum pair = sum.accumulateScaled
      ((pair.1.getD .zero).multiply (pair.2.getD .zero)) Coefficient.one := by
  rcases pair with ⟨_ | p, _ | q⟩
  · rfl
  · rfl
  · exact (congrArg (fun r => sum.accumulateScaled r Coefficient.one)
      (multiply_zero_right p)).symm
  · rfl

/-- A cell of a product is the sum of the products of values. -/
theorem dotCells_row_column
    (left right : CellMatrix K)
    (inner : left.cols = right.rows)
    {row : Nat}
    (inside : row < left.rows)
    (col : Nat) :
    dotCells (left.row row) (right.column col) = (List.range left.cols).foldl
      (fun sum place => sum.accumulateScaled
        ((left.value row place).multiply (right.value place col)) Coefficient.one) .zero := by
  rw [dotCells_eq_foldl, row_eq_map_entry left inside, column, ← inner, List.zip_map',
    List.foldl_map]
  congr 1
  funext sum place
  exact addProduct_eq sum (left.entry row place, right.entry place col)

/-- Products of alike operands are the same, with the same notices. -/
theorem ReadAlike.multiply
    (first : left.ReadAlike remarks left')
    (second : right.ReadAlike remarks right')
    (rules : Option (RuleSet K)) :
    left.multiply rules right = left'.multiply rules right' := by
  unfold CellMatrix.multiply
  rw [first.rows, first.cols, second.rows, second.cols]
  split
  · rename_i inner
    congr 1
    funext _
    congr 1
    refine ofFn_congr fun row rowInside col _ => ?_
    have leftInside : row < left.rows := by rwa [first.rows]
    have leftInner : left.cols = right.rows := by rw [first.cols, second.rows, inner]
    rw [dotCells_row_column left right leftInner leftInside,
      dotCells_row_column left' right' inner rowInside, first.cols]
    congr 4
    funext sum place
    rw [(first.value row place).multiply (second.value place col)]
  · rfl

theorem ReadAlike.multiply_recorded
    (first : left.ReadAlike remarks left')
    (second : right.ReadAlike remarks right')
    (context : Context K) :
    context.multiply left right = context.multiply left' right' := by
  rw [Context.multiply, Context.multiply, first.multiply second]

theorem ReadAlike.multiplyPolynomial
    (alike : left.ReadAlike remarks left')
    (q : Polynomial K) :
    (left.multiplyPolynomial q).ReadAlike True (left'.multiplyPolynomial q) := by
  unfold CellMatrix.multiplyPolynomial
  split
  · rw [alike.rows, alike.cols]
    exact readAlike_ofFn _ _ fun _ _ _ _ => .of_eq rfl
  · exact alike.map_of_ignores (multiply_zero_left q) fun _ => rfl

end Sums

/-! ## Rewriting -/

section Rewriting

variable {remarks : Prop} {left right : CellMatrix K}

/-- What is noticed of the cells that are not empty is what is noticed of all values, if
nothing is noticed of zero. -/
theorem flatMap_present
    {β : Type} {f : Polynomial K → List β}
    (zero : f .zero = [])
    (matrix : CellMatrix K) :
    (matrix.cells.filterMap id).flatMap f = (matrix.values.map f).flatten := by
  rw [values]
  induction matrix.cells with
  | nil => rfl
  | cons cell rest inductionHypothesis =>
      rw [List.map_cons, List.map_cons, List.flatten_cons, ← inductionHypothesis]
      cases cell with
      | none =>
          rw [Option.getD_none, zero]
          rfl
      | some p => rfl

theorem countP_present
    {f : Polynomial K → Bool}
    (zero : f .zero = false)
    (matrix : CellMatrix K) :
    (matrix.cells.filterMap id).countP f = (matrix.values.map f).countP id := by
  rw [values, List.countP_filterMap, List.countP_map, List.countP_map]
  congr 1
  funext cell
  cases cell with
  | none => exact zero.symm
  | some p => rfl

variable [Add K] [Mul K] [Coefficient K]

theorem ReadAlike.substitute
    (alike : left.ReadAlike remarks right)
    (rules : RuleSet K) :
    (left.substitute rules).value.ReadAlike remarks (right.substitute rules).value := by
  have unchanged : (rules.applyTo zero).value = .zero := by
    rw [RuleSet.applyTo_zero]
    rfl
  have mapped := alike.map unchanged fun same => RuleSet.value_applyTo_of_same same rules
  exact ⟨mapped.rows, mapped.cols, alike.label, mapped.value⟩

/-- No rule is turned down for an empty cell, and none for a zero. -/
theorem ReadAlike.notices_substitute
    (alike : left.ReadAlike remarks right)
    (rules : RuleSet K) :
    (left.substitute rules).notices = (right.substitute rules).notices := by
  have noNotices : (rules.applyTo zero).notices = [] := by
    rw [RuleSet.applyTo_zero]
    rfl
  have unchanged : (rules.applyTo? zero).value.isSome = false := by
    rw [RuleSet.applyTo?, RuleSet.applyRules?_zero]
    rfl
  rw [CellMatrix.substitute, CellMatrix.substitute]
  dsimp only
  rw [flatMap_present noNotices left, flatMap_present noNotices right,
    countP_present unchanged left, countP_present unchanged right,
    alike.map_values fun same => RuleSet.notices_applyTo_of_same same rules,
    alike.map_values fun same =>
      congrArg (fun changed => changed.value.isSome) (RuleSet.applyTo?_of_same same rules)]

end Rewriting

/-! ## Determinants -/

section Determinants

variable [Add K] [Neg K] [Mul K] [Coefficient K]
variable {remarks : Prop} {left right : CellMatrix K}

/-- A partial sum of an expansion with one more column, nothing where its cell is zero. -/
def takeColumn
    (rules : Option (RuleSet K))
    (cell : Polynomial K)
    (minor : Noted (Polynomial K))
    (sum : Polynomial K)
    (col : Nat) : Noted (Polynomial K) :=
  if cell.isZero then pure sum
  else do
    let minor ← minor
    simplify rules
      (sum.addScaled (cell.multiply minor) (Coefficient.sign (col % 2 == 1)))

theorem expansion_eq_foldlM_value
    (rules : Option (RuleSet K))
    (size : Nat)
    (matrix : CellMatrix K) :
    expansion rules (size + 3) matrix =
      (List.range (size + 3)).foldlM
        (fun sum col => takeColumn rules (matrix.value 0 col)
          (expansion rules (size + 2) (matrix.minor 0 col)) sum col) .zero := by
  rw [expansion]
  congr 1
  funext sum col
  rw [value]
  cases matrix.entry 0 col with
  | none => rfl
  | some cell => rfl

theorem takeColumn_of_same
    {p q : Polynomial K}
    (same : p.Same remarks q)
    (rules : Option (RuleSet K))
    (minor : Noted (Polynomial K))
    (sum : Polynomial K)
    (col : Nat) : takeColumn rules p minor sum col = takeColumn rules q minor sum col :=
  same.apply_eq (fun p => takeColumn rules p minor sum col) fun _ => rfl

/-- From two rows on a determinant is built anew, so alike matrices have the same one. -/
theorem ReadAlike.expansion_eq
    (alike : left.ReadAlike remarks right)
    (rules : Option (RuleSet K))
    (size : Nat) :
    expansion rules (size + 2) left = expansion rules (size + 2) right := by
  induction size generalizing left right with
  | zero =>
      rw [CellMatrix.expansion, CellMatrix.expansion,
        (alike.value 0 0).multiply (alike.value 1 1),
        (alike.value 0 1).multiply (alike.value 1 0)]
  | succ size inductionHypothesis =>
      rw [expansion_eq_foldlM_value, expansion_eq_foldlM_value]
      congr 1
      funext sum col
      rw [inductionHypothesis (alike.minor 0 col), takeColumn_of_same (alike.value 0 col)]

/-- The determinant of a single cell is its value with its remark. -/
theorem ReadAlike.value_expansion
    (alike : left.ReadAlike remarks right)
    (rules : Option (RuleSet K))
    (size : Nat) :
    (expansion rules size left).value.Same remarks (expansion rules size right).value := by
  match size with
  | 0 => exact .of_eq rfl
  | 1 => exact alike.value 0 0
  | size + 2 => exact .of_eq (congrArg Noted.value (alike.expansion_eq rules size))

theorem ReadAlike.notices_expansion
    (alike : left.ReadAlike remarks right)
    (rules : Option (RuleSet K))
    (size : Nat) :
    (expansion rules size left).notices = (expansion rules size right).notices := by
  match size with
  | 0 => rfl
  | 1 => rfl
  | size + 2 => exact congrArg Noted.notices (alike.expansion_eq rules size)

theorem ReadAlike.determinant
    (alike : left.ReadAlike remarks right)
    (rules : Option (RuleSet K)) :
    AttemptsAlike (Same remarks) (left.determinant rules) (right.determinant rules) := by
  have square : left.isSquare = right.isSquare := by
    rw [isSquare, isSquare, alike.rows, alike.cols]
  rw [CellMatrix.determinant, CellMatrix.determinant, square, alike.rows, alike.cols]
  by_cases isSquare : right.isSquare = true
  · rw [if_pos isSquare, if_pos isSquare]
    constructor
    · rw [Attempt.result_bind, Attempt.result_bind]
      exact .ok (alike.value_expansion rules right.rows)
    · rw [Attempt.notices_bind_of_result (Attempt.result_note _),
        Attempt.notices_bind_of_result (Attempt.result_note _), Attempt.notices_ofNoted,
        Attempt.notices_ofNoted, alike.notices_expansion]
  · rw [if_neg isSquare, if_neg isSquare]
    exact ⟨.error _, rfl⟩

end Determinants

/-! ## Operations in a context -/

/-- Two results are the same up to a remark, and the same was recorded. -/
structure RecordedAlike (remarks : Prop) (left right : Recorded K (Polynomial K)) :
    Prop where
  value : left.value.Same remarks right.value
  context : left.context = right.context
  delivered : left.delivered = right.delivered

section Contexts

variable [Coefficient K] {remarks : Prop} {left left' right right' : CellMatrix K}

theorem ReadAlike.recorded
    (alike : left.ReadAlike remarks right)
    (context : Context K)
    {p q : Polynomial K}
    (same : p.Same remarks q) :
    RecordedAlike remarks (context.record ("determinant = " ++ p.text) left p)
      (context.record ("determinant = " ++ q.text) right q) := by
  rw [record_of_text_eq alike.text, same.apply_eq Polynomial.text fun _ => rfl]
  unfold Context.record
  cases context.trace with
  | none => exact ⟨same, rfl, rfl⟩
  | some trace => exact ⟨same, rfl, rfl⟩

variable [Add K] [Neg K] [Mul K]

theorem ReadAlike.determinant_recorded
    (alike : left.ReadAlike remarks right)
    (context : Context K) :
    AttemptsAlike (RecordedAlike remarks) (context.determinant left)
      (context.determinant right) :=
  (alike.determinant context.rules).bind_pure (alike.recorded context)

/-- Two pairs of operands are interchangeable: operations on the one pair fail as those on
the other do, or give results that read alike, with the same remarks where they are built
anew, and notice and record the same. -/
structure Interchangeable
    [Div K]
    (remarks : Prop)
    (context : Context K)
    (left left' right right' : CellMatrix K) : Prop where
  /-- Cells are read alike. -/
  get : ∀ row col, EndAlike (Same remarks) (left.get row col) (left'.get row col)
  /-- Products in the context are the same. -/
  multiply : context.multiply left right = context.multiply left' right'
  /-- Sums with a multiple of the second operand read alike. -/
  addScaled : ∀ k,
    EndAlike (ReadAlike True) (left.addScaled right k) (left'.addScaled right' k)
  /-- Multiples by a number read alike. -/
  scale : ∀ k, (left.scale k).ReadAlike True (left'.scale k)
  /-- Multiples by a scaled monomial read alike. -/
  scaleTerm : ∀ k monomial,
    (left.scaleTerm k monomial).ReadAlike True (left'.scaleTerm k monomial)
  /-- Multiples by a polynomial read alike. -/
  multiplyPolynomial : ∀ q,
    (left.multiplyPolynomial q).ReadAlike True (left'.multiplyPolynomial q)
  /-- Transposed operands read alike. -/
  transpose : left.transpose.ReadAlike remarks left'.transpose
  /-- Minors read alike. -/
  minorAt : ∀ row col,
    EndAlike (ReadAlike remarks) (left.minorAt row col) (left'.minorAt row col)
  /-- Sums of the diagonal are the same. -/
  trace : left.trace = left'.trace
  /-- Determinants in the context are the same. -/
  determinant : AttemptsAlike (RecordedAlike remarks) (context.determinant left)
    (context.determinant left')
  /-- Derivatives read alike. -/
  derive : ∀ symbol, (left.derive symbol).ReadAlike True (left'.derive symbol)
  /-- Antiderivatives read alike. -/
  integrate : ∀ symbol, (left.integrate symbol).ReadAlike True (left'.integrate symbol)
  /-- Rewritten operands read alike. -/
  substitute : ∀ rules,
    (left.substitute rules).value.ReadAlike remarks (left'.substitute rules).value
  /-- Rewriting notices the same. -/
  notices_substitute : ∀ rules,
    (left.substitute rules).notices = (left'.substitute rules).notices
  /-- The texts are the same. -/
  text : left.text = left'.text
  /-- The sums of coefficients are the same. -/
  scalars : left.scalars = left'.scalars

/-- Operands that read alike are interchangeable: no operation tells an empty cell from a
zero polynomial. -/
theorem interchangeable
    [Div K]
    (first : left.ReadAlike remarks left')
    (second : right.ReadAlike remarks right')
    (context : Context K) :
    Interchangeable remarks context left left' right right' where
  get := first.get
  multiply := first.multiply_recorded second context
  addScaled := first.addScaled second
  scale k := first.map_of_ignores (multiplyTerm_zero .unit k) fun _ => rfl
  scaleTerm k monomial := first.map_of_ignores (multiplyTerm_zero monomial k) fun _ => rfl
  multiplyPolynomial := first.multiplyPolynomial
  transpose := first.transpose
  minorAt := first.minorAt
  trace := first.trace
  determinant := first.determinant_recorded context
  derive symbol := first.map_of_ignores (derive_zero symbol) fun _ => rfl
  integrate symbol := first.map_of_ignores (integrate_zero symbol) fun _ => rfl
  substitute := first.substitute
  notices_substitute := first.notices_substitute
  text := first.text
  scalars := first.scalars

end Contexts

/-- Matrices with empty cells beside their diagonals, with zeros there, and with zeros under
a remark, in a context with a rule and a trace. -/
theorem interchangeable_hollow :
    let x : Polynomial Float := .ofTerm (.ofSymbols ["x"]) 1
    let around := fun zero : Cell Float =>
      ofFn 3 3 fun row col => if row = col then some x else zero
    let remarked : Polynomial Float := .withNote .zero "none"
    let rule : Rule Float := ⟨.ofSymbols ["x", "x"], .one⟩
    let context : Context Float := ⟨some ⟨.ifReducing, [rule]⟩, some .standard⟩
    (around none).entry 0 1 = none ∧ (around (some .zero)).entry 0 1 = some .zero ∧
      Interchangeable True context (around none) (around (some .zero))
        (around (some .zero)) (around none) ∧
      Interchangeable False context (around (some remarked)) (around none)
        (around (some .zero)) (around (some remarked)) := by
  intro x around remarked rule context
  have alike : ∀ {remarks : Prop} {before after : Cell Float},
      (before.getD .zero).Same remarks (after.getD .zero) →
        (around before).ReadAlike remarks (around after) := by
    intro remarks before after same
    refine readAlike_ofFn 3 3 fun row _ col _ => ?_
    split
    · exact .of_eq rfl
    · exact same
  have filled : (around none).ReadAlike True (around (some .zero)) := alike (.of_eq rfl)
  have emptied : (around (some .zero)).ReadAlike True (around none) := alike (.of_eq rfl)
  have unremarked : (around (some remarked)).ReadAlike False (around none) :=
    alike ⟨rfl, False.elim⟩
  have marked : (around (some .zero)).ReadAlike False (around (some remarked)) :=
    alike ⟨rfl, False.elim⟩
  exact ⟨rfl, rfl, interchangeable filled emptied context,
    interchangeable unremarked marked context⟩

end CellMatrix
end PolyMatrix

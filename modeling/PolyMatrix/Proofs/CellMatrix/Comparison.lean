import PolyMatrix.Proofs.CellMatrix.Positions
import PolyMatrix.Proofs.Coefficient.Binary64
import PolyMatrix.Proofs.Polynomial.Coefficients
import PolyMatrix.Proofs.Polynomial.Construction

/-!
# Empty cells in comparisons

A polynomial is compared with a missing one by asking whether it stores anything, and with
the zero polynomial by asking whether its coefficients are within the tolerance of zero.
What is stored is not negligible, so the answers differ only where every coefficient lies
exactly at the tolerance, which is where a coefficient is neither negligible nor told apart
from zero.  Writing zeros into the empty cells of a matrix therefore changes a comparison
exactly if such a polynomial stands opposite to one of them.
-/

namespace PolyMatrix

namespace Polynomial

/-! ## The zero polynomial and none -/

/-- There are monomials, and the absolute value of each coefficient is the tolerance. -/
def IsMarginal (p : Polynomial Float) : Prop :=
  p.terms ≠ [] ∧ ∀ term ∈ p.terms, term.2.abs = Binary64.epsilon

variable {p z : Polynomial Float}

/-- Zero compares with polynomials as they compare with zero. -/
theorem agrees_comm_of_isZero (isZero : z.isZero = true) : z.agrees p = p.agrees z := by
  have noTerms : z.terms = [] := List.isEmpty_iff.mp isZero
  simp only [agrees, isWithin, monomials, coefficient, noTerms, List.map_nil,
    List.nil_append, List.append_nil, List.lookup_nil, Option.getD_none,
    Binary64.isWithin_zero_comm]

/-- A canonical polynomial counts as equal to zero if no coefficient is off the tolerance. -/
theorem Canonical.agrees_zero_iff
    (canonical : p.Canonical)
    (isZero : z.isZero = true) :
    p.agrees z = true ↔ ∀ term ∈ p.terms, term.2.abs = Binary64.epsilon := by
  have noTerms : z.terms = [] := List.isEmpty_iff.mp isZero
  rw [agrees, isWithin, List.all_eq_true, monomials, monomials, noTerms, List.map_nil,
    List.append_nil, List.forall_mem_map]
  refine forall₂_congr fun term member => ?_
  rw [canonical.coefficient_of_mem member, coefficient, noTerms]
  exact Binary64.isWithin_zero_iff (canonical.significant term member)

/-- Of the polynomials without a coefficient off the tolerance only zero stores nothing. -/
theorem isZero_iff_not_isMarginal :
    p.isZero = true ↔
      (∀ term ∈ p.terms, term.2.abs = Binary64.epsilon) ∧ ¬p.IsMarginal := by
  constructor
  · intro isZero
    have noTerms : p.terms = [] := List.isEmpty_iff.mp isZero
    exact ⟨by simp [noTerms], fun marginal => marginal.1 noTerms⟩
  · rintro ⟨atTolerance, notMarginal⟩
    by_contra stores
    exact notMarginal ⟨fun noTerms => stores (List.isEmpty_iff.mpr noTerms), atTolerance⟩

/-- A canonical polynomial counts as equal to none if it counts as equal to zero and is not
marginal. -/
theorem Canonical.agreesWith?_none_iff (canonical : p.Canonical) :
    p.agreesWith? none = true ↔ p.agrees .zero = true ∧ ¬p.IsMarginal := by
  rw [canonical.agrees_zero_iff rfl]
  exact isZero_iff_not_isMarginal

end Polynomial

namespace CellMatrix

open PolyMatrix.Polynomial

/-! ## Cells -/

section Cells

variable {cell : Cell Float} {z : Polynomial Float}

theorem cellsAgree_none_comm (cell : Cell Float) :
    cellsAgree cell none = cellsAgree none cell := by
  cases cell with
  | none => rfl
  | some p => rfl

theorem cellsAgree_zero_comm (isZero : z.isZero = true) (cell : Cell Float) :
    cellsAgree cell (some z) = cellsAgree (some z) cell := by
  cases cell with
  | none => rfl
  | some p => exact (agrees_comm_of_isZero isZero).symm

/-- An empty cell counts as equal to what an explicit zero counts as equal to, except for
marginal polynomials. -/
theorem cellsAgree_none_iff
    (canonical : ∀ p ∈ cell, p.Canonical)
    (isZero : z.isZero = true) :
    cellsAgree none cell = true ↔
      cellsAgree (some z) cell = true ∧ ¬∃ p ∈ cell, p.IsMarginal := by
  cases cell with
  | none => simpa [cellsAgree, agreesWith?] using isZero
  | some p =>
      have own : p.Canonical := canonical p rfl
      change p.isZero = true ↔ z.agrees p = true ∧ _
      rw [agrees_comm_of_isZero isZero, own.agrees_zero_iff isZero,
        isZero_iff_not_isMarginal]
      simp

end Cells

/-! ## Matrices -/

/-- The filled matrix is the other one with explicit zeros in some of its empty cells. -/
structure Fills {K : Type} (filled matrix : CellMatrix K) : Prop where
  /-- The shapes have as many rows. -/
  rows : filled.rows = matrix.rows
  /-- The shapes have as many columns. -/
  cols : filled.cols = matrix.cols
  /-- Every cell is as it was, or it was empty and is an explicit zero now. -/
  cells : ∀ row col, filled.entry row col = matrix.entry row col ∨
    matrix.entry row col = none ∧ ∃ z, filled.entry row col = some z ∧ z.isZero = true

theorem fills_ofFn
    {K : Type} {before after : Nat → Nat → Cell K}
    (rows cols : Nat)
    (cells : ∀ row col, after row col = before row col ∨
      before row col = none ∧ ∃ z, after row col = some z ∧ z.isZero = true) :
    (ofFn rows cols after).Fills (ofFn rows cols before) where
  rows := rfl
  cols := rfl
  cells row col := by
    by_cases inside : row < rows ∧ col < cols
    · rw [entry_ofFn after inside.1 inside.2, entry_ofFn before inside.1 inside.2]
      exact cells row col
    · exact .inl (by rw [entry_ofFn_outside after inside, entry_ofFn_outside before inside])

/-- A marginal polynomial of the other matrix stands opposite to a filled cell. -/
def MeetsMarginal (filled matrix other : CellMatrix Float) (row col : Nat) : Prop :=
  matrix.entry row col = none ∧ filled.entry row col ≠ none ∧
    ∃ p ∈ other.entry row col, p.IsMarginal

section Filled

variable {filled matrix other : CellMatrix Float}

theorem Fills.inside_of_ne_none
    (fills : filled.Fills matrix)
    {row col : Nat}
    (present : filled.entry row col ≠ none) : row < matrix.rows ∧ col < matrix.cols := by
  rw [← fills.rows, ← fills.cols]
  by_contra outside
  exact present (entry_of_not_contains filled outside)

theorem Fills.cellsAgree_left_iff
    (fills : filled.Fills matrix)
    (canonical : ∀ cell ∈ other.cells, ∀ p ∈ cell, p.Canonical)
    (row col : Nat) :
    cellsAgree (matrix.entry row col) (other.entry row col) = true ↔
      cellsAgree (filled.entry row col) (other.entry row col) = true ∧
        ¬MeetsMarginal filled matrix other row col := by
  rcases fills.cells row col with kept | ⟨empty, z, stored, isZero⟩
  · rw [kept, MeetsMarginal, kept]
    tauto
  · rw [MeetsMarginal, empty, stored,
      cellsAgree_none_iff (canonical_entry canonical row col) isZero]
    simp

theorem Fills.cellsAgree_right_iff
    (fills : filled.Fills matrix)
    (canonical : ∀ cell ∈ other.cells, ∀ p ∈ cell, p.Canonical)
    (row col : Nat) :
    cellsAgree (other.entry row col) (matrix.entry row col) = true ↔
      cellsAgree (other.entry row col) (filled.entry row col) = true ∧
        ¬MeetsMarginal filled matrix other row col := by
  rcases fills.cells row col with kept | ⟨empty, z, stored, isZero⟩
  · rw [kept, MeetsMarginal, kept]
    tauto
  · have onLeft := fills.cellsAgree_left_iff canonical row col
    rw [empty, stored] at onLeft ⊢
    rw [cellsAgree_none_comm, cellsAgree_zero_comm isZero]
    exact onLeft

/-- What is lost by filling at some position is lost by filling somewhere. -/
theorem Fills.forall_iff
    (fills : filled.Fills matrix)
    {alike alikeFilled : Nat → Nat → Prop}
    (position : ∀ row col, alike row col ↔
      alikeFilled row col ∧ ¬MeetsMarginal filled matrix other row col) :
    (∀ row < matrix.rows, ∀ col < matrix.cols, alike row col) ↔
      (∀ row < matrix.rows, ∀ col < matrix.cols, alikeFilled row col) ∧
        ¬∃ row col, MeetsMarginal filled matrix other row col := by
  constructor
  · intro holds
    refine ⟨fun row rowInside col colInside =>
      ((position row col).mp (holds row rowInside col colInside)).1, ?_⟩
    rintro ⟨row, col, meets⟩
    have inside := fills.inside_of_ne_none meets.2.1
    exact ((position row col).mp (holds row inside.1 col inside.2)).2 meets
  · rintro ⟨holds, noneMeets⟩ row rowInside col colInside
    exact (position row col).mpr
      ⟨holds row rowInside col colInside, fun meets => noneMeets ⟨row, col, meets⟩⟩

/-- How a matrix with empty cells and one with zeros written into them compare with others,
and a missing polynomial with the zero polynomial. -/
structure ComparesAsFilled
    (filled matrix other : CellMatrix Float)
    (p : Polynomial Float) : Prop where
  /-- On the left of a comparison zeros may be left out unless one meets a marginal
  polynomial. -/
  left : matrix.agrees other = true ↔ filled.agrees other = true ∧
    ¬∃ row col, MeetsMarginal filled matrix other row col
  /-- On the right likewise. -/
  right : other.agrees matrix = true ↔ other.agrees filled = true ∧
    ¬∃ row col, MeetsMarginal filled matrix other row col
  /-- What counts as equal to none counts as equal to zero and is not marginal. -/
  missing : p.agreesWith? none = true ↔ p.agrees .zero = true ∧ ¬p.IsMarginal

/-- Empty cells compare as explicit zeros do, and a missing polynomial as the zero
polynomial, except with polynomials whose coefficients lie exactly at the tolerance. -/
theorem comparesAsFilled
    (fills : filled.Fills matrix)
    (canonical : ∀ cell ∈ other.cells, ∀ p ∈ cell, p.Canonical)
    {p : Polynomial Float}
    (canonicalP : p.Canonical) : ComparesAsFilled filled matrix other p where
  left := by
    rw [agrees_iff, agrees_iff, fills.rows, fills.cols, and_assoc, and_assoc]
    exact and_congr_right fun _ => and_congr_right fun _ =>
      fills.forall_iff (fills.cellsAgree_left_iff canonical)
  right := by
    rw [agrees_iff, agrees_iff, fills.rows, fills.cols, and_assoc, and_assoc]
    refine and_congr_right fun rows => and_congr_right fun cols => ?_
    rw [rows, cols]
    exact fills.forall_iff (fills.cellsAgree_right_iff canonical)
  missing := canonicalP.agreesWith?_none_iff

end Filled

/-- The comparisons of a matrix with one empty cell, with a marginal polynomial and with a
zero opposite to it. -/
theorem comparesAsFilled_line :
    let x : Polynomial Float := .ofTerm (.ofSymbols ["x"]) 1
    let marginal : Polynomial Float := .ofTerm (.ofSymbols ["x"]) Binary64.epsilon
    let line := fun cell : Cell Float =>
      ofFn 1 2 fun _ col => if col = 0 then cell else some x
    (line (some .zero)).Fills (line none) ∧ marginal.Canonical ∧
      ComparesAsFilled (line (some .zero)) (line none) (line (some marginal)) marginal ∧
      ComparesAsFilled (line (some .zero)) (line none) (line none) x := by
  intro x marginal line
  have fills : (line (some .zero)).Fills (line none) := by
    refine fills_ofFn 1 2 fun row col => ?_
    by_cases first : col = 0
    · exact .inr ⟨if_pos first, .zero, if_pos first, rfl⟩
    · exact .inl (by rw [if_neg first, if_neg first])
  have canonicalX : x.Canonical := canonical_ofTerm _ _
  have canonicalMarginal : marginal.Canonical := canonical_ofTerm _ _
  refine ⟨fills, canonicalMarginal, comparesAsFilled fills ?_ canonicalMarginal,
    comparesAsFilled fills ?_ canonicalX⟩
  · have cells : (line (some marginal)).cells = [some marginal, some x] := rfl
    rw [cells]
    simp [canonicalX, canonicalMarginal]
  · have cells : (line none).cells = [none, some x] := rfl
    rw [cells]
    simp [canonicalX]

/-- A polynomial whose only coefficient is the tolerance counts as equal to the zero
polynomial but not to none, and to a matrix of a zero but not to one that is empty. -/
theorem agrees_zero_not_none :
    let marginal : Polynomial Float := .ofTerm (.ofSymbols ["x"]) Binary64.epsilon
    let single := fun p : Polynomial Float => ofFn 1 1 fun _ _ => some p
    marginal.terms = [(.ofSymbols ["x"], Binary64.epsilon)] ∧
      Binary64.epsilon.isFinite = true ∧
      marginal.agrees .zero = true ∧ marginal.agreesWith? none = false ∧
      (single .zero).agrees (single marginal) = true ∧
      (empty 1 1).agrees (single marginal) = false ∧
      (single marginal).agrees (single .zero) = true ∧
      (single marginal).agrees (empty 1 1) = false := by
  intro marginal single
  refine ⟨rfl, ?_⟩
  decide +kernel

end CellMatrix
end PolyMatrix

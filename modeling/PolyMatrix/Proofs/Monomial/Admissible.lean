import PolyMatrix.Monomial.Order

/-!
# Monomial order is admissible

Monomial order is total, the symbols decide which monomials it takes for equal, and
multiplying both sides by a monomial keeps it.  A proper multiple comes in front of what
it is a multiple of, so the unit comes last.

The ties are the point: among monomials of one degree the sorted symbols decide, and
multiplying puts new symbols into both lists, at different places.  One symbol at a time
moves the first difference, but does not turn it around.
-/

namespace PolyMatrix
namespace Monomial

/-! ## Multiplication and precedence -/

/-- Inserting a symbol into lists of one length keeps their lexicographic order. -/
theorem insertInto_lt_insertInto
    (symbol : String)
    {left right : List String}
    (sameLength : left.length = right.length)
    (below : left < right) : insertInto symbol left < insertInto symbol right := by
  induction left generalizing right with
  | nil =>
      rw [List.length_nil, eq_comm, List.length_eq_zero_iff] at sameLength
      rw [sameLength] at below
      cases below
  | cons head rest inductionHypothesis =>
      cases right with
      | nil => cases below
      | cons other others =>
          rw [List.cons_lt_cons_iff] at below
          unfold insertInto
          rcases below with smaller | ⟨rfl, below⟩
          · by_cases inFront : symbol ≤ head
            · -- The symbol leads both lists, and the old heads decide behind it.
              have inFrontToo : symbol ≤ other :=
                String.le_trans inFront (Std.le_of_lt smaller)
              rw [if_pos inFront, if_pos inFrontToo, List.cons_lt_cons_iff]
              exact .inr ⟨rfl, List.cons_lt_cons_iff.mpr (.inl smaller)⟩
            · rw [if_neg inFront]
              split
              · exact List.cons_lt_cons_iff.mpr (.inl (Std.not_le.mp inFront))
              · exact List.cons_lt_cons_iff.mpr (.inl smaller)
          · split
            · exact List.cons_lt_cons_iff.mpr
                (.inr ⟨rfl, List.cons_lt_cons_iff.mpr (.inr ⟨rfl, below⟩)⟩)
            · exact List.cons_lt_cons_iff.mpr
                (.inr ⟨rfl, inductionHypothesis (Nat.succ.inj sameLength) below⟩)

theorem precedes_insert
    {left right : Monomial}
    (before : left.precedes right = true)
    (symbol : String) :
    (left.insert symbol).precedes (right.insert symbol) = true := by
  rw [precedes_iff] at *
  rw [degree_insert, degree_insert]
  rcases before with higher | ⟨sameDegree, greater⟩
  · exact .inl (Nat.succ_lt_succ higher)
  · exact .inr ⟨congrArg _ sameDegree,
      insertInto_lt_insertInto symbol sameDegree.symm greater⟩

/-- Multiplying both sides by one monomial keeps precedence. -/
theorem precedes_multiply
    {left right : Monomial}
    (before : left.precedes right = true)
    (factor : Monomial) :
    (left.multiply factor).precedes (right.multiply factor) = true := by
  unfold multiply
  induction factor.symbols with
  | nil => exact before
  | cons symbol rest inductionHypothesis =>
      exact precedes_insert inductionHypothesis symbol

@[simp] theorem degree_multiply (left right : Monomial) :
    (left.multiply right).degree = left.degree + right.degree := by
  unfold multiply
  rw [degree.eq_def right]
  induction right.symbols with
  | nil => rfl
  | cons symbol rest inductionHypothesis =>
      rw [List.foldr_cons, degree_insert, inductionHypothesis, List.length_cons,
        Nat.add_assoc]

theorem degree_pos
    {monomial : Monomial}
    (notUnit : monomial ≠ unit) : 0 < monomial.degree := by
  rw [degree, List.length_pos_iff]
  exact fun noSymbols => notUnit (ext noSymbols)

/-- A proper multiple precedes what it is a multiple of. -/
theorem precedes_of_multiple
    (monomial : Monomial)
    {factor : Monomial}
    (notUnit : factor ≠ unit) :
    (monomial.multiply factor).precedes monomial = true := by
  rw [precedes_iff, degree_multiply]
  exact .inl (Nat.lt_add_of_pos_right (degree_pos notUnit))

/-! ## Comparison -/

theorem order_of_precedes
    {left right : Monomial}
    (before : left.precedes right = true) : left.order right = .lt := by
  rw [order, if_pos before]

@[simp] theorem order_self (monomial : Monomial) : monomial.order monomial = .eq := by
  simp [order]

theorem order_of_precedes_left
    {left right : Monomial}
    (after : right.precedes left = true) : left.order right = .gt := by
  have different : left ≠ right := by
    rintro rfl
    simp at after
  have notBefore : ¬left.precedes right = true := by
    simp [precedes_asymm after]
  rw [order, if_neg notBefore, if_neg different]

/-- One of two monomials precedes the other, or they are the same. -/
theorem precedes_or_eq_or_precedes (left right : Monomial) :
    left.precedes right = true ∨ left = right ∨ right.precedes left = true := by
  by_cases same : left = right
  · exact .inr (.inl same)
  · cases before : left.precedes right with
    | true => exact .inl rfl
    | false => exact .inr (.inr (precedes_of_ne same before))

/-- One symbol more on both sides shows no precedence that was not there. -/
theorem precedes_of_precedes_insert
    {left right : Monomial} {symbol : String}
    (before : (left.insert symbol).precedes (right.insert symbol) = true) :
    left.precedes right = true := by
  rcases precedes_or_eq_or_precedes left right with inFront | rfl | behind
  · exact inFront
  · simp at before
  · rw [precedes_asymm (precedes_insert behind symbol)] at before
    cases before

theorem isLE_order_iff (left right : Monomial) :
    (left.order right).isLE = true ↔ left.precedes right = true ∨ left = right := by
  rcases precedes_or_eq_or_precedes left right with before | rfl | after
  · simp [order_of_precedes before, before]
  · simp
  · rw [order_of_precedes_left after, precedes_asymm after]
    refine iff_of_false (by decide) ?_
    rintro (before | rfl)
    · cases before
    · simp at after

/-- Comparing monomials decides a total order. -/
instance : Std.TransCmp order where
  eq_swap {left right} := by
    rcases precedes_or_eq_or_precedes left right with before | rfl | after
    · rw [order_of_precedes before, order_of_precedes_left before]
      rfl
    · rw [order_self]
      rfl
    · rw [order_of_precedes_left after, order_of_precedes after]
      rfl
  isLE_trans {first second third} below above := by
    rw [isLE_order_iff] at *
    rcases below with before | rfl
    · rcases above with behind | rfl
      · exact .inl (precedes_trans before behind)
      · exact .inl before
    · exact above

/-- Monomials compare as equal exactly if they have the same symbols, each as often. -/
theorem order_eq_eq_iff_perm (left right : Monomial) :
    left.order right = .eq ↔ left.symbols.Perm right.symbols := by
  constructor
  · intro equal
    rcases precedes_or_eq_or_precedes left right with before | rfl | after
    · rw [order_of_precedes before] at equal
      cases equal
    · exact .refl _
    · rw [order_of_precedes_left after] at equal
      cases equal
  · intro perm
    rw [eq_of_perm perm, order_self]

theorem order_eq_lt_iff (left right : Monomial) :
    left.order right = .lt ↔ left.precedes right = true := by
  constructor
  · intro less
    rcases precedes_or_eq_or_precedes left right with before | rfl | after
    · exact before
    · rw [order_self] at less
      cases less
    · rw [order_of_precedes_left after] at less
      cases less
  · exact order_of_precedes

/-! ## Admissible comparisons -/

/-- What a comparison of monomials needs to put the leading one of a product in front. -/
structure IsAdmissible (compare : Monomial → Monomial → Ordering) : Prop where
  total : Std.TransCmp compare
  /-- Only the symbols count, and how often each of them occurs. -/
  eq_iff_perm : ∀ left right,
    compare left right = .eq ↔ left.symbols.Perm right.symbols
  multiply : ∀ left right factor, compare left right = .lt →
    compare (left.multiply factor) (right.multiply factor) = .lt
  /-- A proper multiple comes in front. -/
  multiple : ∀ monomial factor, factor ≠ unit →
    compare (monomial.multiply factor) monomial = .lt
  unit_last : ∀ monomial, monomial ≠ unit → compare monomial unit = .lt

/-- Monomial order is an admissible order: total, compatible with multiplication, with the
unit behind everything else. -/
theorem isAdmissible_order : IsAdmissible order where
  total := inferInstance
  eq_iff_perm := order_eq_eq_iff_perm
  multiply left right factor less := by
    rw [order_eq_lt_iff] at *
    exact precedes_multiply less factor
  multiple monomial _ notUnit := order_of_precedes (precedes_of_multiple monomial notUnit)
  unit_last monomial notUnit := by
    apply order_of_precedes
    rw [precedes_iff]
    exact .inl (degree_pos notUnit)

/-- The symbol `b` moves the first difference of `a*c` and `a*a`, and keeps their order. -/
example :
    (ofSymbols ["a", "c"]).order (ofSymbols ["a", "a"]) = .lt ∧
      (ofSymbols ["a", "c", "b"]).order (ofSymbols ["a", "a", "b"]) = .lt := by
  decide

end Monomial
end PolyMatrix

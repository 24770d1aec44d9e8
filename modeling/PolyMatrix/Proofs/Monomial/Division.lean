import PolyMatrix.Proofs.Monomial.Exponents

/-!
# Monomial division inverts multiplication

A monomial is a multiset of symbols, held as an ascending list.  Multiplication puts the
symbols of its operands together, and division takes the symbols of the divisor out of those
of the dividend one by one.  So a quotient exists exactly if no symbol occurs more often in
the divisor, and it is what the divisor has to be multiplied with.
-/

namespace PolyMatrix
namespace Monomial

/-! ## Multiplication -/

theorem multiply_assoc (left right other : Monomial) :
    (left.multiply right).multiply other = left.multiply (right.multiply other) := by
  apply exponents_injective
  simp only [exponents_multiply]
  exact add_assoc _ _ _

@[simp] theorem multiply_unit (monomial : Monomial) : monomial.multiply unit = monomial :=
  rfl

@[simp] theorem unit_multiply (monomial : Monomial) : unit.multiply monomial = monomial := by
  rw [multiply_comm, multiply_unit]

theorem symbols_multiply_perm (left right : Monomial) :
    (left.multiply right).symbols.Perm (left.symbols ++ right.symbols) := by
  rw [List.perm_iff_count]
  intro symbol
  have counts := DFunLike.congr_fun (exponents_multiply left right) symbol
  rw [Finsupp.add_apply, exponents_apply, exponents_apply, exponents_apply] at counts
  rw [List.count_append]
  exact counts

/-! ## Equality -/

/-- Only how often each symbol occurs makes a difference between monomials. -/
theorem eq_iff_count (left right : Monomial) :
    left = right ↔ ∀ symbol, left.count symbol = right.count symbol := by
  rw [← exponents_inj, DFunLike.ext_iff]
  simp only [exponents_apply]

/-- The lists of symbols that a monomial is built from are its own symbols in any order. -/
theorem ofSymbols_eq_iff (symbols : List String) (monomial : Monomial) :
    ofSymbols symbols = monomial ↔ symbols.Perm monomial.symbols := by
  constructor
  · rintro rfl
    exact (ofSymbols_perm symbols).symm
  · intro perm
    exact eq_of_perm ((ofSymbols_perm symbols).trans perm)

/-! ## Division -/

theorem divide?_eq_some_iff_multiply (dividend divisor quotient : Monomial) :
    dividend.divide? divisor = some quotient ↔ divisor.multiply quotient = dividend := by
  constructor
  · exact multiply_of_divide?
  · rintro rfl
    exact divide?_multiply divisor quotient

/-- What is left of a dividend is in ascending order, and makes up the dividend together with
the symbols of the divisor. -/
theorem symbols_divide?_eq_some_iff
    (dividend divisor : Monomial)
    (symbols : List String) :
    (dividend.divide? divisor).map Monomial.symbols = some symbols ↔
      symbols.Pairwise (· ≤ ·) ∧ (divisor.symbols ++ symbols).Perm dividend.symbols := by
  rw [Option.map_eq_some_iff]
  constructor
  · rintro ⟨quotient, divides, rfl⟩
    rw [divide?_eq_some_iff_multiply] at divides
    refine ⟨quotient.sorted, ?_⟩
    rw [← divides]
    exact (symbols_multiply_perm divisor quotient).symm
  · rintro ⟨sorted, perm⟩
    refine ⟨⟨symbols, sorted⟩, ?_, rfl⟩
    rw [divide?_eq_some_iff_multiply]
    exact eq_of_perm ((symbols_multiply_perm divisor ⟨symbols, sorted⟩).trans perm)

theorem divide?_eq_none_iff_count (dividend divisor : Monomial) :
    dividend.divide? divisor = none ↔
      ∃ symbol, dividend.count symbol < divisor.count symbol := by
  rw [divide?_eq_none_iff, divides_iff, Finsupp.le_def, not_forall]
  simp only [exponents_apply, Nat.not_le]

/-! ## Laws -/

/-- Multiplication and division of monomials, for a dividend, a divisor and a possible
quotient. -/
structure DivisionLaws (dividend divisor quotient : Monomial) : Prop where
  multiply_assoc : (dividend.multiply divisor).multiply quotient =
    dividend.multiply (divisor.multiply quotient)
  multiply_comm : dividend.multiply divisor = divisor.multiply dividend
  multiply_unit : dividend.multiply unit = dividend
  unit_multiply : unit.multiply dividend = dividend
  /-- Every monomial is built from symbols, and from which order of them does not matter. -/
  ofSymbols_eq_iff : ∀ symbols,
    ofSymbols symbols = dividend ↔ symbols.Perm dividend.symbols
  eq_iff_count : dividend = divisor ↔
    ∀ symbol, dividend.count symbol = divisor.count symbol
  /-- A quotient is in ascending order without being sorted again, and completes the
  divisor. -/
  symbols_divide? : ∀ symbols,
    (dividend.divide? divisor).map Monomial.symbols = some symbols ↔
      symbols.Pairwise (· ≤ ·) ∧ (divisor.symbols ++ symbols).Perm dividend.symbols
  divide?_eq_some_iff : dividend.divide? divisor = some quotient ↔
    divisor.multiply quotient = dividend
  divide?_eq_none_iff : dividend.divide? divisor = none ↔
    ∃ symbol, dividend.count symbol < divisor.count symbol
  divide?_multiply : (dividend.multiply divisor).divide? divisor = some dividend

/-- Monomials are multisets of symbols: multiplication is their sum, and division their
difference wherever there is one. -/
theorem divisionLaws (dividend divisor quotient : Monomial) :
    DivisionLaws dividend divisor quotient where
  multiply_assoc := multiply_assoc dividend divisor quotient
  multiply_comm := multiply_comm dividend divisor
  multiply_unit := multiply_unit dividend
  unit_multiply := unit_multiply dividend
  ofSymbols_eq_iff symbols := ofSymbols_eq_iff symbols dividend
  eq_iff_count := eq_iff_count dividend divisor
  symbols_divide? := symbols_divide?_eq_some_iff dividend divisor
  divide?_eq_some_iff := divide?_eq_some_iff_multiply dividend divisor quotient
  divide?_eq_none_iff := divide?_eq_none_iff_count dividend divisor
  divide?_multiply := by
    rw [divide?_eq_some_iff_multiply]
    exact multiply_comm divisor dividend

/-- A divisor may lack order and repeat symbols, but not more often than the dividend. -/
example :
    (ofSymbols ["b", "a", "c", "a"]).divide? (ofSymbols ["a", "b", "a"]) =
        some (ofSymbols ["c"]) ∧
      (ofSymbols ["b", "a", "c"]).divide? (ofSymbols ["a", "a"]) = none := by
  decide

end Monomial
end PolyMatrix

import Mathlib.Algebra.Order.Group.Nat
import Mathlib.Data.Finsupp.Multiset
import Mathlib.Data.Finsupp.Order
import PolyMatrix.Monomial

/-!
# Exponents of a monomial

A monomial is determined by how often each symbol occurs in it.  As finitely
supported functions on the symbols, products of monomials are sums, and division
is subtraction where it is possible.
-/

namespace PolyMatrix
namespace Monomial

/-- The exponent of every symbol in a monomial. -/
noncomputable def exponents (monomial : Monomial) : String →₀ ℕ :=
  Multiset.toFinsupp (monomial.symbols : Multiset String)

theorem exponents_apply
    (monomial : Monomial)
    (symbol : String) : monomial.exponents symbol = monomial.count symbol := by
  rw [exponents, Multiset.toFinsupp_apply, Multiset.coe_count, count]

/-- Monomials with the same exponents are equal, because their symbols are
sorted. -/
theorem exponents_injective : Function.Injective exponents := by
  intro left right same
  apply eq_of_perm
  rw [← Multiset.coe_eq_coe]
  exact Multiset.toFinsupp.injective same

@[simp] theorem exponents_inj
    {left right : Monomial} :
    left.exponents = right.exponents ↔ left = right :=
  exponents_injective.eq_iff

@[simp] theorem exponents_unit : unit.exponents = 0 := by
  rw [exponents, symbols_unit, Multiset.coe_nil, Multiset.toFinsupp_zero]

@[simp] theorem exponents_insert
    (monomial : Monomial)
    (symbol : String) :
    (monomial.insert symbol).exponents =
      monomial.exponents + Finsupp.single symbol 1 := by
  ext other
  rw [Finsupp.add_apply, exponents_apply, exponents_apply, count_insert,
    Finsupp.single_apply]

/-- One more symbol in a list of factors. -/
theorem toFinsupp_cons (symbol : String) (symbols : List String) :
    Multiset.toFinsupp (↑(symbol :: symbols) : Multiset String) =
      Multiset.toFinsupp (↑symbols : Multiset String) + Finsupp.single symbol 1 := by
  rw [← Multiset.cons_coe, ← Multiset.singleton_add, Multiset.toFinsupp_add,
    Multiset.toFinsupp_singleton, add_comm]

/-- The exponents of a list of symbols in any order. -/
theorem exponents_ofSymbols (symbols : List String) :
    (ofSymbols symbols).exponents =
      Multiset.toFinsupp (symbols : Multiset String) := by
  rw [exponents, Multiset.coe_eq_coe.mpr (ofSymbols_perm symbols)]

/-- Every choice of exponents belongs to a monomial. -/
theorem exponents_surjective : Function.Surjective exponents := by
  intro exponents
  refine ⟨ofSymbols exponents.toMultiset.toList, ?_⟩
  rw [exponents_ofSymbols, Multiset.coe_toList, Finsupp.toMultiset_toFinsupp]

/-- Multiplying monomials adds exponents. -/
@[simp] theorem exponents_multiply
    (left right : Monomial) :
    (left.multiply right).exponents = left.exponents + right.exponents := by
  suffices inserted : ∀ symbols : List String,
      (symbols.foldr (fun symbol monomial => monomial.insert symbol) left).exponents =
        left.exponents + Multiset.toFinsupp (symbols : Multiset String) from
    inserted right.symbols
  intro symbols
  induction symbols with
  | nil => rw [List.foldr_nil, Multiset.coe_nil, Multiset.toFinsupp_zero, add_zero]
  | cons symbol rest inductionHypothesis =>
      rw [List.foldr_cons, exponents_insert, inductionHypothesis, toFinsupp_cons,
        add_assoc]

/-- Taking a symbol out succeeds exactly for the product of the result and the
symbol. -/
theorem erase?_eq_some_iff
    (monomial : Monomial)
    (symbol : String)
    (rest : Monomial) :
    monomial.erase? symbol = some rest ↔
      rest.exponents + Finsupp.single symbol 1 = monomial.exponents := by
  unfold erase?
  split
  · rename_i present
    have removed : (⟨monomial.symbols.erase symbol, monomial.sorted.erase symbol⟩ :
        Monomial).exponents + Finsupp.single symbol 1 = monomial.exponents := by
      have perm := List.perm_cons_erase present
      unfold exponents
      rw [Multiset.coe_eq_coe.mpr perm, toFinsupp_cons]
    rw [Option.some_inj, ← removed, add_left_inj, exponents_inj, eq_comm]
  · rename_i absent
    constructor
    · intro impossible
      cases impossible
    · intro same
      have occurs := DFunLike.congr_fun same symbol
      rw [Finsupp.add_apply, Finsupp.single_eq_same, exponents_apply,
        exponents_apply, count, count, List.count_eq_zero.mpr absent] at occurs
      omega

/-- Taking a symbol out undoes putting it in. -/
theorem erase?_eq_some_iff_insert
    (monomial : Monomial)
    (symbol : String)
    (rest : Monomial) :
    monomial.erase? symbol = some rest ↔ rest.insert symbol = monomial := by
  rw [erase?_eq_some_iff, ← exponents_insert, exponents_inj]

/-- Division succeeds exactly with the factor that makes up the dividend. -/
theorem divide?_eq_some_iff
    (dividend divisor quotient : Monomial) :
    dividend.divide? divisor = some quotient ↔
      quotient.exponents + divisor.exponents = dividend.exponents := by
  suffices taken : ∀ (symbols : List String) (monomial : Monomial),
      symbols.foldlM erase? monomial = some quotient ↔
        quotient.exponents + Multiset.toFinsupp (symbols : Multiset String) =
          monomial.exponents from
    taken divisor.symbols dividend
  intro symbols
  induction symbols with
  | nil =>
      intro monomial
      rw [List.foldlM_nil, Multiset.coe_nil, Multiset.toFinsupp_zero, add_zero,
        exponents_inj, eq_comm]
      exact Option.some_inj
  | cons symbol rest inductionHypothesis =>
      intro monomial
      rw [List.foldlM_cons, Option.bind_eq_bind, Option.bind_eq_some_iff,
        toFinsupp_cons, ← add_assoc]
      constructor
      · rintro ⟨smaller, removed, later⟩
        rw [erase?_eq_some_iff] at removed
        rw [inductionHypothesis] at later
        rw [later, removed]
      · intro same
        cases removed : monomial.erase? symbol with
        | none =>
            -- The symbol is a factor of the divisor, so it occurs in the dividend.
            rw [erase?_eq_none_iff, ← exponents_apply, ← same, Finsupp.add_apply,
              Finsupp.single_eq_same] at removed
            omega
        | some smaller =>
            refine ⟨smaller, rfl, ?_⟩
            rw [erase?_eq_some_iff, ← same, add_left_inj] at removed
            rw [inductionHypothesis, removed]

/-- A monomial divides another one if some product of it is the other one. -/
def Divides (divisor dividend : Monomial) : Prop :=
  ∃ quotient, divisor.multiply quotient = dividend

theorem divides_iff (divisor dividend : Monomial) :
    divisor.Divides dividend ↔ divisor.exponents ≤ dividend.exponents := by
  constructor
  · rintro ⟨quotient, rfl⟩
    rw [exponents_multiply]
    exact le_self_add
  · intro below
    obtain ⟨difference, split⟩ := le_iff_exists_add.mp below
    obtain ⟨quotient, rfl⟩ := exponents_surjective difference
    refine ⟨quotient, ?_⟩
    rw [← exponents_inj, exponents_multiply, split]

/-- Division fails exactly where there is nothing to multiply the divisor with. -/
theorem divide?_eq_none_iff
    (dividend divisor : Monomial) :
    dividend.divide? divisor = none ↔ ¬divisor.Divides dividend := by
  rw [Option.eq_none_iff_forall_ne_some, Divides, not_exists]
  refine forall_congr' fun quotient => not_congr ?_
  rw [divide?_eq_some_iff, ← exponents_inj, exponents_multiply, add_comm]

theorem multiply_comm (left right : Monomial) :
    left.multiply right = right.multiply left := by
  apply exponents_injective
  rw [exponents_multiply, exponents_multiply, add_comm]

/-- The symbols of a product are those of its factors. -/
theorem mem_symbols_multiply
    {symbol : String}
    {left right : Monomial} :
    symbol ∈ (left.multiply right).symbols ↔
      symbol ∈ left.symbols ∨ symbol ∈ right.symbols := by
  have counts := DFunLike.congr_fun (exponents_multiply left right) symbol
  rw [Finsupp.add_apply, exponents_apply, exponents_apply, exponents_apply] at counts
  unfold count at counts
  rw [← List.count_pos_iff, ← List.count_pos_iff, ← List.count_pos_iff]
  omega

/-- What can be divided is the product of the divisor and the quotient. -/
theorem multiply_of_divide?
    {dividend divisor quotient : Monomial}
    (divides : dividend.divide? divisor = some quotient) :
    divisor.multiply quotient = dividend := by
  rw [divide?_eq_some_iff] at divides
  rw [← exponents_inj, exponents_multiply, add_comm, divides]

theorem divide?_multiply (left right : Monomial) :
    (left.multiply right).divide? left = some right := by
  rw [divide?_eq_some_iff, exponents_multiply, add_comm]

end Monomial
end PolyMatrix

/-!
# Monomials

Products of named symbols without a numeric factor.  The symbols are kept in
ascending order, so two monomials are equal exactly when every symbol occurs in
both equally often; the empty product is the unit.

Monomials are ordered by degree first, higher degrees in front, and then by
their symbols in descending lexicographic order.
-/

namespace PolyMatrix

/-- A commutative product of symbols. -/
structure Monomial where
  /-- The factors, each as often as it occurs. -/
  symbols : List String
  /-- The factors stand in ascending order. -/
  sorted : symbols.Pairwise (· ≤ ·)
  deriving DecidableEq

namespace Monomial

/-- A symbol put in front of the first one that is not smaller. -/
def insertInto (symbol : String) : List String → List String
  | [] => [symbol]
  | head :: rest =>
      if symbol ≤ head then symbol :: head :: rest
      else head :: insertInto symbol rest

/-- Inserting a symbol adds it and nothing else. -/
theorem insertInto_perm (symbol : String) (symbols : List String) :
    (insertInto symbol symbols).Perm (symbol :: symbols) := by
  induction symbols with
  | nil => exact .refl _
  | cons head rest inductionHypothesis =>
      unfold insertInto
      split
      · exact .refl _
      · exact (inductionHypothesis.cons head).trans (.swap symbol head rest)

/-- Inserting a symbol keeps ascending order. -/
theorem insertInto_sorted
    (symbol : String)
    {symbols : List String}
    (sorted : symbols.Pairwise (· ≤ ·)) :
    (insertInto symbol symbols).Pairwise (· ≤ ·) := by
  induction symbols with
  | nil => simp [insertInto]
  | cons head rest inductionHypothesis =>
      rw [List.pairwise_cons] at sorted
      unfold insertInto
      split
      · rename_i below
        rw [List.pairwise_cons, List.pairwise_cons]
        refine ⟨?_, sorted⟩
        intro other member
        rcases List.mem_cons.mp member with rfl | member
        · exact below
        · exact String.le_trans below (sorted.1 other member)
      · rename_i notBelow
        have above : head ≤ symbol :=
          (String.le_total symbol head).resolve_left notBelow
        rw [List.pairwise_cons]
        refine ⟨?_, inductionHypothesis sorted.2⟩
        intro other member
        rcases List.mem_cons.mp ((insertInto_perm symbol rest).mem_iff.mp member)
          with rfl | member
        · exact above
        · exact sorted.1 other member

/-- The empty product. -/
def unit : Monomial :=
  ⟨[], .nil⟩

/-- The monomial with one more factor. -/
def insert (monomial : Monomial) (symbol : String) : Monomial :=
  ⟨insertInto symbol monomial.symbols, insertInto_sorted symbol monomial.sorted⟩

/-- The product of symbols given in any order. -/
def ofSymbols (symbols : List String) : Monomial :=
  symbols.foldr (fun symbol monomial => monomial.insert symbol) unit

/-- How many factors a monomial has. -/
def degree (monomial : Monomial) : Nat :=
  monomial.symbols.length

/-- The monomial without factors. -/
def isUnit (monomial : Monomial) : Bool :=
  monomial.symbols.isEmpty

/-- How often a symbol is a factor. -/
def count (monomial : Monomial) (symbol : String) : Nat :=
  monomial.symbols.count symbol

/-- The product of two monomials. -/
def multiply (left right : Monomial) : Monomial :=
  right.symbols.foldr (fun symbol monomial => monomial.insert symbol) left

/-- The monomial with one factor taken out, if it is there. -/
def erase? (monomial : Monomial) (symbol : String) : Option Monomial :=
  if symbol ∈ monomial.symbols then
    some ⟨monomial.symbols.erase symbol, monomial.sorted.erase symbol⟩
  else none

/-- The quotient of two monomials, if the second divides the first. -/
def divide? (dividend divisor : Monomial) : Option Monomial :=
  divisor.symbols.foldlM erase? dividend

/-- Higher degrees come first; among equal degrees the greater symbols do. -/
def precedes (left right : Monomial) : Bool :=
  decide (right.degree < left.degree) ||
    (left.degree == right.degree && decide (right.symbols < left.symbols))

/-- The position of two monomials in monomial order. -/
def order (left right : Monomial) : Ordering :=
  if left.precedes right then .lt
  else if left = right then .eq
  else .gt

/-- A monomial put in front of the first one that does not precede it. -/
def insertOrdered (monomial : Monomial) : List Monomial → List Monomial
  | [] => [monomial]
  | head :: rest =>
      if head.precedes monomial then head :: insertOrdered monomial rest
      else monomial :: head :: rest

/-- The monomials in monomial order. -/
def arrange (monomials : List Monomial) : List Monomial :=
  monomials.foldr insertOrdered []

/-- Two monomials with the same symbols are equal. -/
@[ext] theorem ext {left right : Monomial} (same : left.symbols = right.symbols) :
    left = right := by
  cases left
  cases right
  cases same
  rfl

/-- The order of its symbols does not make a monomial another one. -/
theorem eq_of_perm {left right : Monomial} (perm : left.symbols.Perm right.symbols) :
    left = right := by
  apply ext
  refine perm.eq_of_pairwise ?_ left.sorted right.sorted
  intro first second _ _ below above
  exact String.le_antisymm below above

@[simp] theorem symbols_unit : unit.symbols = [] :=
  rfl

@[simp] theorem symbols_insert (monomial : Monomial) (symbol : String) :
    (monomial.insert symbol).symbols = insertInto symbol monomial.symbols :=
  rfl

@[simp] theorem degree_unit : unit.degree = 0 :=
  rfl

/-- One more factor raises the degree by one. -/
@[simp] theorem degree_insert (monomial : Monomial) (symbol : String) :
    (monomial.insert symbol).degree = monomial.degree + 1 := by
  simpa [degree] using (insertInto_perm symbol monomial.symbols).length_eq

/-- One more factor is counted. -/
theorem count_insert (monomial : Monomial) (symbol other : String) :
    (monomial.insert symbol).count other =
      monomial.count other + if symbol = other then 1 else 0 := by
  have same := (insertInto_perm symbol monomial.symbols).count_eq other
  simp only [count, symbols_insert, same, List.count_cons, beq_iff_eq]

/-- The factors of a product of symbols are these symbols. -/
theorem ofSymbols_perm (symbols : List String) :
    (ofSymbols symbols).symbols.Perm symbols := by
  induction symbols with
  | nil => exact .refl _
  | cons symbol rest inductionHypothesis =>
      exact (insertInto_perm symbol _).trans (inductionHypothesis.cons symbol)

/-- Taking out a factor that is not there fails. -/
theorem erase?_eq_none_iff (monomial : Monomial) (symbol : String) :
    monomial.erase? symbol = none ↔ monomial.count symbol = 0 := by
  simp [erase?, count, List.count_eq_zero]

end Monomial
end PolyMatrix

import Mathlib.Data.Fintype.BigOperators
import Mathlib.Data.Set.Card
import PolyMatrix.Polynomial.Division
import PolyMatrix.Proofs.Monomial.Admissible
import PolyMatrix.Proofs.Monomial.Exponents
import PolyMatrix.Proofs.Polynomial.CanonicalArithmetic

/-!
# The reductions of a division

A division reduces one leading monomial after another.  Each of them comes behind the one
before, is made of the symbols of dividend and divisor and has at most the dividend's degree.
There are no more than `Division.maximumSteps` of these, so a division ends where no
reduction is left to be made, and never because its steps are used up.  Nothing is asked of
the arithmetic of the coefficients.
-/

namespace PolyMatrix

namespace Monomial

/-! ## Monomials over given symbols -/

/-- Made of the given symbols, with at most `bound` factors. -/
structure Within (symbols : List String) (bound : Nat) (monomial : Monomial) : Prop where
  degree_le : monomial.degree ≤ bound
  mem : ∀ symbol ∈ monomial.symbols, symbol ∈ symbols

theorem degree_le_of_precedes
    {left right : Monomial}
    (before : left.precedes right = true) : right.degree ≤ left.degree := by
  rw [precedes_iff] at before
  omega

/-- The exponents of the given symbols. -/
def exponentVector
    (symbols : List String)
    (bound : Nat)
    (monomial : Monomial) : Fin symbols.length → Fin (bound + 1) :=
  fun place => Fin.ofNat (bound + 1) (monomial.count (symbols.get place))

theorem Within.count_lt
    {symbols : List String} {bound : Nat} {monomial : Monomial}
    (within : monomial.Within symbols bound)
    (symbol : String) : monomial.count symbol < bound + 1 :=
  Nat.lt_succ_of_le (List.count_le_length.trans within.degree_le)

/-- Monomials over the given symbols are determined by their exponents there. -/
theorem Within.eq_of_exponentVector_eq
    {symbols : List String} {bound : Nat} {left right : Monomial}
    (leftWithin : left.Within symbols bound)
    (rightWithin : right.Within symbols bound)
    (same : exponentVector symbols bound left = exponentVector symbols bound right) :
    left = right := by
  apply exponents_injective
  ext symbol
  rw [exponents_apply, exponents_apply]
  by_cases listed : symbol ∈ symbols
  · obtain ⟨place, rfl⟩ := List.mem_iff_get.mp listed
    have counts := congrArg Fin.val (congrFun same place)
    rwa [exponentVector, exponentVector, Fin.val_ofNat, Fin.val_ofNat,
      Nat.mod_eq_of_lt (leftWithin.count_lt _),
      Nat.mod_eq_of_lt (rightWithin.count_lt _)] at counts
  · rw [count, count, List.count_eq_zero.mpr fun present => listed (leftWithin.mem _ present),
      List.count_eq_zero.mpr fun present => listed (rightWithin.mem _ present)]

theorem injOn_exponentVector (symbols : List String) (bound : Nat) :
    Set.InjOn (exponentVector symbols bound)
      {monomial | monomial.Within symbols bound} :=
  fun _ left _ right same => left.eq_of_exponentVector_eq right same

theorem finite_within (symbols : List String) (bound : Nat) :
    {monomial : Monomial | monomial.Within symbols bound}.Finite :=
  Set.Finite.of_injOn (Set.mapsTo_univ _ _) (injOn_exponentVector symbols bound)
    Set.finite_univ

/-- There are no more monomials over the given symbols than choices of exponents. -/
theorem ncard_within_le (symbols : List String) (bound : Nat) :
    {monomial : Monomial | monomial.Within symbols bound}.ncard ≤
      (bound + 1) ^ symbols.length := by
  have vectors := Set.ncard_le_ncard_of_injOn _ (fun _ _ => Set.mem_univ _)
    (injOn_exponentVector symbols bound)
  simpa [Set.ncard_univ, Nat.card_eq_fintype_card] using vectors

/-- No list of different monomials over the given symbols is longer than there are such
monomials. -/
theorem length_le_of_within
    {symbols : List String} {bound : Nat} {monomials : List Monomial}
    (distinct : monomials.Nodup)
    (within : ∀ monomial ∈ monomials, monomial.Within symbols bound) :
    monomials.length ≤ {monomial : Monomial | monomial.Within symbols bound}.ncard := by
  rw [← List.toFinset_card_of_nodup distinct, ← Set.ncard_coe_finset]
  refine Set.ncard_le_ncard ?_ (finite_within symbols bound)
  exact fun monomial member => within monomial (List.mem_toFinset.mp member)

end Monomial

namespace Polynomial

variable {K : Type}

namespace Division

theorem degree_le_degree
    {p : Polynomial K}
    {term : Monomial × K}
    (member : term ∈ p.terms) : term.1.degree ≤ degree p := by
  unfold degree
  generalize p.terms = terms at member
  induction terms with
  | nil => cases member
  | cons first rest inductionHypothesis =>
      rw [List.map_cons, List.foldr_cons]
      rcases List.mem_cons.mp member with rfl | member
      · exact le_max_left _ _
      · exact (inductionHypothesis member).trans (le_max_right _ _)

theorem mem_symbols
    {p : Polynomial K}
    {term : Monomial × K}
    (member : term ∈ p.terms)
    {symbol : String}
    (present : symbol ∈ term.1.symbols) : symbol ∈ symbols p := by
  rw [symbols, List.mem_eraseDups]
  exact List.mem_flatMap.mpr ⟨term, member, present⟩

end Division

/-! ## The monomials of a sum -/

variable [Add K] [Coefficient K]

theorem forall_monomial_accumulate
    (property : Monomial → Prop)
    {p : Polynomial K}
    {monomial : Monomial}
    (before : ∀ term ∈ p.terms, property term.1)
    (added : property monomial)
    (k : K) : ∀ term ∈ (p.accumulate monomial k).terms, property term.1 := by
  intro term member
  unfold accumulate at member
  split at member
  · exact before term member
  · rcases eq_or_mem_of_mem_insertTerm member with same | member
    · exact same ▸ added
    · exact before term member

/-- Adding scaled monomials brings no other monomials than these. -/
theorem forall_monomial_foldl_accumulate
    {α : Type}
    (property : Monomial → Prop)
    (monomial : α → Monomial)
    (k : α → K)
    (items : List α)
    {p : Polynomial K}
    (before : ∀ term ∈ p.terms, property term.1)
    (added : ∀ item ∈ items, property (monomial item)) :
    ∀ term ∈ (items.foldl (fun sum item => sum.accumulate (monomial item) (k item))
      p).terms, property term.1 := by
  induction items generalizing p with
  | nil => exact before
  | cons item rest inductionHypothesis =>
      refine inductionHypothesis ?_ fun other member =>
        added other (List.mem_cons_of_mem item member)
      exact forall_monomial_accumulate property before (added item List.mem_cons_self) (k item)

variable [Mul K]

theorem forall_monomial_multiplyTerm
    (property : Monomial → Prop)
    {p : Polynomial K}
    (monomial : Monomial)
    (k : K)
    (products : ∀ term ∈ p.terms, property (term.1.multiply monomial)) :
    ∀ term ∈ (p.multiplyTerm monomial k).terms, property term.1 := by
  unfold multiplyTerm
  split
  · exact fun term member => absurd member List.not_mem_nil
  · exact forall_monomial_foldl_accumulate property
      (fun term : Monomial × K => term.1.multiply monomial) (fun term => term.2 * k)
      p.terms (fun term member => absurd member List.not_mem_nil) products

variable [Neg K]

theorem forall_monomial_subtract
    (property : Monomial → Prop)
    {p q : Polynomial K}
    (left : ∀ term ∈ p.terms, property term.1)
    (right : ∀ term ∈ q.terms, property term.1) :
    ∀ term ∈ (p.subtract q).terms, property term.1 :=
  forall_monomial_foldl_accumulate property Prod.fst
    (fun term => term.2 * -Coefficient.one) q.terms (p := p.withoutNote) left right

namespace Division

variable [Div K] {divisor : Polynomial K} {head : Monomial × K}

/-! ## What a reduction does -/

theorem exists_of_step
    {state next : State K}
    (reduced : step divisor head state = .reduced next) :
    ∃ leading k monomial,
      state.remainder.leading? = some (leading, k) ∧
      descends state.previous leading = true ∧
      leading.divide? head.1 = some monomial ∧
      next =
        { quotient := state.quotient.accumulate monomial (k / head.2)
          remainder :=
            state.remainder.subtract (divisor.multiplyTerm monomial (k / head.2))
          previous := some leading } := by
  unfold step at reduced
  split at reduced
  · cases reduced
  · rename_i leading k found
    split at reduced
    · rename_i behind
      split at reduced
      · cases reduced
      · rename_i monomial divides
        cases reduced
        exact ⟨leading, k, monomial, found, behind, divides, rfl⟩
    · cases reduced

theorem exists_step_of_divides
    {state : State K} {leading monomial : Monomial} {k : K}
    (found : state.remainder.leading? = some (leading, k))
    (behind : descends state.previous leading = true)
    (divides : leading.divide? head.1 = some monomial) :
    ∃ next, step divisor head state = .reduced next := by
  unfold step
  simp only [found, if_pos behind, divides]
  exact ⟨_, rfl⟩

theorem exists_of_step_eq_stuck
    {state : State K} {leading : Monomial}
    (stuck : step divisor head state = .stuck leading) :
    ∃ k, state.remainder.leading? = some (leading, k) ∧
      descends state.previous leading = false := by
  unfold step at stuck
  split at stuck
  · cases stuck
  · rename_i front k found
    split at stuck
    · split at stuck
      · cases stuck
      · cases stuck
    · rename_i notBehind
      cases stuck
      exact ⟨k, found, by simpa using notBehind⟩

omit [Add K] [Mul K] [Neg K] [Div K] [Coefficient K] in
theorem descends_trans
    {previous : Option Monomial} {leading monomial : Monomial}
    (behind : descends previous leading = true)
    (after : leading.precedes monomial = true) : descends previous monomial = true := by
  cases previous with
  | none => rfl
  | some earlier => exact Monomial.precedes_trans behind after

/-- Reductions of the listed leading monomials lead from one state to another. -/
inductive Reduces (divisor : Polynomial K) (head : Monomial × K) :
    State K → List Monomial → State K → Prop
  | none (state : State K) : Reduces divisor head state [] state
  | more {state next final : State K} {leading : Monomial} {rest : List Monomial}
      (reduced : step divisor head state = .reduced next)
      (recorded : next.previous = some leading)
      (later : Reduces divisor head next rest final) :
      Reduces divisor head state (leading :: rest) final

/-- The leading monomials that are reduced descend strictly. -/
theorem Reduces.descending
    {state final : State K} {leadings : List Monomial}
    (reduces : Reduces divisor head state leadings final) :
    (leadings.Pairwise fun earlier later => earlier.precedes later = true) ∧
      ∀ leading ∈ leadings, descends state.previous leading = true := by
  induction reduces with
  | none state => exact ⟨.nil, fun leading member => absurd member List.not_mem_nil⟩
  | @more state next final leading rest reduced recorded later inductionHypothesis =>
      obtain ⟨front, k, monomial, -, behind, -, rfl⟩ := exists_of_step reduced
      obtain rfl := Option.some.inj recorded
      refine ⟨List.pairwise_cons.mpr ⟨inductionHypothesis.2, inductionHypothesis.1⟩, ?_⟩
      intro other member
      rcases List.mem_cons.mp member with rfl | member
      · exact behind
      · exact descends_trans behind (inductionHypothesis.2 other member)

/-- What comes behind the last leading monomial comes behind all of them. -/
theorem Reduces.precedes_of_descends
    {state final : State K} {leadings : List Monomial} {monomial : Monomial}
    (reduces : Reduces divisor head state leadings final)
    (behind : descends final.previous monomial = true) :
    descends state.previous monomial = true ∧
      ∀ leading ∈ leadings, leading.precedes monomial = true := by
  induction reduces with
  | none state => exact ⟨behind, fun leading member => absurd member List.not_mem_nil⟩
  | @more state next final leading rest reduced recorded later inductionHypothesis =>
      obtain ⟨front, k, quotient, -, atFront, -, rfl⟩ := exists_of_step reduced
      obtain rfl := Option.some.inj recorded
      obtain ⟨afterFront, afterRest⟩ := inductionHypothesis behind
      exact ⟨descends_trans atFront afterFront,
        List.forall_mem_cons.mpr ⟨afterFront, afterRest⟩⟩

/-! ## The symbols and degrees that are met -/

/-- A reduction takes a multiple of the divisor away whose monomials have no higher degree
than the one reduced, and only symbols of it and of the divisor. -/
theorem within_of_step
    {symbols : List String} {bound : Nat} {state next : State K}
    (descending : divisor.terms.Pairwise fun earlier later =>
      earlier.1.precedes later.1 = true)
    (leads : divisor.leading? = some head)
    (divisorSymbols : ∀ term ∈ divisor.terms, ∀ symbol ∈ term.1.symbols, symbol ∈ symbols)
    (within : ∀ term ∈ state.remainder.terms, term.1.Within symbols bound)
    (reduced : step divisor head state = .reduced next) :
    (∀ leading ∈ next.previous, leading.Within symbols bound) ∧
      ∀ term ∈ next.remainder.terms, term.1.Within symbols bound := by
  obtain ⟨leading, k, monomial, found, -, divides, rfl⟩ := exists_of_step reduced
  have leadingWithin : leading.Within symbols bound :=
    within _ (List.mem_of_mem_head? found)
  have product : head.1.multiply monomial = leading :=
    Monomial.multiply_of_divide? divides
  have headDegree : ∀ term ∈ divisor.terms, term.1.degree ≤ head.1.degree := by
    obtain ⟨rest, stored⟩ := List.head?_eq_some_iff.mp leads
    intro term member
    rw [stored] at member descending
    rcases List.mem_cons.mp member with rfl | member
    · exact le_rfl
    · exact Monomial.degree_le_of_precedes ((List.pairwise_cons.mp descending).1 _ member)
  refine ⟨fun other same => Option.some.inj same ▸ leadingWithin, ?_⟩
  apply forall_monomial_subtract _ within
  apply forall_monomial_multiplyTerm
  intro term member
  constructor
  · have total := congrArg Monomial.degree product
    rw [Monomial.degree_multiply] at total ⊢
    have lower := headDegree term member
    have bounded := leadingWithin.degree_le
    omega
  · intro symbol present
    rcases Monomial.mem_symbols_multiply.mp present with fromDivisor | fromQuotient
    · exact divisorSymbols term member symbol fromDivisor
    · apply leadingWithin.mem symbol
      rw [← product]
      exact Monomial.mem_symbols_multiply.mpr (.inr fromQuotient)

theorem Reduces.within
    {symbols : List String} {bound : Nat} {state final : State K}
    {leadings : List Monomial}
    (reduces : Reduces divisor head state leadings final)
    (descending : divisor.terms.Pairwise fun earlier later =>
      earlier.1.precedes later.1 = true)
    (leads : divisor.leading? = some head)
    (divisorSymbols : ∀ term ∈ divisor.terms, ∀ symbol ∈ term.1.symbols, symbol ∈ symbols)
    (within : ∀ term ∈ state.remainder.terms, term.1.Within symbols bound) :
    ∀ leading ∈ leadings, leading.Within symbols bound := by
  induction reduces with
  | none state => exact fun leading member => absurd member List.not_mem_nil
  | more reduced recorded later inductionHypothesis =>
      have kept := within_of_step descending leads divisorSymbols within reduced
      intro other member
      rcases List.mem_cons.mp member with rfl | member
      · exact kept.1 other recorded
      · exact inductionHypothesis kept.2 other member

/-- The monomials of at most the dividend's degree over the symbols of both operands. -/
def candidates (dividend divisor : Polynomial K) : Set Monomial :=
  {monomial | monomial.Within (symbols dividend ++ symbols divisor) (degree dividend)}

omit [Add K] [Mul K] [Neg K] [Div K] [Coefficient K] in
/-- A division may take as many steps as there are monomials to be reduced. -/
theorem ncard_candidates_le (dividend divisor : Polynomial K) :
    (candidates dividend divisor).ncard ≤ maximumSteps dividend divisor :=
  Monomial.ncard_within_le _ _

/-- The leading monomials that a division reduces are no more than there are monomials of the
dividend's degree over the symbols that occur. -/
theorem Reduces.length_le
    {dividend : Polynomial K} {final : State K} {leadings : List Monomial}
    (reduces : Reduces divisor head (start dividend) leadings final)
    (descending : divisor.terms.Pairwise fun earlier later =>
      earlier.1.precedes later.1 = true)
    (leads : divisor.leading? = some head) :
    leadings.length ≤ (candidates dividend divisor).ncard := by
  have distinct : leadings.Nodup :=
    reduces.descending.1.imp fun before => Monomial.ne_of_precedes before
  refine Monomial.length_le_of_within distinct (reduces.within descending leads ?_ ?_)
  · intro term member symbol present
    exact List.mem_append_right _ (mem_symbols member present)
  · intro term member
    exact ⟨degree_le_degree member, fun symbol present =>
      List.mem_append_left _ (mem_symbols (p := dividend) member present)⟩

/-! ## The end of a division -/

/-- A run makes reductions until its steps are used up or no reduction is left. -/
theorem exists_reduces_run
    (divisor : Polynomial K)
    (head : Monomial × K)
    (steps : Nat)
    (state : State K) :
    ∃ leadings final, Reduces divisor head state leadings final ∧
      (leadings.length = steps ∨ ∀ next, step divisor head final ≠ .reduced next) := by
  induction steps generalizing state with
  | zero => exact ⟨[], state, .none state, .inl rfl⟩
  | succ steps inductionHypothesis =>
      by_cases reduced : ∃ next, step divisor head state = .reduced next
      · obtain ⟨next, reduced⟩ := reduced
        obtain ⟨leadings, final, reduces, ends⟩ := inductionHypothesis next
        obtain ⟨leading, _, _, -, -, -, made⟩ := exists_of_step reduced
        have recorded : next.previous = some leading := congrArg State.previous made
        exact ⟨leading :: leadings, final, .more reduced recorded reduces,
          ends.imp_left (congrArg Nat.succ)⟩
      · exact ⟨[], state, .none state, .inr fun next same => reduced ⟨next, same⟩⟩

/-- With a step to spare, a run ends as the last state does by itself. -/
theorem Reduces.run_eq
    {state final : State K} {leadings : List Monomial}
    (reduces : Reduces divisor head state leadings final)
    (ends : ∀ next, step divisor head final ≠ .reduced next)
    {steps : Nat}
    (enough : leadings.length < steps) :
    run divisor head steps state = run divisor head 1 final := by
  induction reduces generalizing steps with
  | none state =>
      obtain ⟨spare, rfl⟩ := Nat.exists_eq_succ_of_ne_zero (Nat.ne_zero_of_lt enough)
      unfold run
      cases outcome : step divisor head state with
      | finished => rfl
      | stuck leading => rfl
      | reduced next => exact absurd outcome (ends next)
  | more reduced recorded later inductionHypothesis =>
      obtain ⟨spare, rfl⟩ := Nat.exists_eq_succ_of_ne_zero (Nat.ne_zero_of_lt enough)
      rw [← inductionHypothesis ends (Nat.lt_of_succ_lt_succ enough), run, reduced]

theorem run_one_of_finished
    {state : State K}
    (finished : step divisor head state = .finished) :
    run divisor head 1 state = pure state.toDivision := by
  rw [run, finished]

theorem value_run_one
    {state : State K}
    (ends : ∀ next, step divisor head state ≠ .reduced next) :
    (run divisor head 1 state).value = state.toDivision := by
  unfold run
  cases outcome : step divisor head state with
  | finished => rfl
  | stuck leading => rfl
  | reduced next => exact absurd outcome (ends next)

/-- A division ends where no reduction is left. -/
theorem exists_reduces_divide
    (dividend : Polynomial K)
    (descending : divisor.terms.Pairwise fun earlier later =>
      earlier.1.precedes later.1 = true)
    (leads : divisor.leading? = some head) :
    ∃ leadings final, Reduces divisor head (start dividend) leadings final ∧
      (∀ next, step divisor head final ≠ .reduced next) ∧
      dividend.divide divisor = run divisor head 1 final := by
  obtain ⟨leadings, final, reduces, ends⟩ :=
    exists_reduces_run divisor head (maximumSteps dividend divisor + 1) (start dividend)
  have few := (reduces.length_le descending leads).trans
    (ncard_candidates_le dividend divisor)
  have noneLeft := ends.resolve_left (by omega)
  refine ⟨leadings, final, reduces, noneLeft, ?_⟩
  rw [divide, leads]
  exact reduces.run_eq noneLeft (Nat.lt_succ_of_le few)

end Division
end Polynomial
end PolyMatrix

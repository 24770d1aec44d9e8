import Mathlib.Algebra.MvPolynomial.CommRing
import PolyMatrix.Proofs.Expression.Skipping
import PolyMatrix.Proofs.Polynomial.Grouping
import PolyMatrix.Proofs.Polynomial.RingLaws

/-!
# Sums carried over a skipped token

What stands in front of a skipped token is added in the end.  Reading has the same result if it
is the start of the outermost sum instead, since with integer coefficients sums can be added up
in any order.  So a closing bracket with nothing to close is as good as absent behind a factor,
if a sign or nothing at all follows.
-/

namespace PolyMatrix

namespace Expression

/-! ## What sums denote -/

/-- What an expression denotes. -/
noncomputable def meaning (expression : Expression) : MvPolynomial String ℤ :=
  (expression.toPolynomial : Polynomial ℤ).meaning

/-- What a sum denotes that may be missing. -/
noncomputable def sumMeaning (sum : Option Expression) : MvPolynomial String ℤ :=
  (sum.getD .zero).meaning

@[simp] theorem sumMeaning_none : sumMeaning none = 0 :=
  Polynomial.meaning_zero

@[simp] theorem sumMeaning_some (sum : Expression) :
    sumMeaning (some sum) = sum.meaning :=
  rfl

theorem meaning_sum (left : Expression) (negative : Bool) (right : Expression) :
    (Expression.sum left negative right).meaning =
      left.meaning + right.meaning * MvPolynomial.C (Coefficient.sign negative) :=
  Polynomial.meaning_accumulateScaled _ _ _

theorem meaning_extend (total : Expression) (sum : Option Expression) :
    (total.extend sum).meaning = total.meaning + sumMeaning sum := by
  cases sum with
  | none => rw [extend_none, sumMeaning_none, add_zero]
  | some addend =>
      rw [extend_some, meaning_sum, Coefficient.sign_false, sumMeaning_some]
      exact congrArg (total.meaning + ·) (mul_one addend.meaning)

namespace OpenSum

theorem meaning_totalWith (state : OpenSum) (product : Expression) :
    (state.totalWith product).meaning = sumMeaning state.total +
      product.meaning * MvPolynomial.C (Coefficient.sign state.negative) :=
  meaning_sum _ _ _

/-! ## Sums that differ by what was carried over -/

/-- The second sum is the first one, but for a total that denotes `f` more. -/
def Exceeds (f : MvPolynomial String ℤ) (left right : OpenSum) : Prop :=
  ∃ total, sumMeaning total = f + sumMeaning left.total ∧
    right = { left with total := total }

/-- Reading goes on alike in two sums. -/
inductive Step.Exceeds (f : MvPolynomial String ℤ) : Step → Step → Prop
  | onward {left right : OpenSum} (exceeds : left.Exceeds f right) :
      Step.Exceeds f (.onward left) (.onward right)
  | inward {left right : OpenSum} (exceeds : left.Exceeds f right) :
      Step.Exceeds f (.inward left) (.inward right)
  | outward {left right : Option Expression}
      (exceeds : sumMeaning right = f + sumMeaning left) :
      Step.Exceeds f (.outward left) (.outward right)

variable {f : MvPolynomial String ℤ} {left right : OpenSum}

theorem Exceeds.closeGroup
    (exceeds : left.Exceeds f right)
    (inner : Option Expression) :
    (left.closeGroup inner).value.Exceeds f (right.closeGroup inner).value := by
  obtain ⟨total, more, rfl⟩ := exceeds
  cases inner with
  | none => exact ⟨total, more, rfl⟩
  | some value => exact ⟨total, more, rfl⟩

theorem Exceeds.totalWith
    (exceeds : left.Exceeds f right)
    (product : Expression) :
    sumMeaning (some (right.totalWith product)) =
      f + sumMeaning (some (left.totalWith product)) := by
  obtain ⟨total, more, rfl⟩ := exceeds
  change (OpenSum.totalWith _ product).meaning = f + (left.totalWith product).meaning
  rw [meaning_totalWith, meaning_totalWith, more, add_assoc]

theorem Exceeds.stop
    (exceeds : left.Exceeds f right) :
    sumMeaning right.stop.value = f + sumMeaning left.stop.value := by
  have products := exceeds.totalWith
  obtain ⟨total, more, rfl⟩ := exceeds
  rw [value_stop, value_stop]
  cases factors : left.product with
  | some product => exact products product
  | none => exact more

theorem Exceeds.read
    (exceeds : left.Exceeds f right)
    (piece : Piece) : Step.Exceeds f (left.read piece).value (right.read piece).value := by
  have products := exceeds.totalWith
  have stops := exceeds.stop
  obtain ⟨total, more, rfl⟩ := exceeds
  obtain ⟨total', negative, touched, product, place⟩ := left
  cases piece with
  | operand value => exact .onward ⟨total, more, rfl⟩
  | opening => exact .inward ⟨total, more, rfl⟩
  | closing => exact .outward stops
  | sign sign =>
      cases place with
      | term => exact .onward ⟨total, more, rfl⟩
      | star => exact .onward ⟨total, more, rfl⟩
      | factor earlier => exact .onward ⟨total, more, rfl⟩
      | joint =>
          cases product with
          | some product => exact .onward ⟨_, products product, rfl⟩
          | none => cases touched <;> exact .outward more
  | star =>
      cases place with
      | joint => exact .onward ⟨total, more, rfl⟩
      | star | term | factor earlier =>
          cases product with
          | some product => exact .outward (products product)
          | none => exact .onward ⟨total, more, rfl⟩

end OpenSum

/-! ## Readers that differ by what was carried over -/

/-- The open sums are the same but for the outermost one. -/
inductive OuterExceeds (f : MvPolynomial String ℤ) :
    OpenSum → List OpenSum → OpenSum → List OpenSum → Prop
  | outermost {left right : OpenSum} (exceeds : left.Exceeds f right) :
      OuterExceeds f left [] right []
  | within {parent parent' : OpenSum} {others others' : List OpenSum}
      (current : OpenSum)
      (exceeds : OuterExceeds f parent others parent' others') :
      OuterExceeds f current (parent :: others) current (parent' :: others')

/-- Reading a piece goes on alike. -/
inductive Advance.Exceeds (f : MvPolynomial String ℤ) :
    Except Fault Advance → Except Fault Advance → Prop
  | fault (fault : Fault) : Advance.Exceeds f (.error fault) (.error fault)
  | reading {left right : OpenSum} {outer outer' : List OpenSum}
      (exceeds : OuterExceeds f left outer right outer') :
      Advance.Exceeds f (.ok (.reading left outer)) (.ok (.reading right outer'))
  | ended {left right : Option Expression}
      (exceeds : sumMeaning right = f + sumMeaning left) :
      Advance.Exceeds f (.ok (.ended left)) (.ok (.ended right))

variable {f : MvPolynomial String ℤ} {left right : OpenSum} {outer outer' : List OpenSum}

theorem OuterExceeds.length_eq (exceeds : OuterExceeds f left outer right outer') :
    outer.length = outer'.length := by
  induction exceeds with
  | outermost exceeds => rfl
  | within current exceeds inductionHypothesis =>
      rw [List.length_cons, List.length_cons, inductionHypothesis]

theorem OuterExceeds.closeGroup
    (exceeds : OuterExceeds f left outer right outer')
    (inner : Option Expression) :
    OuterExceeds f (left.closeGroup inner).value outer (right.closeGroup inner).value outer' := by
  cases exceeds with
  | outermost exceeds => exact .outermost (exceeds.closeGroup inner)
  | within current exceeds => exact .within _ exceeds

theorem OuterExceeds.advance
    (exceeds : OuterExceeds f left outer right outer')
    (piece : Piece) :
    Advance.Exceeds f (advance piece left outer).result (advance piece right outer').result := by
  -- Closing a bracket changes the sum around it, so the induction is on the sums that are open.
  induction outer generalizing left right outer' with
  | nil =>
      obtain ⟨exceeds⟩ := exceeds
      rw [Expression.advance.eq_def, Expression.advance.eq_def,
        Attempt.result_bind_of_result (Attempt.result_ofNoted _),
        Attempt.result_bind_of_result (Attempt.result_ofNoted _)]
      generalize (left.read piece).value = leftStep, (right.read piece).value = rightStep,
        exceeds.read piece = steps
      cases steps with
      | onward exceeds => exact .reading (.outermost exceeds)
      | inward exceeds => exact .reading (.within {} (.outermost exceeds))
      | outward exceeds => exact .ended exceeds
  | cons parent others inductionHypothesis =>
      have lengths := exceeds.length_eq
      cases exceeds with
      | @within _ parent' _ others' current exceeds =>
          rw [Expression.advance.eq_def, Expression.advance.eq_def,
            Attempt.result_bind_of_result (Attempt.result_ofNoted _),
            Attempt.result_bind_of_result (Attempt.result_ofNoted _), ← lengths]
          cases (left.read piece).value with
          | onward next => exact .reading (.within next exceeds)
          | inward outside =>
              by_cases room : (parent :: others).length < nestingLimit
              · simp only [if_pos room]
                exact .reading (.within {} (.within outside exceeds))
              · simp only [if_neg room]
                exact .fault _
          | outward inner =>
              have joined := exceeds.closeGroup inner
              by_cases closing : piece = .closing
              · simp only [if_pos closing]
                exact .reading joined
              · simp only [if_neg closing]
                exact inductionHypothesis joined

theorem OuterExceeds.close
    (exceeds : OuterExceeds f left outer right outer') :
    sumMeaning (close right outer').value = f + sumMeaning (close left outer).value := by
  induction outer generalizing left right outer' with
  | nil =>
      obtain ⟨exceeds⟩ := exceeds
      exact exceeds.stop
  | cons parent others inductionHypothesis =>
      cases exceeds with
      | @within _ parent' _ others' current exceeds =>
          have joined := inductionHypothesis (exceeds.closeGroup left.stop.value)
          exact joined

/-- Reading has one result, whether something was added in front or is the start of the
outermost sum. -/
theorem OuterExceeds.readAll
    (exceeds : OuterExceeds f left outer right outer')
    {total total' : Expression}
    (carried : total.meaning = total'.meaning + f)
    (source : String)
    (pieces : List Piece) :
    (Reader.readAll source ⟨total, left, outer⟩ pieces).result.map meaning =
      (Reader.readAll source ⟨total', right, outer'⟩ pieces).result.map meaning := by
  induction pieces generalizing f left right outer outer' total total' with
  | nil =>
      rw [Reader.result_readAll_nil, Reader.result_readAll_nil]
      change Except.ok _ = Except.ok _
      rw [meaning_extend, meaning_extend, exceeds.close, carried, add_assoc]
  | cons piece rest inductionHypothesis =>
      have advances := exceeds.advance piece
      generalize leftAdvances : (Expression.advance piece left outer).result = leftAdvance,
        rightAdvances : (Expression.advance piece right outer').result = rightAdvance at advances
      cases advances with
      | fault fault =>
          rw [Reader.result_readAll_of_fault total rest leftAdvances,
            Reader.result_readAll_of_fault total' rest rightAdvances]
      | reading exceeds =>
          rw [Reader.result_readAll_of_reading total rest leftAdvances,
            Reader.result_readAll_of_reading total' rest rightAdvances]
          exact inductionHypothesis exceeds carried
      | @ended leftSum rightSum exceeds =>
          rw [Reader.result_readAll_of_ended total rest leftAdvances,
            Reader.result_readAll_of_ended total' rest rightAdvances]
          -- Both readers start afresh, so nothing is carried over any more.
          have same : OuterExceeds 0 {} [] {} [] :=
            .outermost ⟨none, (zero_add _).symm, rfl⟩
          refine inductionHypothesis same ?_
          rw [meaning_extend, meaning_extend, exceeds, carried, add_zero, add_assoc]

/-! ## A closing bracket with nothing to close -/

/-- Behind a factor of the outermost sum, in front of a sign or of nothing, a closing bracket is
as good as absent. -/
theorem Reader.meaning_readAll_closing
    {source : String} {total product : Expression} {current : OpenSum}
    (factors : current.product = some product)
    (place : current.place = .joint)
    {pieces : List Piece}
    (follows : pieces = [] ∨ ∃ negative rest, pieces = .sign negative :: rest) :
    (Reader.readAll source ⟨total, current, []⟩ (.closing :: pieces)).result.map meaning =
      (Reader.readAll source ⟨total, current, []⟩ pieces).result.map meaning := by
  have stops : current.stop.value = some (current.totalWith product) := by
    rw [OpenSum.value_stop, factors]
    rfl
  have skips : (Reader.read source ⟨total, current, []⟩ .closing).result =
      .ok { total := total.extend current.stop.value } := result_read_of_outward rfl
  rw [stops] at skips
  rw [result_readAll_cons skips]
  rcases follows with rfl | ⟨negative, rest, rfl⟩
  · have closes : (close current []).value = some (current.totalWith product) := stops
    rw [result_readAll_nil, result_readAll_nil, closes]
    rfl
  · let afresh : OpenSum := { negative, touched := true }
    have begins : (({} : OpenSum).read (.sign negative)).value = .onward afresh := by
      cases negative <;> rfl
    have ends : (current.read (.sign negative)).value =
        .onward { afresh with total := some (current.totalWith product) } := by
      change (current.readSign negative).value = _
      rw [OpenSum.readSign, place]
      change (current.endAtSign negative).value = _
      rw [OpenSum.endAtSign, factors]
      rfl
    rw [result_readAll_cons (read_onward begins).result,
      result_readAll_cons (read_onward ends).result]
    have exceeds : OuterExceeds (current.totalWith product).meaning afresh []
        { afresh with total := some (current.totalWith product) } [] := by
      refine .outermost ⟨_, ?_, rfl⟩
      rw [sumMeaning_some, sumMeaning_none, add_zero]
    have carried : (total.extend (some (current.totalWith product))).meaning =
        total.meaning + (current.totalWith product).meaning := by
      rw [meaning_extend, sumMeaning_some]
    exact exceeds.readAll carried source rest

end Expression

namespace Polynomial

/-- Expressions that denote the same have the same polynomial. -/
theorem map_toPolynomial_eq_of_meaning
    {left right : Except Fault Expression}
    (same : left.map Expression.meaning = right.map Expression.meaning) :
    left.map Expression.toPolynomial =
      (right.map Expression.toPolynomial : Except Fault (Polynomial ℤ)) := by
  cases left with
  | error fault =>
      cases right with
      | error fault' =>
          cases same
          rfl
      | ok right => cases same
  | ok left =>
      cases right with
      | error fault => cases same
      | ok right =>
          have meanings : left.meaning = right.meaning := Except.ok.inj same
          have notes : (left.toPolynomial : Polynomial ℤ).note = right.toPolynomial.note :=
            (note_toPolynomial left).trans (note_toPolynomial right).symm
          exact congrArg Except.ok ((canonical_toPolynomial left).eq_of_meaning_eq
            (canonical_toPolynomial right) notes meanings)

end Polynomial
end PolyMatrix

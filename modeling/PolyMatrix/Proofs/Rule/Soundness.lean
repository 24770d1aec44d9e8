import PolyMatrix.Proofs.Polynomial.Substitution
import PolyMatrix.Proofs.Rule.Composition

/-!
# Rule sets keep values

Where both sides of every rule have one value, a rule set leaves the value of a
polynomial as it is, in either mode: a rule that does not match or is turned down
changes nothing, and a rule that is applied is an exact substitution.
-/

namespace PolyMatrix

/-- Under an assignment both sides of a rule have one value. -/
def Rule.HoldsAt (assignment : String → ℤ) (rule : Rule ℤ) : Prop :=
  rule.pattern.eval assignment = rule.replacement.eval assignment

instance
    (assignment : String → ℤ)
    (rule : Rule ℤ) : Decidable (rule.HoldsAt assignment) :=
  inferInstanceAs (Decidable (_ = _))

theorem Rule.HoldsAt.eval_meaning
    {assignment : String → ℤ}
    {rule : Rule ℤ}
    (holds : rule.HoldsAt assignment) :
    MvPolynomial.eval assignment (rule.pattern.scaled 1) =
      MvPolynomial.eval assignment rule.replacement.meaning := by
  rw [Monomial.eval_scaled, one_mul, Polynomial.eval_meaning]
  exact holds

namespace RuleSet

section Values

variable {R : Type} [CommRing R] (value : MvPolynomial String ℤ →+* R)

/-- Rules keep the value, whichever of them match and are accepted. -/
theorem value_applyTo
    (set : RuleSet ℤ)
    (sameValue : ∀ rule ∈ set.rules,
      value (rule.pattern.scaled 1) = value rule.replacement.meaning)
    (p : Polynomial ℤ) :
    value (set.applyTo p).value.meaning = value p.meaning := by
  refine set.applyTo_keeps (fun q => value q.meaning = value p.meaning) ?_ rfl
  intro rule member before after substituted _ kept
  rw [← kept]
  exact Polynomial.value_of_substitute? value (sameValue rule member) substituted

end Values

theorem eval_applyTo
    (set : RuleSet ℤ)
    (assignment : String → ℤ)
    (holds : ∀ rule ∈ set.rules, rule.HoldsAt assignment)
    (p : Polynomial ℤ) :
    (set.applyTo p).value.eval assignment = p.eval assignment := by
  rw [← Polynomial.eval_meaning, ← Polynomial.eval_meaning]
  apply value_applyTo
  intro rule member
  exact (holds rule member).eval_meaning

/-- A rule replaces nothing exactly where its pattern divides no monomial, and else
gives the canonical sum of all replaced summands.  Hence rule sets in either mode
keep the value under every assignment at which their rules hold. -/
theorem rewriting_exact_and_sound (p : Polynomial ℤ) :
    (∀ rule : Rule ℤ,
      (rule.applyTo? p = none ↔
        ∀ term ∈ p.terms, ¬rule.pattern.Divides term.1) ∧
      ∀ q, rule.applyTo? p = some q →
        q.Canonical ∧
          q.meaning =
            (p.terms.map (Polynomial.replaced rule.pattern rule.replacement)).sum) ∧
    ∀ (set : RuleSet ℤ) (assignment : String → ℤ),
      (∀ rule ∈ set.rules, rule.HoldsAt assignment) →
        (set.applyTo p).value.eval assignment = p.eval assignment := by
  constructor
  · intro rule
    constructor
    · rw [Rule.applyTo?, Polynomial.substitute?_eq_none_iff]
      exact forall₂_congr fun term _ => Monomial.divide?_eq_none_iff term.1 rule.pattern
    · intro q applied
      exact ⟨Polynomial.canonical_of_substitute? applied,
        Polynomial.meaning_of_substitute? applied⟩
  · intro set assignment holds
    exact eval_applyTo set assignment holds p

/-- On the unit circle `c c` may be replaced by `1 - s s`. -/
theorem rewriting_exact_and_sound_circle :
    let circle : Rule ℤ :=
      ⟨.ofSymbols ["c", "c"], .ofTerms [(.unit, 1), (.ofSymbols ["s", "s"], -1)]⟩
    let top : String → ℤ := fun symbol => if symbol = "s" then 1 else 0
    let p : Polynomial ℤ := .ofTerms [(.ofSymbols ["c", "c", "s"], 3), (.unit, 2)]
    circle.HoldsAt top ∧ (RuleSet.applyTo ⟨.always, [circle]⟩ p).value.eval top = 2 := by
  intro circle top p
  have holds : circle.HoldsAt top := by decide +kernel
  have kept := (rewriting_exact_and_sound p).2 ⟨.always, [circle]⟩ top
    (List.forall_mem_singleton.mpr holds)
  refine ⟨holds, kept.trans ?_⟩
  decide +kernel

end RuleSet
end PolyMatrix

import PolyMatrix.Rule.Basic

/-!
# Rules one after another

A rule gives something exactly if its pattern occurs and the mode accepts what comes of it,
and the rules behind it are applied to that, or else to what there was before.  So rules keep
what each accepted application keeps, and two lists of rules joined do what the first does
and then what the second does with the result.
-/

namespace PolyMatrix
namespace RuleSet

variable {K : Type} [Add K] [Mul K] [Coefficient K]

/-- What a rule gives comes of its pattern, and the mode accepts it. -/
theorem accepts_of_value_applyRule?
    {mode : RuleMode}
    {rule : Rule K}
    {p q : Polynomial K}
    (applied : (applyRule? mode rule p).value = some q) :
    rule.applyTo? p = some q ∧ mode.accepts p q = true := by
  unfold applyRule? at applied
  split at applied
  · cases applied
  · rename_i candidate substituted
    split at applied
    · rename_i accepted
      obtain rfl := Option.some.inj applied
      exact ⟨substituted, accepted⟩
    · cases applied

theorem applyTo_nil (mode : RuleMode) (p : Polynomial K) : applyTo ⟨mode, []⟩ p = pure p :=
  rfl

/-- The rules behind the first are applied to its result, or to what it was applied to. -/
theorem applyTo_cons
    (mode : RuleMode)
    (rule : Rule K)
    (rest : List (Rule K))
    (p : Polynomial K) :
    applyTo ⟨mode, rule :: rest⟩ p =
      applyRule? mode rule p >>= fun changed => applyTo ⟨mode, rest⟩ (changed.getD p) := by
  rw [applyTo, applyTo?, applyRules?, bind_assoc]
  congr 1
  funext changed
  cases changed with
  | none => rfl
  | some q =>
      simp only [bind_assoc, pure_bind]
      rfl

theorem value_applyTo?_cons_eq_none_iff
    (mode : RuleMode)
    (rule : Rule K)
    (rest : List (Rule K))
    (p : Polynomial K) :
    (applyTo? ⟨mode, rule :: rest⟩ p).value = none ↔
      (applyRule? mode rule p).value = none ∧ (applyTo? ⟨mode, rest⟩ p).value = none := by
  rw [applyTo?, applyRules?, Noted.value_bind]
  cases (applyRule? mode rule p).value with
  | none => exact (and_iff_right rfl).symm
  | some q =>
      exact iff_of_false (Option.some_ne_none _) fun both => Option.some_ne_none q both.1

/-- What every accepted application keeps, all rules together keep. -/
theorem applyTo_keeps
    (set : RuleSet K)
    (property : Polynomial K → Prop)
    (step : ∀ rule ∈ set.rules, ∀ p q, rule.applyTo? p = some q →
      set.mode.accepts p q = true → property p → property q)
    {p : Polynomial K}
    (start : property p) : property (set.applyTo p).value := by
  obtain ⟨mode, rules⟩ := set
  induction rules generalizing p with
  | nil => exact start
  | cons rule rest inductionHypothesis =>
      have kept : property ((applyRule? mode rule p).value.getD p) := by
        cases applied : (applyRule? mode rule p).value with
        | none => exact start
        | some q =>
            have ⟨substituted, accepted⟩ := accepts_of_value_applyRule? applied
            exact step rule List.mem_cons_self p q substituted accepted start
      rw [applyTo_cons, Noted.value_bind]
      exact inductionHypothesis kept fun later member =>
        step later (List.mem_cons_of_mem _ member)

/-- Lists of rules joined are applied one after the other, with the notices of both. -/
theorem applyTo_append
    (mode : RuleMode)
    (first second : List (Rule K))
    (p : Polynomial K) :
    applyTo ⟨mode, first ++ second⟩ p =
      applyTo ⟨mode, first⟩ p >>= applyTo ⟨mode, second⟩ := by
  induction first generalizing p with
  | nil =>
      rw [List.nil_append, applyTo_nil, pure_bind]
  | cons rule rest inductionHypothesis =>
      rw [List.cons_append, applyTo_cons, applyTo_cons, bind_assoc]
      congr 1
      funext changed
      exact inductionHypothesis _

/-- A list in front that changes nothing leaves the polynomial itself to the list behind. -/
theorem value_applyTo?_append_eq_none_iff
    (mode : RuleMode)
    (first second : List (Rule K))
    (p : Polynomial K) :
    (applyTo? ⟨mode, first ++ second⟩ p).value = none ↔
      (applyTo? ⟨mode, first⟩ p).value = none ∧ (applyTo? ⟨mode, second⟩ p).value = none := by
  induction first with
  | nil => exact (and_iff_right rfl).symm
  | cons rule rest inductionHypothesis =>
      rw [List.cons_append, value_applyTo?_cons_eq_none_iff, value_applyTo?_cons_eq_none_iff,
        inductionHypothesis, and_assoc]

/-- In reducing mode each result is compared with what its rule was applied to, so a whole
list makes nothing heavier. -/
theorem weight_applyTo_le (rules : List (Rule K)) (p : Polynomial K) :
    (applyTo ⟨.ifReducing, rules⟩ p).value.weight ≤ p.weight := by
  refine applyTo_keeps _ (fun q => q.weight ≤ p.weight) ?_ (Nat.le_refl _)
  intro rule _ before after _ accepted lighter
  exact Nat.le_trans (of_decide_eq_true accepted) lighter

end RuleSet
end PolyMatrix

import Mathlib.Data.List.Forall2
import PolyMatrix.Noted

/-!
# Sequences of attempts

Attempts made one after another succeed if each of them does, and otherwise end in the fault
of the first one that does not.
-/

namespace PolyMatrix
namespace Attempt

variable {α β : Type}

/-! ## Two attempts -/

/-- A sequence has no fault if neither part has one. -/
theorem result_bind_eq_ok_iff {first : Attempt α} {next : α → Attempt β} {final : β} :
    (first >>= next).result = .ok final ↔
      ∃ value, first.result = .ok value ∧ (next value).result = .ok final := by
  constructor
  · exact exists_of_result_bind
  · rintro ⟨value, reached, ended⟩
    rw [result_bind_of_result reached, ended]

/-- A sequence has the fault of its first part, or that of its second part. -/
theorem result_bind_eq_error_iff {first : Attempt α} {next : α → Attempt β} {fault : Fault} :
    (first >>= next).result = .error fault ↔
      first.result = .error fault ∨
        ∃ value, first.result = .ok value ∧ (next value).result = .error fault := by
  rw [result_bind]
  cases first.result with
  | error other =>
      constructor
      · rintro ⟨⟩
        exact .inl rfl
      · rintro (⟨⟨⟩⟩ | ⟨value, ⟨⟩, -⟩)
        rfl
  | ok value =>
      constructor
      · exact fun ended => .inr ⟨value, rfl, ended⟩
      · rintro (⟨⟨⟩⟩ | ⟨_, ⟨⟩, ended⟩)
        exact ended

/-- What is made of a value in the end has the faults of the value. -/
theorem result_bind_pure_eq_error_iff
    {first : Attempt α} {fault : Fault}
    (f : α → β) :
    (first >>= fun value => pure (f value)).result = .error fault ↔
      first.result = .error fault := by
  rw [result_bind_eq_error_iff]
  constructor
  · rintro (fails | ⟨value, -, ⟨⟩⟩)
    exact fails
  · exact .inl

/-! ## Lists of attempts -/

variable {read : α → Attempt β}

/-- All attempts succeed, each with its own value. -/
theorem result_mapM_eq_ok_iff {items : List α} {values : List β} :
    (items.mapM read).result = .ok values ↔
      List.Forall₂ (fun item value => (read item).result = .ok value) items values := by
  induction items generalizing values with
  | nil =>
      rw [List.forall₂_nil_left_iff]
      constructor
      · rintro ⟨⟩
        rfl
      · rintro rfl
        rfl
  | cons item rest inductionHypothesis =>
      rw [List.mapM_cons, result_bind_eq_ok_iff, List.forall₂_cons_left_iff]
      simp only [result_bind_eq_ok_iff, inductionHypothesis]
      constructor
      · rintro ⟨value, reads, others, later, ⟨⟩⟩
        exact ⟨value, others, reads, later, rfl⟩
      · rintro ⟨value, others, reads, later, rfl⟩
        exact ⟨value, reads, others, later, rfl⟩

/-- The first attempt that fails is the fault of all of them. -/
theorem result_mapM_eq_error_iff {items : List α} {fault : Fault} :
    (items.mapM read).result = .error fault ↔
      ∃ front item rest, items = front ++ item :: rest ∧
        (∀ earlier ∈ front, ∃ value, (read earlier).result = .ok value) ∧
        (read item).result = .error fault := by
  induction items with
  | nil =>
      constructor
      · rintro ⟨⟩
      · rintro ⟨front, item, rest, whole, -, -⟩
        simp at whole
  | cons item rest inductionHypothesis =>
      rw [List.mapM_cons, result_bind_eq_error_iff]
      simp only [result_bind_pure_eq_error_iff, inductionHypothesis]
      constructor
      · rintro (fails | ⟨value, reads, front, failing, later, rfl, succeed, fails⟩)
        · exact ⟨[], item, rest, rfl, List.forall_mem_nil _, fails⟩
        · exact ⟨item :: front, failing, later, rfl,
            List.forall_mem_cons.mpr ⟨⟨value, reads⟩, succeed⟩, fails⟩
      · rintro ⟨front, failing, later, whole, succeed, fails⟩
        cases front with
        | nil =>
            obtain ⟨rfl, -⟩ := List.cons.inj whole
            exact .inl fails
        | cons first others =>
            obtain ⟨rfl, behind⟩ := List.cons.inj whole
            obtain ⟨⟨value, reads⟩, succeed⟩ := List.forall_mem_cons.mp succeed
            exact .inr ⟨value, reads, others, failing, later, behind, succeed, fails⟩

end Attempt
end PolyMatrix

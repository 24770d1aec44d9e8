import PolyMatrix.Fault
import PolyMatrix.Notice

/-!
# Results with notices

A computation yields its value together with the notices it made on the way, in
order.  Taking the value forgets the notices and respects sequencing, so facts
about values are proved as if there were none.  A computation that can fail
keeps the notices it made before.
-/

namespace PolyMatrix

/-- A value and the notices made while it was computed. -/
structure Noted (α : Type) where
  /-- What was computed. -/
  value : α
  /-- What there was to tell, oldest first. -/
  notices : List Notice

/-- A computation that may end in a fault. -/
abbrev Attempt :=
  ExceptT Fault Noted

namespace Noted

variable {α β : Type}

instance : Monad Noted where
  pure value := ⟨value, []⟩
  bind first next :=
    let second := next first.value
    ⟨second.value, first.notices ++ second.notices⟩

/-- Makes a notice. -/
def note (notice : Notice) : Noted Unit :=
  ⟨(), [notice]⟩

@[simp] theorem value_pure (value : α) : (pure value : Noted α).value = value :=
  rfl

@[simp] theorem notices_pure (value : α) : (pure value : Noted α).notices = [] :=
  rfl

/-- The value of a sequence is the value of its second part. -/
@[simp] theorem value_bind (first : Noted α) (next : α → Noted β) :
    (first >>= next).value = (next first.value).value :=
  rfl

/-- A sequence makes the notices of both parts, in order. -/
@[simp] theorem notices_bind (first : Noted α) (next : α → Noted β) :
    (first >>= next).notices = first.notices ++ (next first.value).notices :=
  rfl

@[simp] theorem value_map (f : α → β) (noted : Noted α) :
    (f <$> noted).value = f noted.value :=
  rfl

@[simp] theorem notices_map (f : α → β) (noted : Noted α) :
    (f <$> noted).notices = noted.notices := by
  change noted.notices ++ [] = noted.notices
  simp

@[simp] theorem notices_note (notice : Notice) : (note notice).notices = [notice] :=
  rfl

/-- Equal values with equal notices are equal results. -/
@[ext] theorem ext
    {left right : Noted α}
    (sameValue : left.value = right.value)
    (sameNotices : left.notices = right.notices) : left = right := by
  cases left
  cases right
  cases sameValue
  cases sameNotices
  rfl

instance : LawfulMonad Noted :=
  LawfulMonad.mk' Noted
    (fun noted => by ext <;> simp)
    (fun value next => by ext <;> simp)
    (fun noted second third => by ext <;> simp)

/-- A fold that makes notices has the value of the fold that makes none. -/
theorem value_foldlM
    (step : β → α → Noted β)
    (items : List α)
    (start : β) :
    (items.foldlM step start).value =
      items.foldl (fun state item => (step state item).value) start := by
  induction items generalizing start with
  | nil => rfl
  | cons item rest inductionHypothesis =>
      rw [List.foldlM_cons, value_bind, inductionHypothesis, List.foldl_cons]

end Noted

namespace Attempt

variable {α : Type}

/-- Makes a notice. -/
def note (notice : Notice) : Attempt Unit :=
  ExceptT.lift (Noted.note notice)

/-- Ends in a fault. -/
def fail (fault : Fault) : Attempt α :=
  ExceptT.mk (pure (.error fault))

/-- A computation that can fail but has nothing to tell. -/
def ofExcept (result : Except Fault α) : Attempt α :=
  ExceptT.mk (pure result)

/-- A computation that has something to tell but cannot fail. -/
def ofNoted (noted : Noted α) : Attempt α :=
  ExceptT.lift noted

/-- The value or the fault in which an attempt ends. -/
def result (attempt : Attempt α) : Except Fault α :=
  (ExceptT.run attempt).value

/-- The notices made up to there. -/
def notices (attempt : Attempt α) : List Notice :=
  (ExceptT.run attempt).notices

@[simp] theorem result_pure (value : α) :
    result (pure value : Attempt α) = .ok value :=
  rfl

@[simp] theorem notices_pure (value : α) : notices (pure value : Attempt α) = [] :=
  rfl

@[simp] theorem result_note (notice : Notice) : result (note notice) = .ok () :=
  rfl

@[simp] theorem notices_note (notice : Notice) : notices (note notice) = [notice] :=
  rfl

@[simp] theorem result_fail (fault : Fault) :
    result (fail fault : Attempt α) = .error fault :=
  rfl

@[simp] theorem result_ofExcept (outcome : Except Fault α) :
    result (ofExcept outcome) = outcome :=
  rfl

@[simp] theorem notices_ofExcept (outcome : Except Fault α) :
    notices (ofExcept outcome) = [] :=
  rfl

@[simp] theorem result_ofNoted (noted : Noted α) :
    result (ofNoted noted) = .ok noted.value :=
  rfl

@[simp] theorem notices_ofNoted (noted : Noted α) :
    notices (ofNoted noted) = noted.notices := by
  change noted.notices ++ [] = noted.notices
  simp

theorem ofNoted_bind {β : Type} (first : Noted α) (next : α → Noted β) :
    ofNoted (first >>= next) = ofNoted first >>= fun value => ofNoted (next value) :=
  ExceptT.lift_bind first next

/-- What comes second is reached only through a first part without fault. -/
@[simp] theorem result_bind {β : Type} (first : Attempt α) (next : α → Attempt β) :
    result (first >>= next) = result first >>= fun value => result (next value) := by
  change (ExceptT.bindCont next (ExceptT.run first).value).value = _
  unfold result
  cases (ExceptT.run first).value <;> rfl

theorem result_bind_of_result
    {first : Attempt α} {value : α}
    (reached : first.result = .ok value)
    (next : α → Attempt β) : (first >>= next).result = (next value).result := by
  rw [result_bind, reached]
  rfl

/-- A sequence without fault has no fault in either part. -/
theorem exists_of_result_bind
    {first : Attempt α} {next : α → Attempt β} {final : β}
    (reached : (first >>= next).result = .ok final) :
    ∃ value, first.result = .ok value ∧ (next value).result = .ok final := by
  rw [result_bind] at reached
  cases outcome : first.result with
  | error fault =>
      rw [outcome] at reached
      cases reached
  | ok value =>
      rw [outcome] at reached
      exact ⟨value, rfl, reached⟩

/-- What the first part of a sequence notices stays noticed. -/
theorem mem_notices_bind
    {first : Attempt α} {notice : Notice}
    (next : α → Attempt β)
    (noticed : notice ∈ first.notices) : notice ∈ (first >>= next).notices := by
  change notice ∈ (ExceptT.run first).notices ++ _
  exact List.mem_append_left _ noticed

/-- A sequence whose first part has no fault makes the notices of both parts. -/
theorem notices_bind_of_result
    {first : Attempt α} {value : α}
    (reached : first.result = .ok value)
    (next : α → Attempt β) :
    notices (first >>= next) = first.notices ++ (next value).notices := by
  change (ExceptT.run first).notices ++
    (ExceptT.bindCont next (ExceptT.run first).value).notices = _
  unfold result at reached
  rw [reached]
  rfl

/-- A sequence whose first part has a fault makes the notices up to there. -/
theorem notices_bind_of_fault
    {first : Attempt α} {fault : Fault}
    (fails : first.result = .error fault)
    (next : α → Attempt β) : notices (first >>= next) = first.notices := by
  change (ExceptT.run first).notices ++
    (ExceptT.bindCont next (ExceptT.run first).value).notices = _
  unfold result at fails
  rw [fails]
  exact List.append_nil _

/-- What is made of a value in the end is not noticed. -/
theorem notices_bind_pure {β : Type} (first : Attempt α) (f : α → β) :
    notices (first >>= fun value => pure (f value)) = first.notices := by
  let next : α → Attempt β := fun value => pure (f value)
  change (ExceptT.run first).notices ++
    (ExceptT.bindCont next (ExceptT.run first).value).notices = _
  cases (ExceptT.run first).value with
  | error fault => exact List.append_nil _
  | ok value => exact List.append_nil _

end Attempt
end PolyMatrix

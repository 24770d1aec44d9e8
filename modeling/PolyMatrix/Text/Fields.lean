/-!
# Fields of a text

Cutting a text at every character that separates.  A text with `n` separators
has `n + 1` fields, and writing the separator between them gives the text back.
-/

namespace PolyMatrix
namespace Text

/-- The pieces between separators, in order; two separators side by side have an
empty piece between them. -/
def fields (separates : Char → Bool) : List Char → List (List Char)
  | [] => [[]]
  | character :: rest =>
      if separates character then
        [] :: fields separates rest
      else
        match fields separates rest with
        | [] => [[character]]
        | field :: others => (character :: field) :: others

/-- The fields of the empty text are one empty field. -/
@[simp] theorem fields_nil (separates : Char → Bool) :
    fields separates [] = [[]] :=
  rfl

/-- A text always has a field. -/
theorem fields_ne_nil (separates : Char → Bool) (text : List Char) :
    fields separates text ≠ [] := by
  cases text with
  | nil => simp
  | cons character rest =>
      unfold fields
      split
      · simp
      · split <;> simp

/-- A separator starts a new field. -/
@[simp] theorem fields_cons_of_separates
    (separates : Char → Bool)
    {character : Char}
    (rest : List Char)
    (separator : separates character = true) :
    fields separates (character :: rest) = [] :: fields separates rest := by
  simp [fields, separator]

/-- Any other character belongs to the first field of what follows it. -/
theorem fields_cons_of_not_separates
    (separates : Char → Bool)
    {character : Char}
    (rest : List Char)
    (inside : separates character = false) :
    ∃ field others, fields separates rest = field :: others ∧
      fields separates (character :: rest) = (character :: field) :: others := by
  cases split : fields separates rest with
  | nil => exact absurd split (fields_ne_nil separates rest)
  | cons field others => exact ⟨field, others, rfl, by simp [fields, inside, split]⟩

/-- Writing the separator between the fields gives the text back. -/
theorem intercalate_fields (separator : Char) (text : List Char) :
    [separator].intercalate (fields (· == separator) text) = text := by
  induction text with
  | nil => simp [List.intercalate]
  | cons character rest inductionHypothesis =>
      by_cases separates : (character == separator) = true
      · have same : character = separator := by simpa using separates
        rw [fields_cons_of_separates (· == separator) rest separates]
        cases split : fields (· == separator) rest with
        | nil => exact absurd split (fields_ne_nil _ rest)
        | cons field others =>
            rw [split] at inductionHypothesis
            simp [List.intercalate, same] at inductionHypothesis ⊢
            exact inductionHypothesis
      · obtain ⟨field, others, split, cut⟩ :=
          fields_cons_of_not_separates (· == separator) rest
            (by simpa using separates)
        rw [cut]
        rw [split] at inductionHypothesis
        cases others with
        | nil =>
            simp [List.intercalate] at inductionHypothesis ⊢
            exact inductionHypothesis
        | cons second others =>
            simp [List.intercalate] at inductionHypothesis ⊢
            exact inductionHypothesis

end Text
end PolyMatrix

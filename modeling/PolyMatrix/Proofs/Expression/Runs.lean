import PolyMatrix.Proofs.Expression.Layout

/-!
# Runs of digits and points

Taking the names out of a text, from left to right and each as long as it can be, leaves
gaps.  The runs of a text are what its gaps have of digits and points, and a run is a numeral
if it has a digit and at most one point.  So a digit belongs to a name where one began before
it, and to a run everywhere else.

A text is empty, or begins with a name, a run or a character that belongs to neither, and its
runs are found by going from one of them to the next.
-/

namespace PolyMatrix
namespace Token

/-! ## Gaps -/

/-- What is left of a text if its names are taken out, from left to right and each as long as
it can be: a part in front of the first one, between any two and behind the last one. -/
def gaps (text : List Char) : List (List Char) :=
  match _ : text.dropWhile fun character => !Text.isNameStart character with
  | [] => [text]
  | _ :: rest =>
      text.takeWhile (fun character => !Text.isNameStart character) ::
        gaps (rest.dropWhile Text.isNameCharacter)
termination_by text.length
decreasing_by
  rename_i begins
  have behindName := List.length_dropWhile_le Text.isNameCharacter rest
  have behindGap :=
    List.length_dropWhile_le (fun character => !Text.isNameStart character) text
  rw [begins, List.length_cons] at behindGap
  omega

/-- A text in which no name begins is its only gap. -/
theorem gaps_eq_singleton
    {text : List Char}
    (noName : ∀ character ∈ text, Text.isNameStart character = false) :
    gaps text = [text] := by
  have dropped : text.dropWhile (fun character => !Text.isNameStart character) = [] := by
    rw [List.dropWhile_eq_nil_iff]
    simpa using noName
  rw [gaps]
  split
  · rfl
  · rename_i begins
    cases dropped.symm.trans begins

/-- Up to the first name there is one gap, and the next one begins where the name ends. -/
theorem gaps_append_name
    {gap : List Char}
    (noName : ∀ character ∈ gap, Text.isNameStart character = false)
    {first : Char}
    (start : Text.isNameStart first = true)
    (rest : List Char) :
    gaps (gap ++ first :: rest) = gap :: gaps (rest.dropWhile Text.isNameCharacter) := by
  have kept : ∀ character ∈ gap, (!Text.isNameStart character) = true := by
    simpa using noName
  have stops : (!Text.isNameStart first) = false := by simpa using start
  have dropped := Text.dropWhile_append_stop kept stops rest
  rw [gaps]
  split
  · rename_i begins
    cases dropped.symm.trans begins
  · rename_i begins
    cases dropped.symm.trans begins
    rw [Text.takeWhile_append_stop kept stops]

/-- Where no name begins a text goes on with its first gap. -/
theorem gaps_append
    {front : List Char}
    (noName : ∀ character ∈ front, Text.isNameStart character = false)
    (rest : List Char) :
    ∃ gap others, gap <+: rest ∧ gaps rest = gap :: others ∧
      gaps (front ++ rest) = (front ++ gap) :: others := by
  rcases Text.none_or_first_stop Text.isNameStart rest with
    whole | ⟨gap, first, later, rfl, whole, start⟩
  · exact ⟨rest, [], List.prefix_refl rest, gaps_eq_singleton whole,
      gaps_eq_singleton (List.forall_mem_append.mpr ⟨noName, whole⟩)⟩
  · refine ⟨gap, _, List.prefix_append gap _, gaps_append_name whole start later, ?_⟩
    rw [← List.append_assoc]
    exact gaps_append_name (List.forall_mem_append.mpr ⟨noName, whole⟩) start later

/-! ## Runs -/

/-- A part of a text that consists of digits and points and goes on as long as it can to both
sides. -/
def IsRun (text run : List Char) : Prop :=
  ∃ front back, text = front ++ run ++ back ∧ run ≠ [] ∧
    (∀ character ∈ run, Decimal.isLiteralCharacter character = true) ∧
    (∀ last ∈ front.getLast?, Decimal.isLiteralCharacter last = false) ∧
    ∀ next ∈ back.head?, Decimal.isLiteralCharacter next = false

/-- The runs of digits and points, from left to right. -/
def runs (text : List Char) : List (List Char) :=
  (Text.fields (fun character => !Decimal.isLiteralCharacter character) text).filter (· ≠ [])

theorem mem_runs_iff {text run : List Char} : run ∈ runs text ↔ IsRun text run := by
  rw [runs, List.mem_filter, Text.mem_fields_iff, IsRun]
  simp only [Bool.not_eq_eq_eq_not, Bool.not_false, Bool.not_true, decide_eq_true_eq]
  constructor
  · rintro ⟨⟨front, back, split, inside, before, behind⟩, nonempty⟩
    exact ⟨front, back, split, nonempty, inside, before, behind⟩
  · rintro ⟨front, back, split, nonempty, inside, before, behind⟩
    exact ⟨⟨front, back, split, inside, before, behind⟩, nonempty⟩

@[simp] theorem runs_nil : runs [] = [] :=
  rfl

/-- A character that is neither a digit nor a point is in no run. -/
theorem runs_cons_of_not_literal
    {character : Char}
    (other : Decimal.isLiteralCharacter character = false)
    (rest : List Char) : runs (character :: rest) = runs rest := by
  have separates : (!Decimal.isLiteralCharacter character) = true := by simpa using other
  rw [runs, Text.fields_cons_of_separates _ _ separates]
  rfl

/-- Digits and points in front of a text that begins with neither are its first run. -/
theorem runs_append
    {run : List Char}
    (nonempty : run ≠ [])
    (literal : ∀ character ∈ run, Decimal.isLiteralCharacter character = true)
    {rest : List Char}
    (ends : ∀ next ∈ rest.head?, Decimal.isLiteralCharacter next = false) :
    runs (run ++ rest) = run :: runs rest := by
  have whole : ∀ character ∈ run, (!Decimal.isLiteralCharacter character) = false := by
    simpa using literal
  cases rest with
  | nil =>
      rw [List.append_nil, runs, Text.fields_eq_singleton whole]
      simp [nonempty]
  | cons next later =>
      have other := ends next rfl
      have separates : (!Decimal.isLiteralCharacter next) = true := by simpa using other
      rw [runs_cons_of_not_literal other, runs, Text.fields_append_separator whole separates,
        List.filter_cons_of_pos (by simpa using nonempty)]
      rfl

/-! ## Words of a text -/

/-- Every text is empty or begins with a name, a run, or a character that belongs to neither;
names and runs are as long as they can be. -/
@[elab_as_elim]
theorem induction_on_words
    {motive : List Char → Prop}
    (nil : motive [])
    (name : ∀ name rest, Text.isName name = true →
      (∀ next ∈ rest.head?, Text.isNameCharacter next = false) →
        motive rest → motive (name ++ rest))
    (run : ∀ run rest, run ≠ [] →
      (∀ character ∈ run, Decimal.isLiteralCharacter character = true) →
        (∀ next ∈ rest.head?, Decimal.isLiteralCharacter next = false) →
          motive rest → motive (run ++ rest))
    (other : ∀ character rest, Text.isNameStart character = false →
      Decimal.isLiteralCharacter character = false →
        motive rest → motive (character :: rest))
    (text : List Char) : motive text := by
  induction size : text.length using Nat.strong_induction_on generalizing text with
  | _ count inductionHypothesis =>
      cases text with
      | nil => exact nil
      | cons first rest =>
          rw [List.length_cons] at size
          have split (keep : Char → Bool) :
              first :: rest = (first :: rest.takeWhile keep) ++ rest.dropWhile keep := by
            rw [List.cons_append, List.takeWhile_append_dropWhile]
          have taken (keep : Char → Bool) :
              ∀ character ∈ rest.takeWhile keep, keep character = true :=
            fun _ => List.mem_takeWhile_imp
          have stops (keep : Char → Bool) :
              ∀ next ∈ (rest.dropWhile keep).head?, keep next = false := by
            intro next isNext
            have stopped := List.head?_dropWhile_not keep rest
            rw [Option.mem_def.mp isNext] at stopped
            simpa using stopped
          have behind (keep : Char → Bool) : motive (rest.dropWhile keep) := by
            have shorter := List.length_dropWhile_le keep rest
            exact inductionHypothesis _ (by omega) _ rfl
          by_cases start : Text.isNameStart first = true
          · rw [split Text.isNameCharacter]
            refine name _ _ ?_ (stops _) (behind _)
            rw [Text.isName, start, Bool.true_and, List.all_eq_true]
            exact taken _
          · by_cases literal : Decimal.isLiteralCharacter first = true
            · rw [split Decimal.isLiteralCharacter]
              exact run _ _ (List.cons_ne_nil _ _)
                (List.forall_mem_cons.mpr ⟨literal, taken _⟩) (stops _) (behind _)
            · exact other first rest (Bool.eq_false_iff.mpr start)
                (Bool.eq_false_iff.mpr literal)
                (inductionHypothesis rest.length (by omega) rest rfl)

/-! ## Runs outside of names -/

/-- The runs in the gaps between the names of a text, from left to right. -/
def looseRuns (text : List Char) : List (List Char) :=
  (gaps text).flatMap runs

@[simp] theorem looseRuns_nil : looseRuns [] = [] := by
  rw [looseRuns, gaps_eq_singleton (List.forall_mem_nil _)]
  rfl

/-- A name has no runs, whatever digits are in it. -/
theorem looseRuns_name
    {name : List Char}
    (isName : Text.isName name = true)
    {rest : List Char}
    (ends : ∀ next ∈ rest.head?, Text.isNameCharacter next = false) :
    looseRuns (name ++ rest) = looseRuns rest := by
  cases name with
  | nil => exact absurd rfl (Text.ne_nil_of_isName isName)
  | cons first later =>
      rw [Text.isName, Bool.and_eq_true, List.all_eq_true] at isName
      have behind : (later ++ rest).dropWhile Text.isNameCharacter = rest := by
        rw [List.dropWhile_append_of_pos isName.2, Text.dropWhile_eq_self ends]
      have cut := gaps_append_name (List.forall_mem_nil _) isName.1 (later ++ rest)
      rw [List.nil_append, behind] at cut
      rw [List.cons_append, looseRuns, cut, List.flatMap_cons, runs_nil, List.nil_append,
        looseRuns]

/-- Digits and points that end before the rest are its first run. -/
theorem looseRuns_run
    {run : List Char}
    (nonempty : run ≠ [])
    (literal : ∀ character ∈ run, Decimal.isLiteralCharacter character = true)
    {rest : List Char}
    (ends : ∀ next ∈ rest.head?, Decimal.isLiteralCharacter next = false) :
    looseRuns (run ++ rest) = run :: looseRuns rest := by
  have noName : ∀ character ∈ run, Text.isNameStart character = false := by
    intro character member
    refine Bool.eq_false_iff.mpr fun start => ?_
    exact absurd ((isLiteralCharacter_of_isNameStart start).symm.trans
      (literal character member)) Bool.false_ne_true
  obtain ⟨gap, others, begins, cut, cutBehind⟩ := gaps_append noName rest
  have gapEnds : ∀ next ∈ gap.head?, Decimal.isLiteralCharacter next = false := by
    obtain ⟨later, rfl⟩ := begins
    intro next isNext
    exact ends next (by rw [List.head?_append, Option.mem_def.mp isNext]; rfl)
  rw [looseRuns, looseRuns, cut, cutBehind, List.flatMap_cons, List.flatMap_cons,
    runs_append nonempty literal gapEnds, List.cons_append]

theorem looseRuns_cons
    {character : Char}
    (noName : Text.isNameStart character = false)
    (other : Decimal.isLiteralCharacter character = false)
    (rest : List Char) : looseRuns (character :: rest) = looseRuns rest := by
  obtain ⟨gap, others, -, cut, cutBehind⟩ :=
    gaps_append (List.forall_mem_singleton.mpr noName) rest
  rw [List.singleton_append, List.singleton_append] at cutBehind
  rw [looseRuns, looseRuns, cut, cutBehind, List.flatMap_cons, List.flatMap_cons,
    runs_cons_of_not_literal other]

/-! ## Numerals -/

/-- A run of digits and points that can be read as a number. -/
def IsNumeral (run : List Char) : Prop :=
  (∃ digit ∈ run, digit.isDigit = true) ∧ run.count '.' ≤ 1

instance (run : List Char) : Decidable (IsNumeral run) :=
  inferInstanceAs (Decidable (_ ∧ _))

theorem not_isNumeral_iff {run : List Char} :
    ¬IsNumeral run ↔
      (∀ character ∈ run, character.isDigit = false) ∨ 1 < run.count '.' := by
  rw [IsNumeral, not_and_or, Nat.not_le]
  simp

/-- Digits and points without a point are digits. -/
theorem all_isDigit_iff
    {literal : List Char}
    (isLiteral : ∀ character ∈ literal, Decimal.isLiteralCharacter character = true) :
    literal.all Char.isDigit = true ↔ literal.count '.' = 0 := by
  rw [List.all_eq_true, List.count_eq_zero]
  constructor
  · intro digits point
    exact absurd (digits '.' point) (by decide)
  · intro noPoint character member
    have kind := isLiteral character member
    rw [Decimal.isLiteralCharacter, Bool.or_eq_true, beq_iff_eq] at kind
    rcases kind with digit | rfl
    · exact digit
    · exact absurd member noPoint

theorem exists_isDigit_iff
    {digits : List Char}
    (allDigits : ∀ character ∈ digits, character.isDigit = true) :
    (∃ digit ∈ digits, digit.isDigit = true) ↔ digits ≠ [] := by
  constructor
  · rintro ⟨digit, member, -⟩
    exact List.ne_nil_of_mem member
  · intro nonempty
    exact ⟨_, List.head_mem nonempty, allDigits _ (List.head_mem nonempty)⟩

/-- A run of digits and points is read as a number exactly if it is a numeral. -/
theorem ofLiteral?_eq_none_iff
    {run : List Char}
    (isLiteral : ∀ character ∈ run, Decimal.isLiteralCharacter character = true) :
    Decimal.ofLiteral? run = none ↔ ¬IsNumeral run := by
  have whole : run.takeWhile Char.isDigit ++ run.dropWhile Char.isDigit = run :=
    List.takeWhile_append_dropWhile
  have front : ∀ character ∈ run.takeWhile Char.isDigit, character.isDigit = true :=
    fun _ => List.mem_takeWhile_imp
  have stops := List.head?_dropWhile_not Char.isDigit run
  unfold Decimal.ofLiteral? IsNumeral
  generalize run.takeWhile Char.isDigit = digits at whole front ⊢
  generalize run.dropWhile Char.isDigit = rest at whole stops ⊢
  subst whole
  rw [List.forall_mem_append] at isLiteral
  have noPoint : digits.count '.' = 0 :=
    (all_isDigit_iff isLiteral.1).mp (List.all_eq_true.mpr front)
  rw [List.count_append, noPoint, Nat.zero_add]
  cases rest with
  | nil =>
      rw [List.append_nil, exists_isDigit_iff front]
      simp
  | cons point fraction =>
      rw [List.forall_mem_cons] at isLiteral
      have notDigit : point.isDigit = false := by simpa using stops
      obtain rfl : point = '.' := by
        simpa [Decimal.isLiteralCharacter, notDigit] using isLiteral.2.1
      have onePoint : fraction.count '.' + 1 ≤ 1 ↔ fraction.all Char.isDigit = true := by
        rw [all_isDigit_iff isLiteral.2.2]
        omega
      rw [List.count_cons_self, onePoint]
      by_cases fractional : fraction.all Char.isDigit = true
      · have someDigit := exists_isDigit_iff
          (List.forall_mem_append.mpr ⟨front, List.all_eq_true.mp fractional⟩)
        have passed : (∃ digit ∈ digits ++ '.' :: fraction, digit.isDigit = true) ↔
            ∃ digit ∈ digits ++ fraction, digit.isDigit = true := by
          simp [or_and_right, exists_or]
        rw [passed, someDigit]
        simp [fractional]
      · simp [fractional]

end Token
end PolyMatrix

import Mathlib.Data.List.DropRight
import PolyMatrix.Text.Blank
import PolyMatrix.Text.Fields

/-!
# Cutting joined texts

A text that was joined is cut where it was joined: at the first character that
stops, at the separators, and between blanks.
-/

namespace PolyMatrix
namespace Text

/-! ## The first character that stops -/

theorem takeWhile_append_stop
    {keep : Char → Bool}
    {front : List Char}
    (kept : ∀ character ∈ front, keep character = true)
    {stop : Char}
    (stops : keep stop = false)
    (rest : List Char) : (front ++ stop :: rest).takeWhile keep = front := by
  rw [List.takeWhile_append_of_pos kept,
    List.takeWhile_cons_of_neg (Bool.eq_false_iff.mp stops), List.append_nil]

theorem dropWhile_append_stop
    {keep : Char → Bool}
    {front : List Char}
    (kept : ∀ character ∈ front, keep character = true)
    {stop : Char}
    (stops : keep stop = false)
    (rest : List Char) : (front ++ stop :: rest).dropWhile keep = stop :: rest := by
  rw [List.dropWhile_append_of_pos kept,
    List.dropWhile_cons_of_neg (Bool.eq_false_iff.mp stops)]

/-- Nothing is dropped in front of a character that stops. -/
theorem dropWhile_eq_self
    {drop : Char → Bool}
    {text : List Char}
    (stops : ∀ first ∈ text.head?, drop first = false) : text.dropWhile drop = text := by
  cases text with
  | nil => rfl
  | cons first rest =>
      exact List.dropWhile_cons_of_neg (Bool.eq_false_iff.mp (stops first rfl))

/-- No character of a text stops, or there is a first one that does. -/
theorem none_or_first_stop (stops : Char → Bool) (text : List Char) :
    (∀ character ∈ text, stops character = false) ∨
      ∃ front stop rest, text = front ++ stop :: rest ∧
        (∀ character ∈ front, stops character = false) ∧ stops stop = true := by
  cases found : text.find? stops with
  | none =>
      refine .inl fun character member => ?_
      exact Bool.eq_false_iff.mpr (List.find?_eq_none.mp found character member)
  | some stop =>
      obtain ⟨stopped, front, rest, split, solid⟩ := List.find?_eq_some_iff_append.mp found
      exact .inr ⟨front, stop, rest, split, by simpa using solid, stopped⟩

/-! ## Joined texts -/

/-- Joined texts are the first one and the others, each behind the separator. -/
theorem intercalate_cons (separator text : List Char) (texts : List (List Char)) :
    separator.intercalate (text :: texts) =
      text ++ texts.flatMap fun other => separator ++ other := by
  induction texts generalizing text with
  | nil => rw [List.intercalate_singleton, List.flatMap_nil, List.append_nil]
  | cons second rest inductionHypothesis =>
      rw [List.intercalate_cons_cons, inductionHypothesis, List.flatMap_cons,
        List.append_assoc, List.append_assoc]

/-- Joined texts are the last one and the others before it, each before the separator. -/
theorem intercalate_concat (separator : List Char) (texts : List (List Char)) (last : List Char) :
    separator.intercalate (texts ++ [last]) =
      (texts.flatMap fun other => other ++ separator) ++ last := by
  induction texts with
  | nil => exact List.intercalate_singleton
  | cons text rest inductionHypothesis =>
      rw [List.cons_append, List.intercalate_cons_of_ne_nil (List.concat_ne_nil last rest),
        inductionHypothesis, List.flatMap_cons, List.append_assoc, List.append_assoc,
        List.append_assoc]

/-- Joined texts are made of the characters of the texts and of the separator. -/
theorem forall_mem_intercalate
    {property : Char → Prop}
    {separator : List Char}
    (between : ∀ character ∈ separator, property character)
    {texts : List (List Char)}
    (inside : ∀ text ∈ texts, ∀ character ∈ text, property character) :
    ∀ character ∈ separator.intercalate texts, property character := by
  induction texts with
  | nil => exact List.forall_mem_nil _
  | cons text rest inductionHypothesis =>
      rw [List.forall_mem_cons] at inside
      cases rest with
      | nil =>
          rw [List.intercalate_singleton]
          exact inside.1
      | cons second others =>
          rw [List.intercalate_cons_cons, List.forall_mem_append, List.forall_mem_append]
          exact ⟨⟨inside.1, between⟩, inductionHypothesis inside.2⟩

/-! ## Separators -/

section Fields

variable {separates : Char → Bool}

/-- A text without separators is its only field. -/
theorem fields_eq_singleton
    {text : List Char}
    (whole : ∀ character ∈ text, separates character = false) :
    fields separates text = [text] := by
  induction text with
  | nil => rfl
  | cons character rest inductionHypothesis =>
      rw [List.forall_mem_cons] at whole
      obtain ⟨field, others, split, cut⟩ :=
        fields_cons_of_not_separates separates rest whole.1
      rw [inductionHypothesis whole.2, List.cons.injEq] at split
      rw [cut, ← split.1, ← split.2]

/-- A separator parts the fields in front of it from those behind it. -/
theorem fields_append
    {separator : Char}
    (separating : separates separator = true)
    (front rest : List Char) :
    fields separates (front ++ separator :: rest) =
      fields separates front ++ fields separates rest := by
  induction front with
  | nil => exact fields_cons_of_separates separates rest separating
  | cons first later inductionHypothesis =>
      rw [List.cons_append]
      by_cases separatesFirst : separates first = true
      · rw [fields_cons_of_separates separates _ separatesFirst,
          fields_cons_of_separates separates _ separatesFirst, inductionHypothesis,
          List.cons_append]
      · have inside := Bool.eq_false_iff.mpr separatesFirst
        obtain ⟨field, others, split, cut⟩ :=
          fields_cons_of_not_separates separates later inside
        obtain ⟨whole, more, wholeSplit, wholeCut⟩ :=
          fields_cons_of_not_separates separates (later ++ separator :: rest) inside
        rw [inductionHypothesis, split, List.cons_append, List.cons.injEq] at wholeSplit
        rw [wholeCut, cut, ← wholeSplit.1, ← wholeSplit.2, List.cons_append]

/-- Up to the first separator there is one field. -/
theorem fields_append_separator
    {field : List Char}
    (whole : ∀ character ∈ field, separates character = false)
    {separator : Char}
    (separating : separates separator = true)
    (rest : List Char) :
    fields separates (field ++ separator :: rest) = field :: fields separates rest := by
  rw [fields_append separating, fields_eq_singleton whole, List.singleton_append]

/-- Texts joined with a separator are the fields. -/
theorem fields_intercalate_separator
    {separator : Char}
    (separating : separates separator = true)
    {texts : List (List Char)}
    (nonempty : texts ≠ [])
    (whole : ∀ field ∈ texts, ∀ character ∈ field, separates character = false) :
    fields separates ([separator].intercalate texts) = texts := by
  induction texts with
  | nil => exact absurd rfl nonempty
  | cons text rest inductionHypothesis =>
      rw [List.forall_mem_cons] at whole
      cases rest with
      | nil => rw [List.intercalate_singleton, fields_eq_singleton whole.1]
      | cons second others =>
          rw [List.intercalate_cons_cons, List.append_assoc, List.singleton_append,
            fields_append_separator whole.1 separating,
            inductionHypothesis (List.cons_ne_nil _ _) whole.2]

/-- Texts joined with a character that is in none of them are the fields. -/
theorem fields_intercalate_of_not_mem
    {separator : Char}
    {texts : List (List Char)}
    (nonempty : texts ≠ [])
    (whole : ∀ text ∈ texts, separator ∉ text) :
    fields (· == separator) ([separator].intercalate texts) = texts := by
  have separating : (separator == separator) = true := beq_self_eq_true separator
  refine @fields_intercalate_separator (· == separator) separator separating texts nonempty ?_
  intro text member character inside
  rw [beq_eq_false_iff_ne]
  rintro rfl
  exact whole text member inside

/-- The fields are the parts of a text without separators that have a separator or an end of
the text on either side. -/
theorem mem_fields_iff {text field : List Char} :
    field ∈ fields separates text ↔
      ∃ front back, text = front ++ field ++ back ∧
        (∀ character ∈ field, separates character = false) ∧
        (∀ last ∈ front.getLast?, separates last = true) ∧
        ∀ next ∈ back.head?, separates next = true := by
  constructor
  · -- By induction on the length: the text has one field, or goes on behind a separator.
    intro isField
    induction size : text.length using Nat.strong_induction_on generalizing text with
    | _ count inductionHypothesis =>
        rcases none_or_first_stop separates text with
          whole | ⟨first, separator, rest, rfl, whole, separating⟩
        · rw [fields_eq_singleton whole, List.mem_singleton] at isField
          subst isField
          exact ⟨[], [], by simp, whole, by simp, by simp⟩
        · rw [fields_append_separator whole separating, List.mem_cons] at isField
          rcases isField with rfl | later
          · exact ⟨[], separator :: rest, by simp, whole, by simp, by simpa⟩
          · have shorter : rest.length < count := by
              rw [← size, List.length_append, List.length_cons]
              omega
            obtain ⟨front, back, rfl, inside, before, behind⟩ :=
              inductionHypothesis rest.length shorter later rfl
            refine ⟨first ++ separator :: front, back, by simp, inside, ?_, behind⟩
            intro last isLast
            cases front with
            | nil =>
                have same : separator = last := by simpa using isLast
                rwa [← same]
            | cons second others => exact before last (by simpa using isLast)
  · rintro ⟨front, back, rfl, inside, before, behind⟩
    have atFront : field ∈ fields separates (field ++ back) := by
      cases back with
      | nil =>
          rw [List.append_nil, fields_eq_singleton inside]
          exact List.mem_singleton_self field
      | cons next rest =>
          rw [fields_append_separator inside (behind next rfl)]
          exact List.mem_cons_self
    rcases List.eq_nil_or_concat front with rfl | ⟨first, last, rfl⟩
    · exact atFront
    · rw [List.concat_eq_append, List.append_assoc, List.append_assoc, List.singleton_append,
        fields_append (before last (by simp))]
      exact List.mem_append_right _ atFront

/-- A field consists of characters of the text that do not separate. -/
theorem mem_of_mem_fields
    {text field : List Char}
    (isField : field ∈ fields separates text)
    {character : Char}
    (member : character ∈ field) : character ∈ text ∧ separates character = false := by
  obtain ⟨front, back, rfl, inside, -, -⟩ := mem_fields_iff.mp isField
  exact ⟨List.mem_append_left back (List.mem_append_right front member),
    inside character member⟩

/-- What is dropped at the front of a text is dropped from its first field. -/
theorem fields_dropWhile
    {drop : Char → Bool}
    (inside : ∀ character, drop character = true → separates character = false)
    (text : List Char) :
    fields separates (text.dropWhile drop) =
      (fields separates text).modifyHead (List.dropWhile drop) := by
  induction text with
  | nil => rfl
  | cons first rest inductionHypothesis =>
      by_cases dropped : drop first = true
      · obtain ⟨field, others, split, cut⟩ :=
          fields_cons_of_not_separates separates rest (inside first dropped)
        rw [List.dropWhile_cons_of_pos dropped, inductionHypothesis, split, cut,
          List.modifyHead_cons, List.modifyHead_cons, List.dropWhile_cons_of_pos dropped]
      · rw [List.dropWhile_cons_of_neg dropped]
        by_cases separator : separates first = true
        · rw [fields_cons_of_separates separates rest separator]
          rfl
        · obtain ⟨field, others, -, cut⟩ :=
            fields_cons_of_not_separates separates rest (Bool.eq_false_iff.mpr separator)
          rw [cut, List.modifyHead_cons, List.dropWhile_cons_of_neg dropped]

end Fields

/-! ## Blanks -/

/-- Layout in front of a text does not matter to whether it is blank. -/
theorem allBlank_dropWhile (text : List Char) :
    allBlank (text.dropWhile isLayout) = allBlank text := by
  induction text with
  | nil => rfl
  | cons first rest inductionHypothesis =>
      by_cases layout : isLayout first = true
      · rw [List.dropWhile_cons_of_pos layout, inductionHypothesis, allBlank, allBlank,
          List.all_cons, isBlank_of_isLayout layout, Bool.true_and]
      · rw [List.dropWhile_cons_of_neg layout]

/-- A text with no blank at either end is not trimmed. -/
theorem trim_eq_self
    {text : List Char}
    (front : ∀ first ∈ text.head?, isBlank first = false)
    (back : ∀ last ∈ text.getLast?, isBlank last = false) : trim text = text := by
  have solid : ∀ first ∈ text.reverse.head?, isBlank first = false := by
    rw [List.head?_reverse]
    exact back
  rw [trim, trimLeft, dropWhile_eq_self front, trimRight, dropWhile_eq_self solid,
    List.reverse_reverse]

/-- Blanks in front are trimmed away. -/
theorem trim_append_left
    {gap : List Char}
    (blank : ∀ character ∈ gap, isBlank character = true)
    (text : List Char) : trim (gap ++ text) = trim text := by
  rw [trim, trimLeft, List.dropWhile_append_of_pos blank]
  rfl

/-- Blanks behind are trimmed away. -/
theorem trim_append_right
    {gap : List Char}
    (blank : ∀ character ∈ gap, isBlank character = true)
    (text : List Char) : trim (text ++ gap) = trim text := by
  have gone : gap.dropWhile isBlank = [] := List.dropWhile_eq_nil_iff.mpr blank
  have reversed : ∀ character ∈ gap.reverse, isBlank character = true :=
    fun character member => blank character (List.mem_reverse.mp member)
  rw [trim, trim, trimLeft, trimLeft, List.dropWhile_append]
  split
  · rename_i vanished
    rw [gone, List.isEmpty_iff.mp vanished]
  · rw [trimRight, List.reverse_append, List.dropWhile_append_of_pos reversed]
    rfl

/-- Of blanks alone nothing is left. -/
theorem trim_eq_nil
    {gap : List Char}
    (blank : ∀ character ∈ gap, isBlank character = true) : trim gap = [] := by
  rw [← List.nil_append gap, trim_append_right blank]
  rfl

theorem trim_trimLeft (text : List Char) : trim (trimLeft text) = trim text :=
  congrArg trimRight (List.dropWhile_idempotent isBlank text)

/-- What is trimmed behind a character that is not blank stands behind it. -/
theorem trimRight_append_cons
    {stop : Char}
    (solid : isBlank stop = false)
    (front back : List Char) :
    trimRight (front ++ stop :: back) = front ++ stop :: trimRight back := by
  have stays : (stop :: front.reverse).dropWhile isBlank = stop :: front.reverse :=
    List.dropWhile_cons_of_neg (Bool.eq_false_iff.mp solid)
  rw [trimRight, trimRight, List.reverse_append, List.reverse_cons, List.append_assoc,
    List.singleton_append, List.dropWhile_append]
  split
  · rename_i vanished
    simp [stays, List.isEmpty_iff.mp vanished]
  · simp

/-- The two sides of a character that is not blank are trimmed at their outer ends. -/
theorem trim_append_cons
    {stop : Char}
    (solid : isBlank stop = false)
    (front back : List Char) :
    trim (front ++ stop :: back) = trimLeft front ++ stop :: trimRight back := by
  have stays : (stop :: back).dropWhile isBlank = stop :: back :=
    List.dropWhile_cons_of_neg (Bool.eq_false_iff.mp solid)
  rw [trim, ← trimRight_append_cons solid, trimLeft, trimLeft, List.dropWhile_append]
  split
  · rename_i vanished
    rw [stays, List.isEmpty_iff.mp vanished, List.nil_append]
  · rfl

/-- Only blanks are trimmed at the end. -/
theorem exists_trimRight_append (text : List Char) :
    ∃ gap, (∀ character ∈ gap, isBlank character = true) ∧ text = trimRight text ++ gap := by
  refine ⟨(text.reverse.takeWhile isBlank).reverse, ?_, ?_⟩
  · intro character member
    exact List.mem_takeWhile_imp (List.mem_reverse.mp member)
  · rw [trimRight, ← List.reverse_append, List.takeWhile_append_dropWhile,
      List.reverse_reverse]

/-- Only blanks are trimmed away. -/
theorem exists_append_trim (text : List Char) :
    ∃ before behind, text = before ++ trim text ++ behind ∧
      (∀ character ∈ before, isBlank character = true) ∧
      ∀ character ∈ behind, isBlank character = true := by
  obtain ⟨gap, blank, split⟩ := exists_trimRight_append (trimLeft text)
  refine ⟨text.takeWhile isBlank, gap, ?_, fun _ => List.mem_takeWhile_imp, blank⟩
  rw [List.append_assoc, trim, ← split, trimLeft, List.takeWhile_append_dropWhile]

/-- A word at the front of a text is not trimmed. -/
theorem exists_trim_append
    {word : List Char}
    (nonempty : word ≠ [])
    (solid : ∀ character ∈ word, isBlank character = false)
    (text : List Char) :
    ∃ front gap, trim (word ++ text) = word ++ front ∧ text = front ++ gap := by
  have front : trimLeft (word ++ text) = word ++ text := by
    refine dropWhile_eq_self fun first isFirst => ?_
    rw [List.head?_append, List.head?_eq_some_head nonempty, Option.some_or] at isFirst
    cases isFirst
    exact solid _ (List.head_mem nonempty)
  obtain ⟨gap, blank, split⟩ := exists_trimRight_append (word ++ text)
  rw [trim, front]
  rcases List.append_eq_append_iff.mp split with ⟨front, kept, rest⟩ | ⟨lost, kept, rest⟩
  · exact ⟨front, gap, kept, rest⟩
  · cases lost with
    | nil =>
        rw [List.append_nil] at kept
        exact ⟨[], gap, by rw [List.append_nil, ← kept], rest.symm⟩
    | cons last behind =>
        -- A character of the word would be blank.
        have inWord := solid last (by rw [kept]; simp)
        have inGap := blank last (by rw [rest]; simp)
        exact absurd (inWord.symm.trans inGap) Bool.false_ne_true

/-- A trimmed text does not begin with a blank. -/
theorem isBlank_head?_trim (text : List Char) :
    ∀ first ∈ (trim text).head?, isBlank first = false := by
  intro first isFirst
  obtain ⟨gap, -, split⟩ := exists_trimRight_append (trimLeft text)
  have atFront : (trimLeft text).head? = some first := by
    rw [split, List.head?_append, ← trim, Option.mem_def.mp isFirst, Option.some_or]
  have solid := List.head?_dropWhile_not isBlank text
  rw [← trimLeft, atFront] at solid
  simpa using solid

/-- A trimmed text does not end with a blank. -/
theorem isBlank_getLast?_trim (text : List Char) :
    ∀ last ∈ (trim text).getLast?, isBlank last = false := by
  intro last isLast
  rw [trim, trimRight, List.getLast?_reverse] at isLast
  have solid := List.head?_dropWhile_not isBlank (trimLeft text).reverse
  rw [Option.mem_def.mp isLast] at solid
  simpa using solid

/-- Trimming keeps what has blanks around it and no blank at either end. -/
theorem trim_eq_iff {text kept : List Char} :
    trim text = kept ↔
      ∃ before behind, text = before ++ kept ++ behind ∧
        (∀ character ∈ before, isBlank character = true) ∧
        (∀ character ∈ behind, isBlank character = true) ∧
        (∀ first ∈ kept.head?, isBlank first = false) ∧
        ∀ last ∈ kept.getLast?, isBlank last = false := by
  constructor
  · rintro rfl
    obtain ⟨before, behind, split, blankBefore, blankBehind⟩ := exists_append_trim text
    exact ⟨before, behind, split, blankBefore, blankBehind, isBlank_head?_trim text,
      isBlank_getLast?_trim text⟩
  · rintro ⟨before, behind, rfl, blankBefore, blankBehind, front, back⟩
    rw [trim_append_right blankBehind, trim_append_left blankBefore, trim_eq_self front back]

end Text
end PolyMatrix

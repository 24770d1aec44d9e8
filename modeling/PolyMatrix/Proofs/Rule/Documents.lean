import PolyMatrix.Proofs.Attempt
import PolyMatrix.Proofs.Monomial.RoundTrip
import PolyMatrix.Proofs.Polynomial.RoundTrip
import PolyMatrix.Proofs.Rule.Entries

/-!
# Reading rules from documents

A document that lists rules, with blank entries and comments between them, is cut into
entries at the line breaks and semicolons, and each entry at its first arrow, which is the
one that was written: in front of it stands a pattern, and patterns have no minus.  Any
document that is not read has a first entry that is no rule, and what is wrong with that entry
is what is wrong with the document.
-/

namespace PolyMatrix

open Token (Written)

namespace Rule

/-- The rules that are written exactly: the pattern has named symbols, and the replacement
named symbols with multiples of an eighth in front of them. -/
structure InEighths (rule : Rule ℚ) : Prop where
  /-- The symbols of the pattern have names. -/
  names : ∀ symbol ∈ rule.pattern.symbols, Text.isName symbol.toList = true
  /-- The replacement is written exactly. -/
  replacement : rule.replacement.InEighths

/-- The rule without the remark that its replacement may carry. -/
def withoutNote {K : Type} (rule : Rule K) : Rule K :=
  { rule with replacement := rule.replacement.withoutNote }

end Rule

/-! ## Arrows -/

namespace RuleDocument

/-- The characters of an arrow. -/
def arrow : List Char :=
  ['-', '>']

/-- A text is cut at its first arrow. -/
structure CutAtArrow (text front back : List Char) : Prop where
  /-- The arrow stands between the two sides. -/
  whole : text = front ++ '-' :: '>' :: back
  /-- No arrow begins before it. -/
  first : ¬arrow <:+: front ++ ['-']

/-- Where no arrow begins, the first arrow is that of the rest. -/
theorem cutAtArrow_cons_iff
    {character : Char}
    {rest back : List Char}
    (noArrow : ¬arrow <+: character :: rest)
    (front : List Char) :
    CutAtArrow (character :: rest) front back ↔
      ∃ later, front = character :: later ∧ CutAtArrow rest later back := by
  constructor
  · rintro ⟨whole, first⟩
    cases front with
    | nil => exact absurd (whole ▸ List.prefix_append arrow back) noArrow
    | cons head later =>
        obtain ⟨rfl, behind⟩ := List.cons.inj whole
        exact ⟨later, rfl, behind, fun inside => first (List.infix_cons inside)⟩
  · rintro ⟨later, rfl, behind, first⟩
    refine ⟨by rw [behind, List.cons_append], fun inside => ?_⟩
    rw [List.cons_append, List.infix_cons_iff] at inside
    rcases inside with atFront | inside
    · -- An arrow at the front would be one of the whole text.
      exact noArrow (atFront.trans ⟨'>' :: back, by rw [behind]; simp⟩)
    · exact first inside

theorem not_prefix_of_cons
    {character : Char}
    {rest : List Char}
    (notArrow : ∀ later, character = '-' → rest = '>' :: later → False) :
    ¬arrow <+: character :: rest := by
  rintro ⟨later, whole⟩
  obtain ⟨rfl, behind⟩ := List.cons.inj whole
  exact notArrow later rfl behind.symm

theorem splitAtArrow?_eq_some_iff {text front back : List Char} :
    splitAtArrow? text = some (front, back) ↔ CutAtArrow text front back := by
  induction text using splitAtArrow?.induct generalizing front back with
  | case1 =>
      constructor
      · rintro ⟨⟩
      · rintro ⟨whole, -⟩
        simp at whole
  | case2 rest =>
      rw [splitAtArrow?, Option.some.injEq, Prod.mk.injEq]
      constructor
      · rintro ⟨rfl, rfl⟩
        exact ⟨rfl, by decide⟩
      · rintro ⟨whole, first⟩
        match front, whole with
        | [], whole => simpa [eq_comm] using whole
        | [_], whole => simp at whole
        | _ :: _ :: later, whole =>
            obtain ⟨rfl, rfl, -⟩ : '-' = _ ∧ '>' = _ ∧ _ := by simpa using whole
            exact absurd ⟨[], later ++ ['-'], rfl⟩ first
  | case3 character rest notArrow inductionHypothesis =>
      have noArrow := not_prefix_of_cons notArrow
      rw [splitAtArrow?, cutAtArrow_cons_iff noArrow, Option.map_eq_some_iff]
      · constructor
        · rintro ⟨⟨later, behind⟩, split, sides⟩
          obtain ⟨rfl, rfl⟩ := Prod.mk.inj sides
          exact ⟨later, rfl, inductionHypothesis.mp split⟩
        · rintro ⟨later, rfl, cut⟩
          exact ⟨(later, back), inductionHypothesis.mpr cut, rfl⟩
      · exact notArrow

theorem splitAtArrow?_eq_none_iff {text : List Char} :
    splitAtArrow? text = none ↔ ¬arrow <:+: text := by
  induction text using splitAtArrow?.induct with
  | case1 => decide
  | case2 rest =>
      have present : arrow <:+: '-' :: '>' :: rest := ⟨[], rest, rfl⟩
      simp [splitAtArrow?, present]
  | case3 character rest notArrow inductionHypothesis =>
      rw [splitAtArrow?, Option.map_eq_none_iff, inductionHypothesis, List.infix_cons_iff,
        not_or]
      · exact (and_iff_right (not_prefix_of_cons notArrow)).symm
      · exact notArrow

/-! ## Written documents -/

section Written

variable {K : Type} [Coefficient K]

/-- Blanks within a line. -/
def IsGap (text : List Char) : Prop :=
  ∀ character ∈ text, Text.isBlank character = true ∧ character ≠ '\n'

instance : DecidablePred IsGap :=
  List.decidableBAll fun character => Text.isBlank character = true ∧ character ≠ '\n'

/-- The texts of an entry: a rule has its two sides around an arrow, with gaps around each,
and an entry without a rule is a gap. -/
inductive Entry : Option (Rule K) → List Char → Prop
  | blank {gap : List Char} (isGap : IsGap gap) : Entry none gap
  | rule {rule : Rule K} {before behindPattern beforeReplacement behind : List Char}
      (isGapBefore : IsGap before)
      (isGapBehindPattern : IsGap behindPattern)
      (isGapBeforeReplacement : IsGap beforeReplacement)
      (isGapBehind : IsGap behind) :
      Entry (some rule)
        ((before ++ rule.pattern.text.toList ++ behindPattern) ++ '-' :: '>' ::
          (beforeReplacement ++ rule.replacement.text.toList ++ behind))

/-- The texts of a line: a comment, which may contain anything behind its mark, or entries
with semicolons between them. -/
inductive Line : List (Rule K) → List Char → Prop
  | comment {indent mark rest : List Char}
      (isGap : IsGap indent)
      (isMark : mark = ['#'] ∨ mark = ['/', '/'])
      (withinLine : '\n' ∉ rest) :
      Line [] (indent ++ (mark ++ rest))
  | entries {items : List (Option (Rule K) × List Char)}
      (written : ∀ item ∈ items, Entry item.1 item.2) :
      Line (items.filterMap Prod.fst) ([';'].intercalate (items.map Prod.snd))

/-- A document lists the rules of its lines in order. -/
def Lists (rules : List (Rule K)) (document : List Char) : Prop :=
  ∃ lines : List (List (Rule K) × List Char),
    (∀ line ∈ lines, Line line.1 line.2) ∧
      lines.flatMap Prod.fst = rules ∧ ['\n'].intercalate (lines.map Prod.snd) = document

end Written

/-! ## Characters of written entries -/

/-- The characters that end neither an entry nor a line and begin no comment. -/
def IsInner (character : Char) : Prop :=
  character ≠ '\n' ∧ character ≠ ';' ∧ character ≠ '#' ∧ character ≠ '/'

instance : DecidablePred IsInner :=
  fun _ => inferInstanceAs (Decidable (_ ∧ _))

theorem IsGap.blank
    {gap : List Char}
    (isGap : IsGap gap) : ∀ character ∈ gap, Text.isBlank character = true :=
  fun character member => (isGap character member).1

theorem IsGap.inner
    {gap : List Char}
    (isGap : IsGap gap) : ∀ character ∈ gap, IsInner character := by
  intro character member
  obtain ⟨blank, withinLine⟩ := isGap character member
  refine ⟨withinLine, ?_, ?_, ?_⟩
  · rintro rfl
    exact absurd blank (by decide)
  · rintro rfl
    exact absurd blank (by decide)
  · rintro rfl
    exact absurd blank (by decide)

theorem inner_of_isTextCharacter
    {character : Char}
    (isText : Polynomial.isTextCharacter character = true) : IsInner character := by
  refine ⟨?_, ?_, ?_, ?_⟩
  all_goals
    rintro rfl
    exact absurd isText (by decide)

/-! ## Reading entries -/

theorem Entry.trim_of_none
    {K : Type} [Coefficient K] {text : List Char}
    (entry : Entry (none : Option (Rule K)) text) : Text.trim text = [] := by
  cases entry with
  | blank isGap => exact Text.trim_eq_nil isGap.blank

section Eighths

variable {rule : Rule ℚ}

/-- In front of the arrow of a rule no other one begins. -/
theorem cutAtArrow_of_entry
    (names : ∀ symbol ∈ rule.pattern.symbols, Text.isName symbol.toList = true)
    {before behind : List Char}
    (isGapBefore : IsGap before)
    (isGapBehind : IsGap behind)
    (back : List Char) :
    CutAtArrow (Text.trimLeft (before ++ rule.pattern.text.toList ++ behind) ++ '-' :: '>' :: back)
      (Text.trimLeft (before ++ rule.pattern.text.toList ++ behind)) back where
  whole := rfl
  first inside := by
    have gap : ∀ {text : List Char}, IsGap text → '>' ∉ text :=
      fun isGap member => absurd (isGap.blank '>' member) (by decide)
    have head : '>' ∈ Text.trimLeft (before ++ rule.pattern.text.toList ++ behind) ++ ['-'] :=
      inside.subset (by decide)
    rw [List.mem_append, or_iff_left (by decide)] at head
    have member := (List.dropWhile_sublist Text.isBlank).mem head
    rw [List.mem_append, List.mem_append, or_iff_left (gap isGapBehind),
      or_iff_right (gap isGapBefore)] at member
    rcases Monomial.characters_text names '>' member with name | star
    · exact absurd name (by decide)
    · exact absurd star (by decide)

/-- The entry of a rule is read as the rule. -/
theorem readEntry_of_entry
    (inEighths : rule.InEighths)
    {text : List Char}
    (entry : Entry (some rule) text) :
    (readEntry (Text.trim text) : Attempt (Rule ℚ)) = pure rule.withoutNote := by
  cases entry with
  | @rule rule before behindPattern beforeReplacement behind isGapBefore isGapBehindPattern
      isGapBeforeReplacement isGapBehind =>
      let front := before ++ rule.pattern.text.toList ++ behindPattern
      let back := beforeReplacement ++ rule.replacement.text.toList ++ behind
      have trimmed : Text.trim (front ++ '-' :: '>' :: back) =
          Text.trimLeft front ++ '-' :: '>' :: Text.trimRight back := by
        have arrowhead : Text.trimRight ('>' :: back) = '>' :: Text.trimRight back :=
          Text.trimRight_append_cons rfl [] back
        rw [Text.trim_append_cons rfl, arrowhead]
      have split := splitAtArrow?_eq_some_iff.mpr
        (cutAtArrow_of_entry inEighths.names isGapBefore isGapBehindPattern
          (Text.trimRight back))
      have pattern : Text.trim (Text.trimLeft front) = rule.pattern.text.toList := by
        rw [Text.trim_trimLeft, Text.trim_append_right isGapBehindPattern.blank,
          Text.trim_append_left isGapBefore.blank, Monomial.trim_text inEighths.names]
      have written : Written (Polynomial.sentence rule.replacement.terms).tokens
          (Text.trim (Text.trimRight back)) := by
        have whole := inEighths.replacement.written_text.surround isGapBeforeReplacement.blank
          isGapBehind.blank
        obtain ⟨gap, blank, cut⟩ := Text.exists_trimRight_append back
        change Written _ back at whole
        rw [cut] at whole
        exact (whole.of_append_blank blank).trim
      have replacement : Polynomial.parse (String.ofList (Text.trim (Text.trimRight back))) =
          pure rule.replacement.withoutNote := by
        refine Polynomial.parse_of_written inEighths.replacement.canonical
          inEighths.replacement.legible ?_
        rwa [String.toList_ofList]
      rw [trimmed, readEntry, split]
      change Rule.parse (String.ofList (Text.trim (Text.trimLeft front))) _ = _
      rw [pattern, String.ofList_toList, Rule.parse, Monomial.parse_written inEighths.names,
        replacement]
      rfl

/-- An entry is within its line and its semicolons, and begins no comment. -/
theorem Entry.inner
    {item : Option (Rule ℚ)}
    {text : List Char}
    (entry : Entry item text)
    (inEighths : ∀ rule ∈ item, rule.InEighths) : ∀ character ∈ text, IsInner character := by
  cases entry with
  | blank isGap => exact isGap.inner
  | @rule rule before behindPattern beforeReplacement behind isGapBefore isGapBehindPattern
      isGapBeforeReplacement isGapBehind =>
      have exact := inEighths rule rfl
      have pattern : ∀ character ∈ rule.pattern.text.toList, IsInner character := by
        intro character member
        rcases Monomial.characters_text exact.names character member with name | rfl
        · exact inner_of_isTextCharacter (by rw [Polynomial.isTextCharacter, name, Bool.true_or])
        · decide
      have replacement : ∀ character ∈ rule.replacement.text.toList, IsInner character :=
        fun character member => inner_of_isTextCharacter
          (Polynomial.characters_text exact.replacement.plain character member)
      simp only [List.forall_mem_append, List.forall_mem_cons]
      exact ⟨⟨⟨isGapBefore.inner, pattern⟩, isGapBehindPattern.inner⟩, by decide, by decide,
        ⟨isGapBeforeReplacement.inner, replacement⟩, isGapBehind.inner⟩

/-! ## Reading documents -/

/-- The rule of an entry is read from it. -/
def Reads (rule : Rule ℚ) (entry : List Char) : Prop :=
  readEntry entry = (pure rule.withoutNote : Attempt (Rule ℚ))

/-- An entry without characters is not read. -/
theorem Reads.isEmpty_eq_false {entry : List Char} (reads : Reads rule entry) :
    entry.isEmpty = false := by
  cases entry with
  | nil => cases congrArg Attempt.result reads
  | cons first rest => rfl

/-- The entries of a line that are not blank are those that have a rule. -/
theorem reads_filter_trim
    {items : List (Option (Rule ℚ) × List Char)}
    (written : ∀ item ∈ items, Entry item.1 item.2)
    (inEighths : ∀ rule ∈ items.filterMap Prod.fst, rule.InEighths) :
    List.Forall₂ Reads (items.filterMap Prod.fst)
      (((items.map Prod.snd).map Text.trim).filter fun entry => !entry.isEmpty) := by
  induction items with
  | nil => exact .nil
  | cons item rest inductionHypothesis =>
      rw [List.forall_mem_cons] at written
      obtain ⟨item, text⟩ := item
      cases item with
      | none =>
          have vanishes := written.1.trim_of_none
          dsimp only at vanishes
          rw [List.map_cons, List.map_cons, vanishes]
          exact inductionHypothesis written.2 inEighths
      | some rule =>
          have rules : ((some rule, text) :: rest).filterMap Prod.fst =
              rule :: rest.filterMap Prod.fst := rfl
          rw [rules, List.forall_mem_cons] at inEighths
          have reads : Reads rule (Text.trim text) := readEntry_of_entry inEighths.1 written.1
          rw [rules, List.map_cons, List.map_cons,
            List.filter_cons_of_pos (by rw [reads.isEmpty_eq_false, Bool.not_false])]
          exact .cons reads (inductionHypothesis written.2 inEighths.2)

section Items

variable {items : List (Option (Rule ℚ) × List Char)}
  (written : ∀ item ∈ items, Entry item.1 item.2)
  (inEighths : ∀ rule ∈ items.filterMap Prod.fst, rule.InEighths)

include written inEighths

theorem inner_of_mem_items :
    ∀ text ∈ items.map Prod.snd, ∀ character ∈ text, IsInner character := by
  rw [List.forall_mem_map]
  intro item member
  refine (written item member).inner fun rule isRule => inEighths rule ?_
  exact List.mem_filterMap.mpr ⟨item, member, isRule⟩

theorem inner_or_semicolon_of_mem :
    ∀ character ∈ [';'].intercalate (items.map Prod.snd),
      IsInner character ∨ character = ';' := by
  apply Text.forall_mem_intercalate
  · rw [List.forall_mem_singleton]
    exact .inr rfl
  · exact fun text member character inside =>
      .inl (inner_of_mem_items written inEighths text member character inside)

/-- The rules of entries with semicolons between them are read from the line. -/
theorem reads_lineEntries :
    List.Forall₂ Reads (items.filterMap Prod.fst)
      (lineEntries ([';'].intercalate (items.map Prod.snd))) := by
  have noComment : isComment ([';'].intercalate (items.map Prod.snd)) = false := by
    refine isComment_eq_false fun character member => ?_
    rcases inner_or_semicolon_of_mem written inEighths character member with inner | rfl
    · exact inner.2.2
    · decide
  have read := reads_filter_trim written inEighths
  rw [lineEntries, noComment, if_neg Bool.false_ne_true]
  cases items with
  | nil => exact .nil
  | cons item rest =>
      have whole : ∀ text ∈ (item :: rest).map Prod.snd, ';' ∉ text :=
        fun text member inside =>
          (inner_of_mem_items written inEighths text member ';' inside).2.1 rfl
      have someText : (item :: rest).map Prod.snd ≠ [] := List.cons_ne_nil _ _
      rw [Text.fields_intercalate_of_not_mem someText whole]
      exact read

end Items

section Lines

variable {rules : List (Rule ℚ)} (inEighths : ∀ rule ∈ rules, rule.InEighths)

include inEighths

/-- The rules of a line are read from its entries. -/
theorem Line.reads
    {text : List Char}
    (line : Line rules text) : List.Forall₂ Reads rules (lineEntries text) := by
  cases line with
  | @comment indent mark rest isGap isMark withinLine =>
      have isComment : IsComment (indent ++ (mark ++ rest)) :=
        ⟨indent, mark, rest, rfl, isGap.blank, isMark⟩
      rw [(lineHolds_iff _ []).mp (.comment isComment)]
      exact .nil
  | entries written => exact reads_lineEntries written inEighths

/-- No line breaks off. -/
theorem Line.withinLine
    {text : List Char}
    (line : Line rules text) : '\n' ∉ text := by
  intro member
  cases line with
  | @comment indent mark rest isGap isMark withinLine =>
      rw [List.mem_append, List.mem_append] at member
      rcases member with inIndent | inMark | inRest
      · exact (isGap '\n' inIndent).2 rfl
      · rcases isMark with rfl | rfl
        · exact absurd inMark (by decide)
        · exact absurd inMark (by decide)
      · exact withinLine inRest
  | entries written =>
      rcases inner_or_semicolon_of_mem written inEighths '\n' member with inner | semicolon
      · exact inner.1 rfl
      · exact absurd semicolon (by decide)

/-- The rules of a document are read from its entries. -/
theorem Lists.reads
    {document : List Char}
    (lists : Lists rules document) : List.Forall₂ Reads rules (entries document) := by
  obtain ⟨lines, isLine, rfl, rfl⟩ := lists
  have exact : ∀ line ∈ lines, ∀ rule ∈ line.1, rule.InEighths :=
    fun line member rule inside => inEighths rule (List.mem_flatMap.mpr ⟨line, member, inside⟩)
  have whole : ∀ text ∈ lines.map Prod.snd, '\n' ∉ text := by
    rw [List.forall_mem_map]
    exact fun line member => (isLine line member).withinLine (exact line member)
  have read : List.Forall₂ Reads (lines.flatMap Prod.fst)
      ((lines.map Prod.snd).flatMap lineEntries) := by
    rw [List.flatMap_def, List.flatMap_def, List.map_map]
    apply List.rel_flatten
    rw [List.forall₂_map_left_iff, List.forall₂_map_right_iff, List.forall₂_same]
    exact fun line member => (isLine line member).reads (exact line member)
  rw [entries_eq_flatMap]
  cases lines with
  | nil => exact .nil
  | cons line rest =>
      have someText : (line :: rest).map Prod.snd ≠ [] := List.cons_ne_nil _ _
      rw [Text.fields_intercalate_of_not_mem someText whole]
      exact read

end Lines

theorem mapM_readEntry
    {rules : List (Rule ℚ)}
    {entries : List (List Char)}
    (reads : List.Forall₂ Reads rules entries) :
    entries.mapM readEntry = (pure (rules.map Rule.withoutNote) : Attempt (List (Rule ℚ))) := by
  induction reads with
  | nil => rfl
  | cons first later inductionHypothesis =>
      rw [List.mapM_cons, first, inductionHypothesis]
      rfl

end Eighths

/-! ## Faults of documents -/

section Faults

variable (K : Type) [Add K] [Neg K] [Mul K] [Coefficient K]

/-- What is wrong with an entry: it has no arrow, or a side is not what it should be, the
pattern being looked at first. -/
inductive IsFault (entry : List Char) : Fault → Prop
  | noArrow (absent : ¬arrow <:+: entry) : IsFault entry (.notRule (String.ofList entry))
  | pattern {front back : List Char} {fault : Fault}
      (cut : CutAtArrow entry front back)
      (rejected : Monomial.parse (String.ofList (Text.trim front)) = .error fault) :
      IsFault entry fault
  | replacement {front back : List Char} {pattern : Monomial} {fault : Fault}
      (cut : CutAtArrow entry front back)
      (read : Monomial.parse (String.ofList (Text.trim front)) = .ok pattern)
      (rejected : (Polynomial.parse (String.ofList (Text.trim back)) :
        Attempt (Polynomial K)).result = .error fault) :
      IsFault entry fault

/-- The fault is that of the first entry that has one. -/
def FirstFault (entries : List (List Char)) (fault : Fault) : Prop :=
  ∃ front entry rest, entries = front ++ entry :: rest ∧
    (∀ earlier ∈ front, ∀ other, ¬IsFault K earlier other) ∧ IsFault K entry fault

variable {K}

/-- A rule is read side by side. -/
theorem result_parse_eq_error_iff {pattern replacement : String} {fault : Fault} :
    (Rule.parse pattern replacement : Attempt (Rule K)).result = .error fault ↔
      Monomial.parse pattern = .error fault ∨
        ∃ product, Monomial.parse pattern = .ok product ∧
          (Polynomial.parse replacement : Attempt (Polynomial K)).result = .error fault := by
  rw [Rule.parse, Attempt.result_bind_eq_error_iff, Attempt.result_ofExcept]
  simp only [Attempt.result_bind_pure_eq_error_iff]

/-- An entry that is not read has a fault, and that is the one reported. -/
theorem result_readEntry_eq_error_iff {entry : List Char} {fault : Fault} :
    (readEntry entry : Attempt (Rule K)).result = .error fault ↔ IsFault K entry fault := by
  rw [readEntry]
  cases split : splitAtArrow? entry with
  | none =>
      have absent := splitAtArrow?_eq_none_iff.mp split
      have uncut : ∀ {front back}, ¬CutAtArrow entry front back := fun cut =>
        absurd (split.symm.trans (splitAtArrow?_eq_some_iff.mpr cut)) (nomatch ·)
      constructor
      · rintro ⟨⟩
        exact .noArrow absent
      · intro isFault
        cases isFault with
        | noArrow absent => rfl
        | pattern cut rejected => exact absurd cut uncut
        | replacement cut read rejected => exact absurd cut uncut
  | some sides =>
      obtain ⟨front, back⟩ := sides
      have cut := splitAtArrow?_eq_some_iff.mp split
      have same : ∀ {otherFront otherBack}, CutAtArrow entry otherFront otherBack →
          otherFront = front ∧ otherBack = back := fun other =>
        Prod.mk.inj (Option.some.inj
          ((splitAtArrow?_eq_some_iff.mpr other).symm.trans split))
      refine result_parse_eq_error_iff.trans ⟨?_, ?_⟩
      · rintro (rejected | ⟨product, read, rejected⟩)
        · exact .pattern cut rejected
        · exact .replacement cut read rejected
      · intro isFault
        cases isFault with
        | noArrow absent =>
            exact absurd (splitAtArrow?_eq_none_iff.mpr absent) (by rw [split]; exact nofun)
        | pattern other rejected =>
            obtain ⟨rfl, rfl⟩ := same other
            exact .inl rejected
        | replacement other read rejected =>
            obtain ⟨rfl, rfl⟩ := same other
            exact .inr ⟨_, read, rejected⟩

/-- An entry is read if it has no fault. -/
theorem exists_result_readEntry_eq_ok_iff {entry : List Char} :
    (∃ rule, (readEntry entry : Attempt (Rule K)).result = .ok rule) ↔
      ∀ fault, ¬IsFault K entry fault := by
  simp only [← result_readEntry_eq_error_iff]
  cases (readEntry entry : Attempt (Rule K)).result with
  | error fault => exact iff_of_false nofun fun none => none fault rfl
  | ok rule => exact iff_of_true ⟨rule, rfl⟩ nofun

/-- A document that is not read has a first entry with a fault. -/
theorem result_ofDocument_eq_error_iff
    {mode : RuleMode} {document : String} {found : List (List Char)} {fault : Fault}
    (hasEntries : HasEntries document.toList found) :
    (RuleSet.ofDocument mode document : Attempt (RuleSet K)).result = .error fault ↔
      FirstFault K found fault := by
  rw [RuleSet.ofDocument, hasEntries_iff.mp hasEntries, Attempt.result_bind_pure_eq_error_iff,
    Attempt.result_mapM_eq_error_iff]
  simp only [exists_result_readEntry_eq_ok_iff, result_readEntry_eq_error_iff]
  rfl

end Faults

/-! ## Documents that list rules, and all others -/

/-- Rules come back from every document that lists them, in order and without notices.  Every
document has entries, and one that is not read is reported with the fault of its first entry
that has one. -/
structure RoundTrips (mode : RuleMode) : Prop where
  /-- The rules of a document come back. -/
  listed : ∀ {rules : List (Rule ℚ)} {document : String},
    (∀ rule ∈ rules, rule.InEighths) → Lists rules document.toList →
      RuleSet.ofDocument mode document = pure ⟨mode, rules.map Rule.withoutNote⟩
  /-- Any document is lines, comments among them, with entries in the others. -/
  hasEntries : ∀ document : String, ∃! found, HasEntries document.toList found
  /-- The first fault is reported. -/
  faulty : ∀ {K : Type} [Add K] [Neg K] [Mul K] [Coefficient K] {document : String}
    {found : List (List Char)} {fault : Fault}, HasEntries document.toList found →
      ((RuleSet.ofDocument mode document : Attempt (RuleSet K)).result = .error fault ↔
        FirstFault K found fault)

theorem round_trips (mode : RuleMode) : RoundTrips mode where
  listed inEighths lists := by
    rw [RuleSet.ofDocument, mapM_readEntry (lists.reads inEighths)]
    rfl
  hasEntries document := existsUnique_hasEntries document.toList
  faulty := result_ofDocument_eq_error_iff

/-- A comment that contains a rule, blank entries, a replacement with a minus in front of it,
the unit as a pattern; and a document with a comment and a blank entry, whose second entry has
no arrow and whose third one has a replacement that is not read. -/
theorem round_trips_axis :
    let product : Rule ℚ :=
      ⟨.ofSymbols ["y", "x"], .ofTerms [(.ofSymbols ["x"], -1), (.unit, 5 / 2)]⟩
    let unit : Rule ℚ := ⟨.unit, .ofTerms [(.unit, 1)]⟩
    RuleSet.ofDocument .always "# axis; i -> j\n\nx*y -> -x + 2.5;; -> 1\r\n  // -> ;\n" =
        (pure ⟨.always, [product.withoutNote, unit.withoutNote]⟩ : Attempt (RuleSet ℚ)) ∧
      HasEntries " # ;z\n;-> 1; x; y -> 1.2.3".toList
        ["-> 1".toList, ['x'], "y -> 1.2.3".toList] ∧
      (RuleSet.ofDocument .always " # ;z\n;-> 1; x; y -> 1.2.3" : Attempt (RuleSet ℚ)).result =
        .error (.notRule "x") := by
  intro product unit
  have productInEighths : product.InEighths := ⟨by decide +kernel, by decide +kernel⟩
  have unitInEighths : unit.InEighths := ⟨by decide +kernel, by decide +kernel⟩
  have productEntry : Entry (some product) "x*y -> -x + 2.5".toList := by
    have written : Entry (some product)
        (([] ++ product.pattern.text.toList ++ [' ']) ++ '-' :: '>' ::
          ([' '] ++ product.replacement.text.toList ++ [])) :=
      .rule (by decide) (by decide) (by decide) (by decide)
    have patternText : product.pattern.text = "x*y" := by decide +kernel
    have replacementText : product.replacement.text = "-x + 2.5" := by decide +kernel
    rwa [patternText, replacementText] at written
  have unitEntry : Entry (some unit) " -> 1\r".toList := by
    have written : Entry (some unit)
        (([' '] ++ unit.pattern.text.toList ++ []) ++ '-' :: '>' ::
          ([' '] ++ unit.replacement.text.toList ++ ['\r'])) :=
      .rule (by decide) (by decide) (by decide) (by decide)
    have replacementText : unit.replacement.text = "1" := by decide +kernel
    rwa [replacementText] at written
  have rules : Line [product, unit] "x*y -> -x + 2.5;; -> 1\r".toList :=
    @Line.entries ℚ _ [(some product, "x*y -> -x + 2.5".toList), (none, []),
        (some unit, " -> 1\r".toList)] (by
      rw [List.forall_mem_cons, List.forall_mem_cons, List.forall_mem_singleton]
      exact ⟨productEntry, .blank (List.forall_mem_nil _), unitEntry⟩)
  have empty : Line ([] : List (Rule ℚ)) [] :=
    @Line.entries ℚ _ [] (List.forall_mem_nil _)
  have hash : Line ([] : List (Rule ℚ)) "# axis; i -> j".toList :=
    @Line.comment ℚ _ [] ['#'] " axis; i -> j".toList (by decide) (.inl rfl) (by decide)
  have slashes : Line ([] : List (Rule ℚ)) "  // -> ;".toList :=
    @Line.comment ℚ _ [' ', ' '] ['/', '/'] " -> ;".toList (by decide) (.inr rfl) (by decide)
  have inEighths : ∀ rule ∈ [product, unit], rule.InEighths := by
    rw [List.forall_mem_cons, List.forall_mem_singleton]
    exact ⟨productInEighths, unitInEighths⟩
  have found : HasEntries " # ;z\n;-> 1; x; y -> 1.2.3".toList
      ["-> 1".toList, ['x'], "y -> 1.2.3".toList] :=
    hasEntries_iff.mpr (by decide +kernel)
  refine ⟨?_, found, ?_⟩
  · refine (round_trips .always).listed inEighths
      ⟨[([], "# axis; i -> j".toList), ([], []),
        ([product, unit], "x*y -> -x + 2.5;; -> 1\r".toList),
        ([], "  // -> ;".toList), ([], [])], ?_, rfl, by decide +kernel⟩
    simp only [List.forall_mem_cons]
    exact ⟨hash, empty, rules, slashes, empty, List.forall_mem_nil _⟩
  · refine ((round_trips .always).faulty found).mpr
      ⟨["-> 1".toList], ['x'], ["y -> 1.2.3".toList], rfl, ?_, .noArrow (by decide)⟩
    rw [List.forall_mem_singleton, ← exists_result_readEntry_eq_ok_iff]
    exact ⟨_, congrArg Attempt.result (readEntry_of_entry unitInEighths unitEntry)⟩

end RuleDocument
end PolyMatrix

import PolyMatrix.Monomial.Text
import PolyMatrix.Proofs.Expression.Layout

/-!
# Reading a monomial from its written form

Names contain neither blanks nor stars, so a written monomial is cut into its symbols at
the stars between them, and symbols in any order make the monomial that has them.
-/

namespace PolyMatrix
namespace Monomial

/-- A monomial is the product of its symbols. -/
@[simp] theorem ofSymbols_symbols (monomial : Monomial) :
    ofSymbols monomial.symbols = monomial :=
  eq_of_perm (ofSymbols_perm monomial.symbols)

theorem text_toList (monomial : Monomial) :
    monomial.text.toList = ['*'].intercalate (monomial.symbols.map String.toList) :=
  String.toList_intercalate

/-- The characters of a name. -/
theorem isNameCharacter_of_mem
    {name : List Char}
    (isName : Text.isName name = true) :
    ∀ character ∈ name, Text.isNameCharacter character = true := by
  cases name with
  | nil => exact absurd rfl (Text.ne_nil_of_isName isName)
  | cons first rest =>
      rw [Text.isName, Bool.and_eq_true] at isName
      rw [List.forall_mem_cons]
      exact ⟨Text.isNameCharacter_of_isNameStart isName.1, List.all_eq_true.mp isName.2⟩

/-- A name is a single word of a monomial. -/
theorem separates_eq_false
    {character : Char}
    (goesOn : Text.isNameCharacter character = true) : separates character = false := by
  have solid := (Token.solid_of_start (Token.start_of_isNameCharacter goesOn)).1
  rw [separates, solid, Bool.false_or, beq_eq_false_iff_ne]
  rintro rfl
  exact absurd goesOn (by decide)

/-- Names with stars between them are the words of the text. -/
theorem fields_intercalate_star
    {words : List (List Char)}
    (names : ∀ word ∈ words, Text.isName word = true) :
    (Text.fields separates (['*'].intercalate words)).filter (fun word => !word.isEmpty) =
      words := by
  have whole : ∀ word ∈ words, ∀ character ∈ word, separates character = false :=
    fun word member character inside =>
      separates_eq_false (isNameCharacter_of_mem (names word member) character inside)
  have nonempty : ∀ word ∈ words, (!word.isEmpty) = true := by
    intro word member
    rw [List.isEmpty_eq_false_iff.mpr (Text.ne_nil_of_isName (names word member)),
      Bool.not_false]
  cases words with
  | nil => rfl
  | cons word rest =>
      rw [Text.fields_intercalate_separator rfl (List.cons_ne_nil word rest) whole,
        List.filter_eq_self.mpr nonempty]

section Named

variable {monomial : Monomial}
  (names : ∀ symbol ∈ monomial.symbols, Text.isName symbol.toList = true)

include names

/-- A monomial is written with the characters of names and stars. -/
theorem characters_text :
    ∀ character ∈ monomial.text.toList,
      Text.isNameCharacter character = true ∨ character = '*' := by
  rw [text_toList]
  apply Text.forall_mem_intercalate
  · rw [List.forall_mem_singleton]
    exact .inr rfl
  · rw [List.forall_mem_map]
    exact fun symbol member character inside =>
      .inl (isNameCharacter_of_mem (names symbol member) character inside)

/-- A monomial is written without blanks. -/
theorem trim_text : Text.trim monomial.text.toList = monomial.text.toList := by
  have solid : ∀ character ∈ monomial.text.toList, Text.isBlank character = false := by
    intro character member
    rcases characters_text names character member with name | rfl
    · exact (Token.solid_of_start (Token.start_of_isNameCharacter name)).1
    · decide
  apply Text.trim_eq_self
  · exact fun first isFirst => solid first (List.mem_of_head? isFirst)
  · exact fun last isLast => solid last (List.mem_of_getLast? isLast)

/-- A monomial whose symbols have names is read from its written form. -/
theorem parse_written : parse monomial.text = .ok monomial := by
  have words : ∀ word ∈ monomial.symbols.map String.toList, Text.isName word = true :=
    List.forall_mem_map.mpr names
  have read : ofCharacters? monomial.text.toList = some monomial := by
    rw [ofCharacters?, text_toList, fields_intercalate_star words]
    simp only [List.all_eq_true.mpr words, if_true, List.map_map]
    change some (ofSymbols (monomial.symbols.map fun symbol =>
      String.ofList symbol.toList)) = _
    simp only [String.ofList_toList, List.map_id', ofSymbols_symbols]
  rw [parse, read]

end Named

end Monomial
end PolyMatrix

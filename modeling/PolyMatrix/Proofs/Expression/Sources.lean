import PolyMatrix.Polynomial.OfExpression
import PolyMatrix.Proofs.Attempt
import PolyMatrix.Proofs.Expression.Grouping
import PolyMatrix.Proofs.Expression.Orderly

/-!
# Texts and the sources they stand in

A text is read with its source at hand, which is quoted in faults and notices and has no
part in what is read.  So blanks in front of a text do not matter to what it is read as.
-/

namespace PolyMatrix

namespace Token

/-- A text has the same tokens in every source. -/
theorem result_scanFrom_eq_ok_iff
    (source other : String)
    {word : Word} {text : List Char} {tokens : List Token} :
    (scanFrom source word text).result = .ok tokens ↔
      (scanFrom other word text).result = .ok tokens :=
  ⟨fun scans => (orderly_scanFrom scans other).result,
    fun scans => (orderly_scanFrom scans source).result⟩

/-- Blanks in front of a text are passed over. -/
theorem scanFrom_blanks
    (source : String)
    {gap : List Char}
    (blank : ∀ character ∈ gap, Text.isBlank character = true)
    (text : List Char) :
    scanFrom source .absent (gap ++ text) = scanFrom source .absent text := by
  induction gap with
  | nil => rfl
  | cons first rest inductionHypothesis =>
      rw [List.forall_mem_cons] at blank
      rw [List.cons_append, scanFrom_blank blank.1, inductionHypothesis blank.2]

end Token

namespace Expression

/-- Tokens are the same expression in every source. -/
theorem result_ofTokens (source other : String) (tokens : List Token) :
    (ofTokens source tokens).result = (ofTokens other tokens).result := by
  rw [ofTokens, ofTokens, Reader.readAll_eq_through, Reader.readAll_eq_through,
    Attempt.result_bind, Attempt.result_bind, Reader.result_through source other]

end Expression

namespace Polynomial

variable {K : Type} [Add K] [Neg K] [Mul K] [Coefficient K]

/-- A text is read as the polynomial of its tokens, whatever it stands in. -/
theorem result_parse_eq_ok_iff (source other : String) {p : Polynomial K} :
    (parse source).result = .ok p ↔
      ∃ tokens expression, (Token.scanFrom other .absent source.toList).result = .ok tokens ∧
        (Expression.ofTokens other tokens).result = .ok expression ∧
        expression.toPolynomial = p := by
  simp only [parse, Expression.parse, Token.scan, Attempt.result_bind_eq_ok_iff,
    Token.result_scanFrom_eq_ok_iff source other, Expression.result_ofTokens source other]
  constructor
  · rintro ⟨expression, ⟨tokens, scans, reads⟩, ⟨⟩⟩
    exact ⟨tokens, expression, scans, reads, rfl⟩
  · rintro ⟨tokens, expression, scans, reads, rfl⟩
    exact ⟨expression, ⟨tokens, scans, reads⟩, rfl⟩

/-- Blanks in front of a text do not matter to what it is read as. -/
theorem result_parse_blanks
    {gap : List Char}
    (blank : ∀ character ∈ gap, Text.isBlank character = true)
    {text : List Char}
    {p : Polynomial K} :
    (parse (String.ofList (gap ++ text))).result = .ok p ↔
      (parse (String.ofList text)).result = .ok p := by
  rw [result_parse_eq_ok_iff _ "", result_parse_eq_ok_iff (String.ofList text) "",
    String.toList_ofList, String.toList_ofList, Token.scanFrom_blanks "" blank]

/-- Layout in front of a text does not matter to what it is read as. -/
theorem result_parse_dropWhile {text : List Char} {p : Polynomial K} :
    (parse (String.ofList (text.dropWhile Text.isLayout))).result = .ok p ↔
      (parse (String.ofList text)).result = .ok p := by
  have whole : text.takeWhile Text.isLayout ++ text.dropWhile Text.isLayout = text :=
    List.takeWhile_append_dropWhile
  have blank : ∀ character ∈ text.takeWhile Text.isLayout, Text.isBlank character = true :=
    fun character member => Text.isBlank_of_isLayout (List.mem_takeWhile_imp member)
  rw [← result_parse_blanks blank, whole]

end Polynomial
end PolyMatrix

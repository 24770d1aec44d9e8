import PolyMatrix.Proofs.Expression.Brackets
import PolyMatrix.Proofs.Expression.Layout

/-!
# A factor behind brackets

What stands in brackets is a factor of the product behind them, unless one of the sums
in the brackets ends early; then what stands behind them is added.
-/

namespace PolyMatrix

/-- A number or a symbol. -/
def Token.IsOperand : Token → Prop
  | .number _ | .symbol _ => True
  | .plus | .minus | .star | .opening | .closing => False

namespace Expression

/-! ## Tokens with balanced brackets -/

/-- A number in front of a symbol is the only pair of tokens that makes one piece. -/
theorem ofTokens_append
    {rest : List Token}
    (unattached : Grammar.Unattached rest)
    (tokens : List Token) :
    Piece.ofTokens (tokens ++ rest) = Piece.ofTokens tokens ++ Piece.ofTokens rest := by
  induction tokens using Piece.ofTokens.induct with
  | case1 => rfl
  | case2 value name later inductionHypothesis =>
      exact congrArg (List.cons _) inductionHypothesis
  | case3 value later notSymbol inductionHypothesis =>
      have apart : Grammar.Unattached (later ++ rest) := by
        cases later with
        | nil => exact unattached
        | cons token others =>
            rintro name behind ⟨⟩
            exact notSymbol name others rfl
      rw [List.cons_append, Grammar.ofTokens_number value apart,
        Grammar.ofTokens_number value notSymbol, inductionHypothesis, List.cons_append]
  | case4 | case5 | case6 | case7 | case8 | case9 =>
      rename_i inductionHypothesis
      exact congrArg (List.cons _) inductionHypothesis

/-- Brackets that balance among tokens balance among their pieces. -/
theorem Bracketed.ofTokens
    {depth : Nat} {tokens : List Token}
    (bracketed : Bracketed .opening .closing depth tokens) :
    Bracketed .opening .closing depth (Piece.ofTokens tokens) := by
  induction bracketed with
  | nil => exact .nil
  | @plain depth token rest notOpening notClosing later laterHypothesis =>
      cases token with
      | number value =>
          by_cases symbol : ∃ name behind, rest = .symbol name :: behind
          · obtain ⟨name, behind, rfl⟩ := symbol
            cases laterHypothesis with
            | plain _ _ joined => exact .plain (by simp) (by simp) joined
          · rw [Grammar.ofTokens_number value fun name behind same =>
              symbol ⟨name, behind, same⟩]
            exact .plain (by simp) (by simp) laterHypothesis
      | opening => exact absurd rfl notOpening
      | closing => exact absurd rfl notClosing
      | symbol name => exact .plain (by simp) (by simp) laterHypothesis
      | plus | minus | star => exact .plain (by simp) (by simp) laterHypothesis
  | @group depth inner rest inside later insideHypothesis laterHypothesis =>
      have closed : Grammar.Unattached (.closing :: rest) := by
        rintro name behind ⟨⟩
      change Bracketed _ _ _ (Piece.opening :: Piece.ofTokens (inner ++ .closing :: rest))
      rw [ofTokens_append closed]
      exact .group insideHypothesis laterHypothesis

/-- A number or a symbol is read as an operand. -/
theorem exists_operand
    {token : Token} {tokens : List Token}
    (operand : token.IsOperand)
    (member : token ∈ tokens) : ∃ value, .operand value ∈ Piece.ofTokens tokens := by
  have first {value : Expression} {rest : List Piece} :
      ∃ other, .operand other ∈ Piece.operand value :: rest := ⟨value, List.mem_cons_self⟩
  induction tokens using Piece.ofTokens.induct with
  | case1 => cases member
  | case2 value name later inductionHypothesis => exact first
  | case3 value later notSymbol inductionHypothesis =>
      rw [Grammar.ofTokens_number value notSymbol]
      exact first
  | case4 name later inductionHypothesis => exact first
  | case5 | case6 | case7 | case8 | case9 =>
      rename_i inductionHypothesis
      rcases List.mem_cons.mp member with rfl | behind
      · exact operand.elim
      · obtain ⟨value, inside⟩ := inductionHypothesis behind
        exact ⟨value, List.mem_cons_of_mem _ inside⟩

/-! ## The source -/

namespace Reader

/-- The source is only quoted in notices. -/
theorem result_through (source other : String) (reader : Reader) (pieces : List Piece) :
    (reader.through source pieces).result = (reader.through other pieces).result := by
  have step (reader : Reader) (piece : Piece) :
      (reader.read source piece).result = (reader.read other piece).result := by
    rw [Reader.read, Reader.read, Attempt.result_bind, Attempt.result_bind]
    congr 1
    funext advance
    cases advance with
    | reading current outer => rfl
    | ended total => rfl
  induction pieces generalizing reader with
  | nil => rfl
  | cons piece rest inductionHypothesis =>
      rw [through_cons, through_cons, Attempt.result_bind, Attempt.result_bind, step]
      congr 1
      funext next
      exact inductionHypothesis next

end Reader

/-! ## A factor behind brackets -/

/-- The end of an expression takes what was read in the outermost sum. -/
theorem Reader.orderly_finish (total : Expression) (last : OpenSum) :
    (Reader.finish ⟨total, last, []⟩).Orderly (total.extend last.stop.value) :=
  (Attempt.orderly_ofNoted last.silent_stop).bind (.pure _)

/-- What is read within one sum is a factor of the product behind its brackets. -/
theorem ReadsTo.readAll_times
    {depth : Nat} {last : OpenSum} {pieces : List Piece}
    (reads : ReadsTo depth {} pieces last)
    (shallow : depth < nestingLimit)
    {sum : Expression}
    (stops : last.stop.value = some sum)
    (factor : Expression)
    (source : String) :
    (({} : Reader).readAll source pieces).result = .ok (.sum .zero false sum) ∧
      (({} : Reader).readAll source
        (Piece.opening :: (pieces ++ Piece.closing :: [.star, .operand factor]))).Orderly
        (.sum .zero false (.sum .zero false
          (.product (.signed false sum) (.signed false factor)))) := by
  constructor
  · have alone : (({} : Reader).through source pieces).Orderly ⟨.zero, last, []⟩ :=
      reads.through (by rw [List.length_nil]; omega)
    have ends := Reader.orderly_finish .zero last
    rw [stops] at ends
    rw [Reader.readAll_eq_through]
    exact (alone.bind ends).result
  · let product : OpenSum :=
      OpenSum.addFactor { ({} : OpenSum).addFactor sum with place := .star } factor
    have behind : ReadsTo (depth + 1) (({} : OpenSum).closeGroup last.stop.value).value
        [.star, .operand factor] product := by
      rw [stops]
      exact .onward rfl (.onward rfl .nil)
    have whole : (({} : Reader).through source
        (Piece.opening :: (pieces ++ Piece.closing :: [.star, .operand factor]))).Orderly
        ⟨.zero, product, []⟩ :=
      (ReadsTo.group reads behind).through (by rw [List.length_nil]; omega)
    rw [Reader.readAll_eq_through]
    exact whole.bind (Reader.orderly_finish .zero product)

/-- Where a sum ends early, the last closing bracket has nothing to close, and reading
starts afresh behind it. -/
theorem EndsEarly.exists_through
    {depth : Nat} {pieces : List Piece}
    (early : EndsEarly depth {} pieces)
    (shallow : depth < nestingLimit) :
    ∃ group : Expression, ∀ source : String,
      (({} : Reader).through source (Piece.opening :: (pieces ++ [Piece.closing]))).result =
          .ok { total := group } ∧
        .missingBracket ∈
          (({} : Reader).through source
            (Piece.opening :: (pieces ++ [Piece.closing]))).notices := by
  have room : ([{}] : List OpenSum).length + depth ≤ nestingLimit := by
    rw [List.length_singleton]
    omega
  have reaches (source : String) : ∃ group : Expression,
      (({} : Reader).through source (Piece.opening :: (pieces ++ [Piece.closing]))).result =
          .ok { total := group } ∧
        .missingBracket ∈
          (({} : Reader).through source
            (Piece.opening :: (pieces ++ [Piece.closing]))).notices := by
    have opens := (Reader.read_opening source {} (by decide)).result
    obtain ⟨⟨total, current, outer⟩, reached, fewer, noticed⟩ :=
      early source .zero {} [] room
    cases List.length_eq_zero_iff.mp (Nat.le_zero.mp fewer)
    have skipped : (Reader.read source ⟨total, current, []⟩ .closing).result =
        .ok { total := total.extend current.stop.value } :=
      Reader.result_read_of_outward rfl
    rw [Reader.through_cons, Attempt.result_bind_of_result opens,
      Attempt.notices_bind_of_result opens, Reader.through_append,
      Attempt.result_bind_of_result reached, Reader.through_cons,
      Attempt.result_bind_of_result skipped]
    exact ⟨_, rfl, List.mem_append_right _ (Attempt.mem_notices_bind _ noticed)⟩
  -- The same value is reached whatever source is quoted, so any one will do.
  obtain ⟨group, reached, -⟩ := reaches ""
  refine ⟨group, fun source => ?_⟩
  obtain ⟨other, reachedThere, noticed⟩ := reaches source
  exact ⟨(Reader.result_through source "" _ _).trans reached, noticed⟩

/-- Where a sum ends early, the factor behind the brackets becomes a summand. -/
theorem EndsEarly.readAll_times
    {depth : Nat} {pieces : List Piece}
    (early : EndsEarly depth {} pieces)
    (shallow : depth < nestingLimit)
    (factor : Expression) :
    ∃ group : Expression, ∀ source : String,
      (({} : Reader).readAll source (Piece.opening :: (pieces ++ [Piece.closing]))).result =
          .ok group ∧
        (({} : Reader).readAll source
          (Piece.opening :: (pieces ++ Piece.closing :: [.star, .operand factor]))).result =
            .ok (.sum group false (.sum .zero false (.signed false factor))) ∧
        .missingBracket ∈ (({} : Reader).readAll source
          (Piece.opening :: (pieces ++ Piece.closing :: [.star, .operand factor]))).notices := by
  obtain ⟨group, reaches⟩ := early.exists_through shallow
  refine ⟨group, fun source => ?_⟩
  obtain ⟨reached, noticed⟩ := reaches source
  have whole : (.opening :: (pieces ++ .closing :: [.star, .operand factor]) : List Piece) =
      (Piece.opening :: (pieces ++ [Piece.closing])) ++ [.star, .operand factor] := by
    rw [List.cons_append, List.append_assoc, List.singleton_append]
  have factorReads : ReadsTo 0 {} [.star, .operand factor]
      (({} : OpenSum).addFactor factor) := .onward rfl (.onward rfl .nil)
  have factorThrough : (Reader.through source { total := group }
      [.star, .operand factor]).Orderly ⟨group, ({} : OpenSum).addFactor factor, []⟩ :=
    factorReads.through (by decide)
  have ends := factorThrough.bind (Reader.orderly_finish group _)
  rw [whole, Reader.readAll_eq_through, Reader.readAll_eq_through, Reader.through_append,
    bind_assoc, Attempt.result_bind_of_result reached,
    Attempt.result_bind_of_result reached]
  exact ⟨rfl, ends.result, Attempt.mem_notices_bind _ noticed⟩

/-! ## Texts -/

/-- A text is read as its tokens are, if scanning it tells of no bracket. -/
theorem parse_of_scan
    {source : String} {tokens : List Token}
    (scans : (Token.scan source).Orderly tokens) :
    (parse source).result = (ofTokens source tokens).result ∧
      (.missingBracket ∈ (parse source).notices ↔
        .missingBracket ∈ (ofTokens source tokens).notices) := by
  constructor
  · rw [parse, Attempt.result_bind_of_result scans.result]
  · rw [parse, Attempt.notices_bind_of_result scans.result, List.mem_append]
    exact ⟨fun noticed => noticed.resolve_left scans.silent, .inr⟩

/-- The tokens of a text in brackets, with or without a symbol behind them. -/
theorem scan_group
    {text : String} {tokens : List Token}
    (scans : (Token.scan text).result = .ok tokens)
    {name : String}
    (isName : Text.isName name.toList = true) :
    (Token.scan ("(" ++ text ++ ")")).Orderly (Token.opening :: (tokens ++ [Token.closing])) ∧
      (Token.scan ("(" ++ text ++ ") * " ++ name)).Orderly
        (Token.opening :: (tokens ++ Token.closing :: [.star, .symbol name])) := by
  have alone : ("(" ++ text ++ ")").toList = '(' :: (text.toList ++ [')']) := by
    rw [String.toList_append, String.toList_append]
    rfl
  have whole : ("(" ++ text ++ ") * " ++ name).toList =
      '(' :: (text.toList ++ ')' :: ' ' :: '*' :: ' ' :: name.toList) := by
    rw [String.toList_append, String.toList_append, String.toList_append,
      List.append_assoc]
    rfl
  have factor : Token.Written [.star, .symbol name] (' ' :: '*' :: ' ' :: name.toList) :=
    .blank rfl (.character .star trivial (.blank rfl (.single (.ofName isName) trivial)))
  constructor
  · rw [Token.scan, alone]
    exact Token.orderly_scanFrom_group scans (.pure [])
  · rw [Token.scan, whole]
    refine Token.orderly_scanFrom_group scans ?_
    rw [factor.scanFrom_eq]
    exact .pure _

/-- A text with balanced brackets is read as an expression. -/
theorem exists_parse
    {text : String} {tokens : List Token}
    (scans : (Token.scan text).result = .ok tokens)
    {depth : Nat}
    (bracketed : Bracketed .opening .closing depth tokens)
    (room : depth ≤ nestingLimit) :
    ∃ expression, (parse text).result = .ok expression := by
  have start : ({} : Reader).outer.length + depth ≤ nestingLimit := by
    rw [List.length_nil]
    omega
  obtain ⟨next, reached, -⟩ := Reader.exists_through bracketed.ofTokens text {} start
  rw [parse, Attempt.result_bind_of_result scans, Expression.ofTokens,
    Reader.readAll_eq_through, Attempt.result_bind_of_result reached]
  exact ⟨_, rfl⟩

/-- A text in brackets with a symbol behind it is a product, or a sum where a bracket was
closed early. -/
theorem parse_group_product_or_sum
    {text : String} {tokens : List Token}
    (scans : (Token.scan text).result = .ok tokens)
    {depth : Nat}
    (bracketed : Bracketed .opening .closing depth tokens)
    (shallow : depth < nestingLimit)
    {token : Token}
    (operand : token.IsOperand)
    (member : token ∈ tokens)
    {name : String}
    (isName : Text.isName name.toList = true) :
    (∃ inner, (parse text).result = .ok (.sum .zero false inner) ∧
      (parse ("(" ++ text ++ ") * " ++ name)).Orderly
        (.sum .zero false (.sum .zero false
          (.product (.signed false inner) (.signed false (.symbol name)))))) ∨
    ∃ group, (parse ("(" ++ text ++ ")")).result = .ok group ∧
      (parse ("(" ++ text ++ ") * " ++ name)).result =
        .ok (.sum group false (.sum .zero false (.signed false (.symbol name)))) ∧
      .missingBracket ∈ (parse ("(" ++ text ++ ") * " ++ name)).notices := by
  have closed (rest : List Token) : Piece.ofTokens (tokens ++ .closing :: rest) =
      Piece.ofTokens tokens ++ .closing :: Piece.ofTokens rest := by
    rw [ofTokens_append fun name behind same => by cases same]
    rfl
  have pieces (rest : List Token) :
      Piece.ofTokens (.opening :: (tokens ++ .closing :: rest)) =
        .opening :: (Piece.ofTokens tokens ++ .closing :: Piece.ofTokens rest) :=
    congrArg (List.cons Piece.opening) (closed rest)
  obtain ⟨scansAlone, scansWhole⟩ := scan_group scans isName
  have alone := parse_of_scan scansAlone
  have whole := parse_of_scan scansWhole
  have factor : Piece.ofTokens [.star, .symbol name] = [.star, .operand (.symbol name)] :=
    rfl
  have nothing : Piece.ofTokens [] = [] := rfl
  rw [Expression.ofTokens, pieces, nothing] at alone
  rw [Expression.ofTokens, pieces, factor] at whole
  rcases bracketed.ofTokens.readsTo_or_endsEarly {} with ⟨last, reads⟩ | early
  · obtain ⟨inner, stops⟩ := (reads.filled (.inr (exists_operand operand member))).stop
    obtain ⟨readsInner, -⟩ := reads.readAll_times shallow stops (.symbol name) text
    obtain ⟨-, readsWhole⟩ := reads.readAll_times shallow stops (.symbol name)
      ("(" ++ text ++ ") * " ++ name)
    refine .inl ⟨inner, ?_, whole.1.trans readsWhole.result, ?_⟩
    · rw [parse, Attempt.result_bind_of_result scans]
      exact readsInner
    · exact fun noticed => readsWhole.silent (whole.2.mp noticed)
  · obtain ⟨group, readsAll⟩ := early.readAll_times shallow (.symbol name)
    obtain ⟨-, readsWhole, noticed⟩ := readsAll ("(" ++ text ++ ") * " ++ name)
    exact .inr ⟨group, alone.1.trans (readsAll _).1, whole.1.trans readsWhole,
      whole.2.mpr noticed⟩

end Expression
end PolyMatrix

import PolyMatrix.Proofs.Expression.Hanging
import PolyMatrix.Proofs.Polynomial.Carrying

/-!
# Polynomials with skipped tokens

A closing bracket with nothing to close separates two texts whose polynomials are added, so it
is as good as absent where a sum could be split.  A star behind a star is as good as absent
where no factor stands in front of the two, and where one does it is read as a closing bracket
and a star.
-/

namespace PolyMatrix

open Expression (Piece Reader nestingLimit)

namespace Polynomial

variable {K : Type} [Add K] [Neg K] [Mul K] [Coefficient K]

/-! ## Lists of tokens -/

/-- The polynomial that a list of tokens is read as. -/
def ofTokens (tokens : List Token) : Except Fault (Polynomial K) :=
  (Expression.ofTokens "" tokens).result.map Expression.toPolynomial

/-- A text is read as its tokens are. -/
theorem result_parse_of_scan
    {source : String} {tokens : List Token}
    (scans : (Token.scan source).result = .ok tokens) :
    (parse source : Attempt (Polynomial K)).result = ofTokens tokens := by
  have same : (Expression.ofTokens source tokens).result =
      (Expression.ofTokens "" tokens).result := by
    rw [Expression.ofTokens, Expression.ofTokens, Reader.readAll_eq_through,
      Reader.readAll_eq_through, Attempt.result_bind, Attempt.result_bind,
      Reader.result_through source ""]
  rw [result_parse, Expression.parse, Attempt.result_bind_of_result scans, same, ofTokens]

theorem ofTokens_of_readAll
    {tokens : List Token} {expression : Expression}
    (reads : (({} : Reader).readAll "" (Piece.ofTokens tokens)).result = .ok expression) :
    ofTokens tokens = .ok (expression.toPolynomial : Polynomial K) := by
  rw [ofTokens, Expression.ofTokens, reads]
  rfl

/-- Adding expressions one after another adds their polynomials. -/
theorem toPolynomial_addAll (total : Expression) (addends : List Expression) :
    (total.addAll addends).toPolynomial =
      (addends.map Expression.toPolynomial).foldl add (total.toPolynomial : Polynomial K) := by
  induction addends generalizing total with
  | nil => rfl
  | cons addend rest inductionHypothesis =>
      rw [Expression.addAll_cons, inductionHypothesis, List.map_cons, List.foldl_cons,
        Expression.toPolynomial, add, addScaled, withoutNote_toPolynomial]
      rfl

/-! ## What becomes of skipped tokens -/

/-- Some tokens in the middle only separate what is in front of them from what is behind them:
the two are read by themselves, and the second is added to the first, sum by sum. -/
def Separates (front rest : List Token) (outcome : Except Fault (Polynomial K)) : Prop :=
  ∃ (p : Polynomial K) (addends : List (Polynomial K)),
    ofTokens front = .ok p ∧ ofTokens rest = .ok (sum addends) ∧
      outcome = .ok (addends.foldl add p)

/-- The tokens end with a factor, behind which a product could go on. -/
def EndWithFactor (front : List Token) : Prop :=
  ∃ reader : Reader, (({} : Reader).through "" (Piece.ofTokens front)).result = .ok reader ∧
    reader.current.product ≠ none ∧ reader.current.place = .joint

/-- What becomes of a closing bracket that has nothing to close. -/
structure StrayBracket (K : Type) [Add K] [Neg K] [Mul K] [Coefficient K]
    (front rest : List Token)
    (source : String) : Prop where
  separates : Separates front rest (parse source : Attempt (Polynomial K)).result
  /-- With integer coefficients it is as good as absent behind a factor, if a sign follows or
  nothing at all. -/
  absent : EndWithFactor front → rest.head?.all Token.isSign = true →
    (parse source : Attempt (Polynomial ℤ)).result = ofTokens (front ++ rest)

/-- What becomes of the second of two stars in a row, if `reader` is where the first one leads
to. -/
structure SecondStar
    (front rest : List Token)
    (reader : Reader)
    (outcome : Except Fault (Polynomial K)) : Prop where
  reached : (({} : Reader).through "" (Piece.ofTokens (front ++ [.star]))).result = .ok reader
  /-- Without a factor in the term, what follows is read as the start of a term. -/
  begins : reader.current.product = none →
    outcome = (({ reader with current := reader.current.anew } : Reader).readAll ""
      (Piece.ofTokens rest)).result.map Expression.toPolynomial
  /-- Then the second star is as good as absent, unless the first star stands behind brackets
  around nothing and a sign follows. -/
  absent : reader.current.product = none →
    reader.current.place = .term ∨ rest.head?.any Token.isSign = false →
    outcome = ofTokens (front ++ .star :: rest)
  /-- With factors in the term, it is read as a closing bracket and a star. -/
  closes : reader.current.product ≠ none →
    outcome = ofTokens (front ++ .star :: .closing :: .star :: rest)
  /-- So outside of all brackets what stands behind it is added. -/
  separates : reader.current.product ≠ none → bracketDepth .opening .closing front = 0 →
    Separates (front ++ [.star]) (.star :: rest) outcome

theorem head?_ofTokens_of_not_isSign
    {tokens : List Token}
    (noSign : tokens.head?.any Token.isSign = false)
    (negative : Bool) : (Piece.ofTokens tokens).head? ≠ some (.sign negative) := by
  unfold Piece.ofTokens
  split <;> simp_all [Token.isSign]

/-- A closing bracket with nothing to close ends a sum of its own, within the limit. -/
theorem ofTokens_stray
    {front rest : List Token}
    (nothingOpen : bracketDepth .opening .closing front = 0)
    (withinFront : Expression.WithinLimit .opening .closing front)
    (withinRest : Expression.WithinLimit .opening .closing rest) :
    Separates front rest
      (ofTokens (front ++ .closing :: rest) : Except Fault (Polynomial K)) := by
  have pieces : Piece.ofTokens (front ++ .closing :: rest) =
      Piece.ofTokens front ++ .closing :: Piece.ofTokens rest :=
    Expression.ofTokens_append (fun name behind same => by cases same) front
  obtain ⟨expression, addends, readsFront, readsRest, reads⟩ := Reader.exists_readAll_stray ""
    ((Expression.bracketDepth_ofTokens front).trans nothingOpen) withinFront.ofTokens
    withinRest.ofTokens
  rw [← pieces] at reads
  refine ⟨expression.toPolynomial, addends.map Expression.toPolynomial, ?_, ?_, ?_⟩
  · exact ofTokens_of_readAll readsFront
  · rw [ofTokens_of_readAll readsRest, toPolynomial_addAll]
    rfl
  · rw [ofTokens_of_readAll reads, toPolynomial_addAll]

theorem pieces_of_isSign
    {tokens : List Token}
    (follows : tokens.head?.all Token.isSign = true) :
    Grammar.Unattached tokens ∧ (Piece.ofTokens tokens = [] ∨
      ∃ negative rest, Piece.ofTokens tokens = .sign negative :: rest) := by
  cases tokens with
  | nil => exact ⟨(fun name later same => by cases same), .inl rfl⟩
  | cons token later =>
      cases token with
      | plus => exact ⟨(fun name later same => by cases same), .inr ⟨_, _, rfl⟩⟩
      | minus => exact ⟨(fun name later same => by cases same), .inr ⟨_, _, rfl⟩⟩
      | number | symbol | star | opening | closing => cases follows

/-- With integer coefficients, a closing bracket with nothing to close is as good as absent where
a sum could be split. -/
theorem ofTokens_stray_absent
    {front rest : List Token}
    (nothingOpen : bracketDepth .opening .closing front = 0)
    (within : Expression.WithinLimit .opening .closing front)
    (factor : EndWithFactor front)
    (follows : rest.head?.all Token.isSign = true) :
    (ofTokens (front ++ .closing :: rest) : Except Fault (Polynomial ℤ)) =
      ofTokens (front ++ rest) := by
  obtain ⟨unattached, signs⟩ := pieces_of_isSign follows
  obtain ⟨reader, reached, factors, place⟩ := factor
  obtain ⟨product, factors⟩ := Option.ne_none_iff_exists'.mp factors
  obtain ⟨total, current, outermost⟩ := Reader.exists_through_outermost ""
    ((Expression.bracketDepth_ofTokens front).trans nothingOpen) within.ofTokens
  cases reached.symm.trans outermost
  apply map_toPolynomial_eq_of_meaning
  rw [Expression.ofTokens, Expression.ofTokens, Expression.ofTokens_append unattached,
    Expression.ofTokens_append (fun name behind same => by cases same) front,
    Reader.readAll_append, Reader.readAll_append, Attempt.result_bind_of_result reached,
    Attempt.result_bind_of_result reached]
  exact Reader.meaning_readAll_closing factors place signs

/-- Behind a star, tokens are read on from where the reader is. -/
theorem ofTokens_behind_star
    {front : List Token} {reader : Reader}
    (reached : (({} : Reader).through "" (Piece.ofTokens (front ++ [.star]))).result =
      .ok reader)
    (rest : List Token) :
    (ofTokens (front ++ .star :: rest) : Except Fault (Polynomial K)) =
      (reader.readAll "" (Piece.ofTokens rest)).result.map Expression.toPolynomial := by
  have pieces : Piece.ofTokens (front ++ .star :: rest) =
      Piece.ofTokens (front ++ [.star]) ++ Piece.ofTokens rest := by
    rw [Expression.ofTokens_append (fun name behind same => by cases same) front,
      Expression.ofTokens_append (fun name behind same => by cases same) front,
      List.append_assoc]
    rfl
  rw [ofTokens, Expression.ofTokens, pieces, Reader.readAll_append,
    Attempt.result_bind_of_result reached]

/-- Within the limit a star is reached and read. -/
theorem exists_through_star
    {front : List Token}
    (within : Expression.WithinLimit .opening .closing (front ++ [.star])) :
    ∃ reader : Reader,
      (({} : Reader).through "" (Piece.ofTokens (front ++ [.star]))).result = .ok reader ∧
        reader.current.BehindStar := by
  obtain ⟨reader, reached, -⟩ := Reader.exists_through_of_depth ""
    within.ofTokens (le_refl ({} : Reader).outer.length)
  refine ⟨reader, reached, ?_⟩
  rw [Expression.ofTokens_append (fun name behind same => by cases same) front,
    Reader.through_append] at reached
  obtain ⟨earlier, -, last⟩ := Attempt.exists_of_result_bind reached
  rw [Piece.ofTokens, Piece.ofTokens, Reader.through_cons] at last
  obtain ⟨next, reads, last⟩ := Attempt.exists_of_result_bind last
  cases last
  exact Reader.behindStar_of_read reads

/-- Behind a factor and a star, a second star is read as a closing bracket and a star. -/
theorem ofTokens_star_of_product
    {front : List Token} {reader : Reader}
    (reached : (({} : Reader).through "" (Piece.ofTokens (front ++ [.star]))).result =
      .ok reader)
    (behindStar : reader.current.BehindStar)
    (factors : reader.current.product ≠ none)
    (rest : List Token) :
    (ofTokens (front ++ .star :: .star :: rest) : Except Fault (Polynomial K)) =
      ofTokens (front ++ .star :: .closing :: .star :: rest) := by
  obtain ⟨product, factors⟩ := Option.ne_none_iff_exists'.mp factors
  have place : reader.current.place = .star := by
    rcases behindStar with place | ⟨-, noFactor, -⟩
    · exact place
    · cases factors.symm.trans noFactor
  rw [ofTokens_behind_star reached, ofTokens_behind_star reached]
  exact congrArg (Except.map Expression.toPolynomial)
    (Reader.result_readAll_star_of_product place factors _)

theorem exists_secondStar
    {front rest : List Token}
    (within : Expression.WithinLimit .opening .closing (front ++ .star :: .star :: rest)) :
    ∃ reader, SecondStar front rest reader
      (ofTokens (front ++ .star :: .star :: rest) : Except Fault (Polynomial K)) := by
  have split (rest : List Token) : front ++ .star :: rest = (front ++ [.star]) ++ rest := by
    rw [List.append_assoc, List.singleton_append]
  rw [split] at within
  obtain ⟨reader, reached, behindStar⟩ := exists_through_star within.front
  refine ⟨reader, ?_⟩
  constructor
  case reached => exact reached
  case begins =>
    intro noFactor
    rw [ofTokens_behind_star reached]
    exact congrArg (Except.map Expression.toPolynomial)
      (Reader.result_readAll_star_anew behindStar noFactor _)
  case absent =>
    intro noFactor noSign
    rw [ofTokens_behind_star reached, ofTokens_behind_star reached]
    exact congrArg (Except.map Expression.toPolynomial)
      (Reader.result_readAll_star_of_none behindStar noFactor
        (noSign.imp_right head?_ofTokens_of_not_isSign))
  case closes =>
    intro factors
    exact ofTokens_star_of_product reached behindStar factors rest
  case separates =>
    intro factors nothingOpen
    have stillNothing : bracketDepth Token.opening .closing (front ++ [.star]) = 0 :=
      (bracketDepth_append_singleton _ _ front .star).trans nothingOpen
    rw [ofTokens_star_of_product reached behindStar factors, split (.closing :: .star :: rest)]
    exact ofTokens_stray stillNothing within.front (within.behind stillNothing)

/-- Of two stars in a row the second one is skipped, and so is a closing bracket with nothing to
close.  Either is as good as absent in some places only: between two factors what stands
behind it is added. -/
theorem parse_skipped
    {source : String} {tokens : List Token}
    (scans : (Token.scan source).result = .ok tokens)
    (within : Expression.WithinLimit .opening .closing tokens) :
    (∀ front rest, tokens = front ++ .closing :: rest →
      bracketDepth .opening .closing front = 0 → StrayBracket K front rest source) ∧
    ∀ front rest, tokens = front ++ .star :: .star :: rest →
      ∃ reader, SecondStar front rest reader
        (parse source : Attempt (Polynomial K)).result := by
  constructor
  · rintro front rest rfl nothingOpen
    have closed : bracketDepth Token.opening .closing (front ++ [.closing]) = 0 := by
      rw [bracketDepth_append_singleton, nothingOpen]
      rfl
    have behind : Expression.WithinLimit Token.opening .closing
        ((front ++ [.closing]) ++ rest) := by
      rwa [List.append_assoc, List.singleton_append]
    constructor
    case separates =>
      rw [result_parse_of_scan scans]
      exact ofTokens_stray nothingOpen within.front (behind.behind closed)
    case absent =>
      intro factor follows
      rw [result_parse_of_scan scans]
      exact ofTokens_stray_absent nothingOpen within.front factor follows
  · rintro front rest rfl
    rw [result_parse_of_scan scans]
    exact exists_secondStar within

/-- Two stars in front of a factor, and a bracket between it and a sign. -/
theorem parse_skipped_lenient :
    let source := "* * x ) - y"
    (parse source : Attempt (Polynomial ℤ)).result =
        ofTokens [.star, .star, .symbol "x", .minus, .symbol "y"] ∧
      (parse source : Attempt (Polynomial ℤ)).result =
        ofTokens [.star, .symbol "x", .closing, .minus, .symbol "y"] := by
  intro source
  let front : List Token := [.star, .star, .symbol "x"]
  let tokens : List Token := front ++ .closing :: [.minus, .symbol "y"]
  have scans : (Token.scan source).result = .ok tokens := by decide +kernel
  have within : Expression.WithinLimit .opening .closing tokens := by
    intro part begins
    rw [← List.mem_inits] at begins
    revert part
    decide
  obtain ⟨brackets, stars⟩ := parse_skipped scans within
  constructor
  · have factor : EndWithFactor front :=
      ⟨{ current := ({} : Expression.OpenSum).addFactor (.symbol "x") }, by decide +kernel,
        Option.some_ne_none _, rfl⟩
    exact (brackets front [.minus, .symbol "y"] rfl rfl).absent factor rfl
  · obtain ⟨reader, second⟩ := stars [] [.symbol "x", .closing, .minus, .symbol "y"] rfl
    have first : (({} : Reader).through "" (Piece.ofTokens [.star])).result = .ok {} := by
      decide +kernel
    obtain rfl := Except.ok.inj (first.symm.trans second.reached)
    exact second.absent rfl (.inl rfl)

/-- Between two factors neither a second star nor a closing bracket is as good as absent, and
a second star behind brackets around nothing can turn the sign behind it. -/
theorem parse_skipped_differs :
    let x : Polynomial ℤ := ofTerm (.ofSymbols ["x"]) 1
    let y : Polynomial ℤ := ofTerm (.ofSymbols ["y"]) 1
    (parse "x * * y" : Attempt (Polynomial ℤ)).result.map terms = .ok (x.add y).terms ∧
      (parse "x ) y" : Attempt (Polynomial ℤ)).result.map terms = .ok (x.add y).terms ∧
      (parse "x * y" : Attempt (Polynomial ℤ)).result.map terms = .ok (x.multiply y).terms ∧
      (parse "x y" : Attempt (Polynomial ℤ)).result.map terms = .ok (x.multiply y).terms ∧
      (parse "() * * - * y" : Attempt (Polynomial ℤ)).result.map terms = .ok y.negate.terms ∧
      (parse "() * - * y" : Attempt (Polynomial ℤ)).result.map terms = .ok y.terms ∧
      (x.add y).terms ≠ (x.multiply y).terms ∧ y.negate.terms ≠ y.terms := by
  decide +kernel

end Polynomial
end PolyMatrix

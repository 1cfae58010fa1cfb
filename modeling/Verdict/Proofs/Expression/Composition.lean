import Mathlib
import Verdict.Proofs.Expression.Completeness
import Verdict.Proofs.Expression.Evaluation
import Verdict.Proofs.Expression.Lexing
/-!
Putting source texts together. Sources that parse may be put in parentheses and joined by connectives, and
what comes out holds as the logic of its parts says.
-/

namespace Verdict.Expression

open Time (Instant)

/-- A chain mentions what its operands mention. -/
theorem Chained.mentions_eq {node : List Expr → Expr} {operands : List Expr} {expression : Expr}
    (chained : Chained node operands expression) {name : String}
    (node_mentions : ∀ operands, (node operands).mentions name = Expr.anyMentions name operands) :
    expression.mentions name = Expr.anyMentions name operands := by
  cases chained with
  | single => simp [Expr.anyMentions]
  | several => exact node_mentions _

theorem Operand.mentions_iff {token : Token} {expression : Expr} (operand : Operand token expression)
    (name : String) : expression.mentions name = true ↔ token = .identifier name := by
  cases operand <;> simp [Expr.mentions]

/-- The identifiers of trees are those of their tokens. -/
theorem Derives.anyMentions_iff {phrase : Phrase} {tokens : List Token} {expressions : List Expr}
    (derivation : Derives phrase tokens expressions) (name : String) :
    Expr.anyMentions name expressions = true ↔ .identifier name ∈ tokens := by
  induction derivation with
  | operand operand => simp [Expr.anyMentions, operand.mentions_iff, eq_comm]
  | parentheses _ ih => simp [ih]
  | single _ ih => exact ih
  | compare _ _ _ left right =>
    simp only [Expr.anyMentions, Bool.or_false] at left right
    simp [Expr.anyMentions, Expr.mentions, left, right]
  | lastConjunct _ ih => exact ih
  | conjunct _ _ left right =>
    simp only [Expr.anyMentions, Bool.or_false] at left
    simp [Expr.anyMentions, left, right]
  | all _ chained ih =>
    rw [← ih, Expr.anyMentions, Expr.anyMentions, Bool.or_false, chained.mentions_eq fun _ => by rw [Expr.mentions]]
  | lastAlternative _ ih => exact ih
  | alternative _ _ left right =>
    simp only [Expr.anyMentions, Bool.or_false] at left
    simp [Expr.anyMentions, left, right]
  | any _ chained ih =>
    rw [← ih, Expr.anyMentions, Expr.anyMentions, Bool.or_false, chained.mentions_eq fun _ => by rw [Expr.mentions]]

/-- Whether a parsed expression mentions an identifier can be read off its tokens. -/
theorem mentions_iff_of_parse {source : String} {tokens : List Located} {expression : Expr}
    (cut : tokenize source = .ok tokens) (parsed : parse source = .ok expression) (name : String) :
    expression.mentions name = true ↔ .identifier name ∈ plain tokens := by
  obtain ⟨others, otherCut, writes, _⟩ := parse_eq_ok_iff.1 parsed
  cases cut.symm.trans otherCut
  rw [← writes.anyMentions_iff name, Expr.anyMentions, Expr.anyMentions, Bool.or_false]

theorem exists_tokenize_of_parse {source : String} {expression : Expr} (parsed : parse source = .ok expression) :
    ∃ tokens, tokenize source = .ok tokens ∧ Writes (plain tokens) expression ∧
      nesting (plain tokens) = sourceNesting source := by
  obtain ⟨tokens, cut, writes, _⟩ := parse_eq_ok_iff.1 parsed
  exact ⟨tokens, cut, writes, by rw [sourceNesting, cut]⟩

theorem parse_of_cuts {source : String} {tokens : List Token} {expression : Expr}
    (cuts : Cuts none source.toList tokens) (writes : Writes tokens expression)
    (within : nesting tokens ≤ nestingLimit) : parse source = .ok expression := by
  obtain ⟨located, cut, rfl⟩ := exists_tokenize_of_cuts cuts
  exact parse_eq_ok_iff.2 ⟨located, cut, writes, within⟩

/-- Tokens in parentheses. -/
def parenthesized (tokens : List Token) : List Token :=
  .openParenthesis :: tokens ++ [.closeParenthesis]

section

variable {left right : List Token} {first second : Expr}

theorem derives_parenthesized (writes : Writes left first) :
    Derives .comparison (parenthesized left) [first] :=
  .single (.parentheses writes)

theorem nesting_parenthesized (writes : Writes left first) :
    nesting (parenthesized left) = 1 + nesting left := by
  calc
    nesting (parenthesized left) = deepest (0 + 1) left := deepest_parentheses writes 0
    _ = 1 + nesting left := writes.deepest_eq 1

theorem nesting_join (leftWrites : Writes left first) (rightWrites : Writes right second) {sign : Token}
    (neutral : ∀ depth, sign.depthAfter depth = depth) :
    nesting (parenthesized left ++ sign :: parenthesized right) =
      1 + max (nesting left) (nesting right) := by
  calc
    nesting (parenthesized left ++ sign :: parenthesized right)
        = max (nesting (parenthesized left)) (nesting (parenthesized right)) :=
          deepest_join (derives_parenthesized leftWrites).depthBehind_eq neutral 0
    _ = max (1 + nesting left) (1 + nesting right) := by
          rw [nesting_parenthesized leftWrites, nesting_parenthesized rightWrites]
    _ = 1 + max (nesting left) (nesting right) := Nat.add_max_add_left ..

theorem writes_parenthesized (writes : Writes left first) : Writes (parenthesized left) first :=
  .any (.lastAlternative (.all (.lastConjunct (derives_parenthesized writes)) (.single _))) (.single _)

theorem writes_conjunction (leftWrites : Writes left first) (rightWrites : Writes right second) :
    Writes (parenthesized left ++ .and :: parenthesized right) (.all [first, second]) :=
  .any (.lastAlternative (.all (.conjunct (derives_parenthesized leftWrites)
    (.lastConjunct (derives_parenthesized rightWrites))) (.several _ _ _))) (.single _)

theorem writes_disjunction (leftWrites : Writes left first) (rightWrites : Writes right second) :
    Writes (parenthesized left ++ .or :: parenthesized right) (.any [first, second]) :=
  .any (.alternative (.all (.lastConjunct (derives_parenthesized leftWrites)) (.single _))
    (.lastAlternative (.all (.lastConjunct (derives_parenthesized rightWrites)) (.single _)))) (.several _ _ _)

end

section

variable {first second : String} {left right : Expr}

theorem parse_parentheses (firstParsed : parse first = .ok left) (firstWithin : sourceNesting first ≤ 63) :
    parse ("(" ++ first ++ ")") = .ok left := by
  obtain ⟨tokens, cut, writes, same⟩ := exists_tokenize_of_parse firstParsed
  rw [← same] at firstWithin
  have text : ("(" ++ first ++ ")").toList = '(' :: (first.toList ++ [')']) := by
    simp [String.toList_append]
  have cuts : Cuts none ("(" ++ first ++ ")").toList (parenthesized (plain tokens)) := by
    rw [text]
    exact cuts_parentheses cut .nil
  apply parse_of_cuts cuts (writes_parenthesized writes)
  rw [nesting_parenthesized writes, nestingLimit]
  omega

/-- Two sources in parentheses, with text between them that is cut into one connective. -/
theorem parse_join {source : String} {whole : Expr} {sign : Token} (between : List Char)
    (firstParsed : parse first = .ok left) (firstWithin : sourceNesting first ≤ 63)
    (secondParsed : parse second = .ok right) (secondWithin : sourceNesting second ≤ 63)
    (neutral : ∀ depth, sign.depthAfter depth = depth)
    (cutBetween : ∀ {behind later}, Cuts (some sign) behind later →
      Cuts (some .closeParenthesis) (between ++ behind) (sign :: later))
    (rule : ∀ {leftTokens rightTokens}, Writes leftTokens left → Writes rightTokens right →
      Writes (parenthesized leftTokens ++ sign :: parenthesized rightTokens) whole)
    (text : source.toList = '(' :: (first.toList ++ ')' :: (between ++ '(' :: (second.toList ++ [')'])))) :
    parse source = .ok whole := by
  obtain ⟨leftTokens, leftCut, leftWrites, leftSame⟩ := exists_tokenize_of_parse firstParsed
  obtain ⟨rightTokens, rightCut, rightWrites, rightSame⟩ := exists_tokenize_of_parse secondParsed
  rw [← leftSame] at firstWithin
  rw [← rightSame] at secondWithin
  have cuts : Cuts none source.toList
      (parenthesized (plain leftTokens) ++ sign :: parenthesized (plain rightTokens)) := by
    rw [text, parenthesized, List.append_assoc]
    exact cuts_parentheses leftCut (cutBetween (cuts_parentheses rightCut .nil))
  apply parse_of_cuts cuts (rule leftWrites rightWrites)
  rw [nesting_join leftWrites rightWrites neutral, nestingLimit]
  omega

/-- Sources that parse and leave room for one more parenthesis may be put in parentheses and joined by a
connective: the result parses, and at every record and time it holds as its parts do. -/
theorem parse_composed_sources (firstParsed : parse first = .ok left) (firstWithin : sourceNesting first ≤ 63)
    (secondParsed : parse second = .ok right) (secondWithin : sourceNesting second ≤ 63) :
    (∃ whole, parse ("(" ++ first ++ ")") = .ok whole ∧
      ∀ record now, whole.holds record now = left.holds record now) ∧
    (∃ whole, parse ("(" ++ first ++ ") && (" ++ second ++ ")") = .ok whole ∧
      ∀ record now, whole.holds record now = (left.holds record now && right.holds record now)) ∧
    (∃ whole, parse ("(" ++ first ++ ") || (" ++ second ++ ")") = .ok whole ∧
      ∀ record now, whole.holds record now = (left.holds record now || right.holds record now)) := by
  refine ⟨⟨left, parse_parentheses firstParsed firstWithin, fun _ _ => rfl⟩,
    ⟨.all [left, right], ?_, fun record now => ?_⟩, ⟨.any [left, right], ?_, fun record now => ?_⟩⟩
  · exact parse_join [' ', '&', '&', ' '] firstParsed firstWithin secondParsed secondWithin (fun _ => rfl)
      Cuts.conjunction writes_conjunction (by simp [String.toList_append])
  · rw [Expr.holds_all, List.all_cons, List.all_cons, List.all_nil, Bool.and_true]
  · exact parse_join [' ', '|', '|', ' '] firstParsed firstWithin secondParsed secondWithin (fun _ => rfl)
      Cuts.disjunction writes_disjunction (by simp [String.toList_append])
  · rw [Expr.holds_any, List.any_cons, List.any_cons, List.any_nil, Bool.or_false]

/-- Only one of two sources mentions the derived field, and the other one has parentheses of its own. -/
theorem delivery_and_approval_composed :
    sourceNesting "approved || (deputy && true)" = 1 ∧
      ∃ whole, parse "(deliveryDays == null) && (approved || (deputy && true))" = .ok whole ∧
        ∀ record now, whole.holds record now =
          ((Expr.compare .equal (.identifier "deliveryDays") (.literal .null)).holds record now &&
            (Expr.any [.identifier "approved", .all [.identifier "deputy", .literal (.bool true)]]).holds record
              now) := by
  have firstParsed : parse "deliveryDays == null" =
      .ok (.compare .equal (.identifier "deliveryDays") (.literal .null)) := by cbv
  have secondParsed : parse "approved || (deputy && true)" =
      .ok (.any [.identifier "approved", .all [.identifier "deputy", .literal (.bool true)]]) := by cbv
  have firstWithin : sourceNesting "deliveryDays == null" ≤ 63 := by cbv
  have secondWithin : sourceNesting "approved || (deputy && true)" ≤ 63 := by cbv
  exact ⟨by cbv, (parse_composed_sources firstParsed firstWithin secondParsed secondWithin).2.1⟩

end

end Verdict.Expression

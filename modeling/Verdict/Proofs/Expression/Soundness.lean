import Verdict.Proofs.Expression.Nesting
/-!
What the parser accepts is derived. Each function reads a start of the tokens that its phrase derives,
within the limit on open parentheses, and leaves exactly the tokens behind it.
-/

namespace Verdict.Expression

/-- The tokens without their places. -/
abbrev plain (located : List Located) : List Token :=
  located.map Located.token

/-- Tokens begin with a phrase that stays within the limit on open parentheses, and `rest` is behind it. -/
def Begins (phrase : Phrase) (depth : Nat) (tokens rest : List Located) (expressions : List Expr) : Prop :=
  ∃ consumed, consumed ++ rest = tokens ∧ Derives phrase (plain consumed) expressions ∧
    deepest depth (plain consumed) ≤ nestingLimit

namespace Begins

variable {phrase leftPhrase rightPhrase : Phrase} {depth : Nat} {tokens next rest : List Located}
  {expressions leftExpressions rightExpressions : List Expr}

theorem operand {first : Located} {expression : Expr} (operand : Operand first.token expression)
    (within : depth ≤ nestingLimit) : Begins .primary depth (first :: rest) rest [expression] := by
  refine ⟨[first], rfl, .operand operand, ?_⟩
  rw [plain, List.map_singleton, deepest, deepest, operand.depthAfter, Nat.max_self]
  exact within

theorem parentheses {first last : Located} {expression : Expr} (opens : first.token = .openParenthesis)
    (inner : Begins .any (depth + 1) tokens (last :: rest) [expression])
    (closes : last.token = .closeParenthesis) :
    Begins .primary depth (first :: tokens) rest [expression] := by
  obtain ⟨consumed, rfl, derivation, within⟩ := inner
  refine ⟨first :: consumed ++ [last], by simp, ?_, ?_⟩
  · rw [plain, List.map_append, List.map_cons, List.map_singleton, opens, closes]
    exact .parentheses derivation
  · rw [plain, List.map_append, List.map_cons, List.map_singleton, opens, closes,
      deepest_parentheses derivation]
    exact within

/-- A phrase that is made up by another one. -/
theorem promote (rule : ∀ {tokens}, Derives leftPhrase tokens leftExpressions →
      Derives phrase tokens expressions)
    (begins : Begins leftPhrase depth tokens rest leftExpressions) :
    Begins phrase depth tokens rest expressions := by
  obtain ⟨consumed, whole, derivation, within⟩ := begins
  exact ⟨consumed, whole, rule derivation, within⟩

/-- Two phrases with a token between them that is no parenthesis. -/
theorem join {sign : Located}
    (rule : ∀ {left right}, Derives leftPhrase left leftExpressions →
      Derives rightPhrase right rightExpressions →
        Derives phrase (left ++ sign.token :: right) expressions)
    (neutral : ∀ depth, sign.token.depthAfter depth = depth)
    (first : Begins leftPhrase depth tokens (sign :: next) leftExpressions)
    (second : Begins rightPhrase depth next rest rightExpressions) :
    Begins phrase depth tokens rest expressions := by
  obtain ⟨left, rfl, leftDerivation, leftWithin⟩ := first
  obtain ⟨right, rfl, rightDerivation, rightWithin⟩ := second
  refine ⟨left ++ sign :: right, by simp, ?_, ?_⟩
  · rw [plain, List.map_append, List.map_cons]
    exact rule leftDerivation rightDerivation
  · rw [plain, List.map_append, List.map_cons, deepest_join leftDerivation.depthBehind_eq neutral]
    exact Nat.max_le.2 ⟨leftWithin, rightWithin⟩

end Begins

/-- Tokens go on with more operands of a chain, each behind its sign, or not at all. -/
def GoesOn (sign : Token) (phrase : Phrase) (depth : Nat) (tokens rest : List Located)
    (operands : List Expr) : Prop :=
  (operands = [] ∧ rest = tokens) ∨
    ∃ first next, tokens = first :: next ∧ first.token = sign ∧ Begins phrase depth next rest operands

theorem eq_cons_of_behind? {wanted : Token} {tokens : List Located} {rest : Rest tokens}
    (found : behind? wanted tokens = some rest) :
    ∃ first, tokens = first :: rest.val ∧ first.token = wanted := by
  cases tokens with
  | nil => cases found
  | cons first tail =>
    rw [behind?] at found
    split at found
    next same =>
      cases found
      exact ⟨first, rfl, same⟩
    next => cases found

theorem eq_cons_of_leadingComparator? {tokens : List Located} {comparator : Comparator}
    {rest : Rest tokens} (found : leadingComparator? tokens = some (comparator, rest)) :
    ∃ first, tokens = first :: rest.val ∧ first.token = .comparison comparator := by
  cases tokens with
  | nil => cases found
  | cons first tail =>
    rw [leadingComparator?] at found
    split at found
    next sign =>
      cases found
      exact ⟨first, rfl, sign⟩
    next => cases found

theorem eq_cons_of_expectClosing {finish : Nat} {tokens : List Located} {rest : Rest tokens}
    (closed : expectClosing finish tokens = .ok rest) :
    ∃ first, tokens = first :: rest.val ∧ first.token = .closeParenthesis := by
  cases tokens with
  | nil => cases closed
  | cons first tail =>
    rw [expectClosing] at closed
    split at closed
    next same =>
      cases closed
      exact ⟨first, rfl, same⟩
    next => cases closed

section

variable {finish depth : Nat}

theorem Begins.alternatives {tokens next rest : List Located} {first : Expr} {others : List Expr}
    (operand : Begins .all depth tokens next [first])
    (goesOn : GoesOn .or .alternatives depth next rest others) :
    Begins .alternatives depth tokens rest (first :: others) := by
  rcases goesOn with ⟨rfl, rfl⟩ | ⟨sign, behind, rfl, same, later⟩
  · exact operand.promote .lastAlternative
  · exact Begins.join (same ▸ .alternative) (fun _ => by rw [same]; rfl) operand later

theorem Begins.conjuncts {tokens next rest : List Located} {first : Expr} {others : List Expr}
    (operand : Begins .comparison depth tokens next [first])
    (goesOn : GoesOn .and .conjuncts depth next rest others) :
    Begins .conjuncts depth tokens rest (first :: others) := by
  rcases goesOn with ⟨rfl, rfl⟩ | ⟨sign, behind, rfl, same, later⟩
  · exact operand.promote .lastConjunct
  · exact Begins.join (same ▸ .conjunct) (fun _ => by rw [same]; rfl) operand later

end

mutual

theorem begins_of_parseAny {finish depth : Nat} {tokens : List Located} {expression : Expr}
    {rest : Rest tokens} (within : depth ≤ nestingLimit)
    (parsed : parseAny finish depth tokens = .ok (expression, rest)) :
    Begins .any depth tokens rest.val [expression] := by
  unfold parseAny at parsed
  split at parsed
  next => cases parsed
  next first next nextShorter operandParsed =>
    split at parsed
    next => cases parsed
    next others rest restShorter othersParsed =>
      cases parsed
      have operand := begins_of_parseAll within operandParsed
      exact (operand.alternatives (goesOn_of_parseAlternatives within othersParsed)).promote
        (.any · (chained_iff.2 rfl))
termination_by 4 * tokens.length + 3

theorem goesOn_of_parseAlternatives {finish depth : Nat} {tokens : List Located} {operands : List Expr}
    {rest : Remainder tokens} (within : depth ≤ nestingLimit)
    (parsed : parseAlternatives finish depth tokens = .ok (operands, rest)) :
    GoesOn .or .alternatives depth tokens rest.val operands := by
  unfold parseAlternatives at parsed
  split at parsed
  next =>
    cases parsed
    exact .inl ⟨rfl, rfl⟩
  next operandTokens operandShorter found =>
    obtain ⟨sign, whole, same⟩ := eq_cons_of_behind? found
    split at parsed
    next => cases parsed
    next operand next nextShorter operandParsed =>
      split at parsed
      next => cases parsed
      next others rest restShorter othersParsed =>
        cases parsed
        have operand := begins_of_parseAll within operandParsed
        exact .inr ⟨sign, operandTokens, whole, same,
          operand.alternatives (goesOn_of_parseAlternatives within othersParsed)⟩
termination_by 4 * tokens.length

theorem begins_of_parseAll {finish depth : Nat} {tokens : List Located} {expression : Expr}
    {rest : Rest tokens} (within : depth ≤ nestingLimit)
    (parsed : parseAll finish depth tokens = .ok (expression, rest)) :
    Begins .all depth tokens rest.val [expression] := by
  unfold parseAll at parsed
  split at parsed
  next => cases parsed
  next first next nextShorter operandParsed =>
    split at parsed
    next => cases parsed
    next others rest restShorter othersParsed =>
      cases parsed
      have operand := begins_of_parseComparison within operandParsed
      exact (operand.conjuncts (goesOn_of_parseConjuncts within othersParsed)).promote
        (.all · (chained_iff.2 rfl))
termination_by 4 * tokens.length + 2

theorem goesOn_of_parseConjuncts {finish depth : Nat} {tokens : List Located} {operands : List Expr}
    {rest : Remainder tokens} (within : depth ≤ nestingLimit)
    (parsed : parseConjuncts finish depth tokens = .ok (operands, rest)) :
    GoesOn .and .conjuncts depth tokens rest.val operands := by
  unfold parseConjuncts at parsed
  split at parsed
  next =>
    cases parsed
    exact .inl ⟨rfl, rfl⟩
  next operandTokens operandShorter found =>
    obtain ⟨sign, whole, same⟩ := eq_cons_of_behind? found
    split at parsed
    next => cases parsed
    next operand next nextShorter operandParsed =>
      split at parsed
      next => cases parsed
      next others rest restShorter othersParsed =>
        cases parsed
        have operand := begins_of_parseComparison within operandParsed
        exact .inr ⟨sign, operandTokens, whole, same,
          operand.conjuncts (goesOn_of_parseConjuncts within othersParsed)⟩
termination_by 4 * tokens.length

theorem begins_of_parseComparison {finish depth : Nat} {tokens : List Located} {expression : Expr}
    {rest : Rest tokens} (within : depth ≤ nestingLimit)
    (parsed : parseComparison finish depth tokens = .ok (expression, rest)) :
    Begins .comparison depth tokens rest.val [expression] := by
  unfold parseComparison at parsed
  split at parsed
  next => cases parsed
  next left next nextShorter leftParsed =>
    have leftBegins : Begins .primary depth tokens next [left] :=
      begins_of_parsePrimary within leftParsed
    split at parsed
    next =>
      cases parsed
      exact leftBegins.promote .single
    next comparator rightTokens rightShorter found =>
      obtain ⟨sign, whole, same⟩ := eq_cons_of_leadingComparator? found
      rw [whole] at leftBegins
      split at parsed
      next => cases parsed
      next right rest restShorter rightParsed =>
        split at parsed
        next => cases parsed
        next =>
          cases parsed
          have rightBegins := begins_of_parsePrimary within rightParsed
          exact Begins.join (same ▸ .compare comparator) (fun _ => by rw [same]; rfl) leftBegins rightBegins
termination_by 4 * tokens.length + 1

theorem begins_of_parsePrimary {finish depth : Nat} {tokens : List Located} {expression : Expr}
    {rest : Rest tokens} (within : depth ≤ nestingLimit)
    (parsed : parsePrimary finish depth tokens = .ok (expression, rest)) :
    Begins .primary depth tokens rest.val [expression] := by
  cases tokens with
  | nil =>
    unfold parsePrimary at parsed
    cases parsed
  | cons first behind =>
    unfold parsePrimary at parsed
    split at parsed
    next operand found =>
      cases parsed
      exact .operand (operand?_eq_some_iff.1 found) within
    next =>
      split at parsed
      next opens =>
        split at parsed
        next => cases parsed
        next shallow =>
          split at parsed
          next => cases parsed
          next inner next nextShorter innerParsed =>
            split at parsed
            next => cases parsed
            next rest restShorter closed =>
              cases parsed
              obtain ⟨last, whole, closes⟩ := eq_cons_of_expectClosing closed
              have deeper : depth + 1 ≤ nestingLimit := Nat.lt_of_not_le shallow
              have inside : Begins .any (depth + 1) behind next [expression] :=
                begins_of_parseAny deeper innerParsed
              rw [whole] at inside
              exact .parentheses opens inside closes
      next => cases parsed
termination_by 4 * tokens.length

end

end Verdict.Expression

import Verdict.Proofs.Expression.Soundness
/-!
What is derived is accepted. Where no token follows with which a phrase would go on, the function of the
phrase reads exactly the derived tokens and gives their tree, so that the early exits of the parser refuse
no derivable tokens. Together with soundness: parsing succeeds exactly on written expressions.
-/

namespace Verdict.Expression

/-- How loosely the sign between two operands binds them. -/
def Token.looseness? : Token → Option Nat
  | .comparison _ => some 1
  | .and => some 2
  | .or => some 3
  | _ => none

/-- The loosest sign that may stand between the operands of a phrase. -/
def Phrase.looseness : Phrase → Nat
  | .primary => 0
  | .comparison => 1
  | .conjuncts | .all => 2
  | .alternatives | .any => 3

/-- Tokens with which a phrase before them does not go on. -/
def Stops (phrase : Phrase) (rest : List Located) : Prop :=
  ∀ next ∈ rest.head?, ∀ looseness, next.token.looseness? = some looseness → phrase.looseness < looseness

theorem stops_cons {phrase : Phrase} {next : Located} (rest : List Located)
    (looser : ∀ looseness, next.token.looseness? = some looseness → phrase.looseness < looseness) :
    Stops phrase (next :: rest) := by
  intro other present
  cases present
  exact looser

theorem stops_of_looser {phrase : Phrase} {next : Located} {looseness : Nat} (rest : List Located)
    (known : next.token.looseness? = some looseness) (looser : phrase.looseness < looseness) :
    Stops phrase (next :: rest) := by
  apply stops_cons
  intro other same
  cases known.symm.trans same
  exact looser

theorem Stops.tighter {phrase part : Phrase} {rest : List Located} (stops : Stops phrase rest)
    (tighter : part.looseness ≤ phrase.looseness) : Stops part rest :=
  fun next present looseness sign => Nat.lt_of_le_of_lt tighter (stops next present looseness sign)

theorem Stops.token_ne {phrase : Phrase} {next : Located} {rest : List Located}
    (stops : Stops phrase (next :: rest)) {sign : Token} {looseness : Nat}
    (known : sign.looseness? = some looseness) (within : looseness ≤ phrase.looseness) :
    next.token ≠ sign := by
  rintro rfl
  exact Nat.not_lt_of_le within (stops next rfl looseness known)

theorem behind?_eq_none {phrase : Phrase} {rest : List Located} (stops : Stops phrase rest) {sign : Token}
    {looseness : Nat} (known : sign.looseness? = some looseness) (within : looseness ≤ phrase.looseness) :
    behind? sign rest = none := by
  cases rest with
  | nil => rfl
  | cons next tail => exact if_neg (stops.token_ne known within)

theorem leadingComparator?_eq_none {rest : List Located} (stops : Stops .comparison rest) :
    leadingComparator? rest = none := by
  cases rest with
  | nil => rfl
  | cons next tail =>
    rw [leadingComparator?]
    split
    next comparator sign => exact absurd sign (stops.token_ne rfl (Nat.le_refl 1))
    next => rfl

theorem refuseComparison_eq_ok {rest : List Located} (stops : Stops .comparison rest) :
    refuseComparison rest = .ok () := by
  cases rest with
  | nil => rfl
  | cons next tail =>
    rw [refuseComparison]
    split
    next comparator sign => exact absurd sign (stops.token_ne rfl (Nat.le_refl 1))
    next => rfl

/-- A function of the parser gives a value and leaves a rest. -/
def Yields {α : Type} {bound : List Located → Prop}
    (outcome : Except SyntaxError (α × { rest : List Located // bound rest })) (value : α)
    (rest : List Located) : Prop :=
  ∃ shorter, outcome = .ok (value, ⟨rest, shorter⟩)

section

variable {finish depth : Nat} {tokens next rest : List Located} {operand : Expr} {others : List Expr}

theorem yields_parseAny (first : Yields (parseAll finish depth tokens) operand next)
    (later : Yields (parseAlternatives finish depth next) others rest) :
    Yields (parseAny finish depth tokens) (Expr.group .any operand others) rest := by
  obtain ⟨nextShorter, first⟩ := first
  obtain ⟨restShorter, later⟩ := later
  refine ⟨by omega, ?_⟩
  rw [parseAny, first]
  simp only [later]

theorem yields_parseAlternatives_nil (stops : Stops .alternatives rest) :
    Yields (parseAlternatives finish depth rest) [] rest := by
  refine ⟨Nat.le_refl _, ?_⟩
  rw [parseAlternatives, behind?_eq_none stops rfl (Nat.le_refl _)]

theorem yields_parseAlternatives_cons {sign : Located} (same : sign.token = .or)
    (first : Yields (parseAll finish depth tokens) operand next)
    (later : Yields (parseAlternatives finish depth next) others rest) :
    Yields (parseAlternatives finish depth (sign :: tokens)) (operand :: others) rest := by
  obtain ⟨nextShorter, first⟩ := first
  obtain ⟨restShorter, later⟩ := later
  refine ⟨by rw [List.length_cons]; omega, ?_⟩
  rw [parseAlternatives, behind?]
  simp only [same, ↓reduceIte, first, later]

theorem yields_parseAll (first : Yields (parseComparison finish depth tokens) operand next)
    (later : Yields (parseConjuncts finish depth next) others rest) :
    Yields (parseAll finish depth tokens) (Expr.group .all operand others) rest := by
  obtain ⟨nextShorter, first⟩ := first
  obtain ⟨restShorter, later⟩ := later
  refine ⟨by omega, ?_⟩
  rw [parseAll, first]
  simp only [later]

theorem yields_parseConjuncts_nil (stops : Stops .conjuncts rest) :
    Yields (parseConjuncts finish depth rest) [] rest := by
  refine ⟨Nat.le_refl _, ?_⟩
  rw [parseConjuncts, behind?_eq_none stops rfl (Nat.le_refl _)]

theorem yields_parseConjuncts_cons {sign : Located} (same : sign.token = .and)
    (first : Yields (parseComparison finish depth tokens) operand next)
    (later : Yields (parseConjuncts finish depth next) others rest) :
    Yields (parseConjuncts finish depth (sign :: tokens)) (operand :: others) rest := by
  obtain ⟨nextShorter, first⟩ := first
  obtain ⟨restShorter, later⟩ := later
  refine ⟨by rw [List.length_cons]; omega, ?_⟩
  rw [parseConjuncts, behind?]
  simp only [same, ↓reduceIte, first, later]

theorem yields_parseComparison_single (only : Yields (parsePrimary finish depth tokens) operand rest)
    (stops : Stops .comparison rest) : Yields (parseComparison finish depth tokens) operand rest := by
  obtain ⟨restShorter, only⟩ := only
  refine ⟨restShorter, ?_⟩
  rw [parseComparison, only]
  simp only [leadingComparator?_eq_none stops]

theorem yields_parseComparison {sign : Located} {comparator : Comparator} {left right : Expr}
    (first : Yields (parsePrimary finish depth tokens) left (sign :: next))
    (same : sign.token = .comparison comparator)
    (second : Yields (parsePrimary finish depth next) right rest) (stops : Stops .comparison rest) :
    Yields (parseComparison finish depth tokens) (.compare comparator left right) rest := by
  obtain ⟨signShorter, first⟩ := first
  obtain ⟨restShorter, second⟩ := second
  rw [List.length_cons] at signShorter
  refine ⟨by omega, ?_⟩
  rw [parseComparison, first]
  simp only [leadingComparator?, same, second, refuseComparison_eq_ok stops]

theorem yields_parsePrimary_operand {first : Located} (found : first.token.operand? = some operand) :
    Yields (parsePrimary finish depth (first :: rest)) operand rest := by
  refine ⟨Nat.lt_succ_self _, ?_⟩
  rw [parsePrimary]
  split
  next other same => cases found.symm.trans same; rfl
  next absent => cases found.symm.trans absent

theorem yields_parsePrimary_parentheses {first last : Located} (opens : first.token = .openParenthesis)
    (shallow : depth < nestingLimit)
    (inner : Yields (parseAny finish (depth + 1) tokens) operand (last :: rest))
    (closes : last.token = .closeParenthesis) :
    Yields (parsePrimary finish depth (first :: tokens)) operand rest := by
  obtain ⟨lastShorter, inner⟩ := inner
  rw [List.length_cons] at lastShorter
  refine ⟨by rw [List.length_cons]; omega, ?_⟩
  rw [parsePrimary]
  simp only [opens, Token.operand?, ↓reduceIte, Nat.not_le.2 shallow, inner, expectClosing, closes]

end

/-- The function of a phrase reads a start of the tokens as these trees and leaves the rest. A chain is read
as its first operand and then the further ones. -/
def Reads (finish depth : Nat) (tokens : List Located) : Phrase → List Expr → List Located → Prop
  | .primary, expressions, rest =>
    ∃ expression, expressions = [expression] ∧ Yields (parsePrimary finish depth tokens) expression rest
  | .comparison, expressions, rest =>
    ∃ expression, expressions = [expression] ∧ Yields (parseComparison finish depth tokens) expression rest
  | .conjuncts, expressions, rest =>
    ∃ first others next, expressions = first :: others ∧
      Yields (parseComparison finish depth tokens) first next ∧
        Yields (parseConjuncts finish depth next) others rest
  | .all, expressions, rest =>
    ∃ expression, expressions = [expression] ∧ Yields (parseAll finish depth tokens) expression rest
  | .alternatives, expressions, rest =>
    ∃ first others next, expressions = first :: others ∧ Yields (parseAll finish depth tokens) first next ∧
      Yields (parseAlternatives finish depth next) others rest
  | .any, expressions, rest =>
    ∃ expression, expressions = [expression] ∧ Yields (parseAny finish depth tokens) expression rest

/-- Located tokens that are two lists with a token between them. -/
theorem plain_eq_join {located : List Located} {left right : List Token} {sign : Token}
    (same : plain located = left ++ sign :: right) :
    ∃ before first after, located = before ++ first :: after ∧ plain before = left ∧
      first.token = sign ∧ plain after = right := by
  obtain ⟨before, behind, rfl, leftSame, behindSame⟩ := List.map_eq_append_iff.1 same
  obtain ⟨first, after, rfl, signSame, rightSame⟩ := List.map_eq_cons_iff.1 behindSame
  exact ⟨before, first, after, rfl, leftSame, signSame, rightSame⟩

/-- Derived tokens are read by the function of their phrase. -/
theorem reads_of_derives {phrase : Phrase} {tokens : List Token} {expressions : List Expr}
    (derivation : Derives phrase tokens expressions) {finish depth : Nat} {located rest : List Located}
    (same : plain located = tokens) (within : deepest depth tokens ≤ nestingLimit)
    (stops : Stops phrase rest) : Reads finish depth (located ++ rest) phrase expressions rest := by
  induction derivation generalizing depth located rest with
  | @operand token expression operand =>
    obtain ⟨first, rfl, rfl⟩ := List.map_eq_singleton_iff.1 same
    exact ⟨expression, rfl, yields_parsePrimary_operand (operand?_eq_some_iff.2 operand)⟩
  | @parentheses tokens expression inner ih =>
    rw [deepest_parentheses inner] at within
    obtain ⟨first, behind, rfl, opens, behindSame⟩ := List.map_eq_cons_iff.1 same
    obtain ⟨inside, closing, rfl, insideSame, closingSame⟩ := List.map_eq_append_iff.1 behindSame
    obtain ⟨last, rfl, closes⟩ := List.map_eq_singleton_iff.1 closingSame
    have closed : Stops .any (last :: rest) := stops_cons rest (by simp [closes, Token.looseness?])
    obtain ⟨only, one, read⟩ := ih insideSame within closed
    cases one
    have shallow : depth < nestingLimit := Nat.lt_of_lt_of_le (Nat.lt_succ_self depth)
      (Nat.le_trans (le_deepest (depth + 1) tokens) within)
    refine ⟨expression, rfl, ?_⟩
    rw [List.cons_append, List.append_assoc]
    exact yields_parsePrimary_parentheses opens shallow read closes
  | single _ ih =>
    obtain ⟨only, one, read⟩ := ih same within (stops.tighter (by decide))
    exact ⟨only, one, yields_parseComparison_single read stops⟩
  | @compare left right first second comparator firstDerived _ leftIh rightIh =>
    rw [deepest_join firstDerived.depthBehind_eq (fun _ => rfl), Nat.max_le] at within
    obtain ⟨before, sign, after, rfl, leftSame, signSame, rightSame⟩ := plain_eq_join same
    have compared : Stops .primary (sign :: after ++ rest) :=
      stops_of_looser _ (congrArg Token.looseness? signSame) (by decide)
    obtain ⟨_, leftOne, leftRead⟩ := leftIh leftSame within.1 compared
    obtain ⟨_, rightOne, rightRead⟩ := rightIh rightSame within.2 (stops.tighter (by decide))
    cases leftOne
    cases rightOne
    refine ⟨_, rfl, ?_⟩
    rw [List.append_assoc]
    exact yields_parseComparison leftRead signSame rightRead stops
  | @lastConjunct tokens expression _ ih =>
    obtain ⟨only, one, read⟩ := ih same within (stops.tighter (by decide))
    exact ⟨only, [], rest, one, read, yields_parseConjuncts_nil stops⟩
  | @conjunct left right first others firstDerived _ leftIh rightIh =>
    rw [deepest_join firstDerived.depthBehind_eq (fun _ => rfl), Nat.max_le] at within
    obtain ⟨before, sign, after, rfl, leftSame, signSame, rightSame⟩ := plain_eq_join same
    have joined : Stops .comparison (sign :: after ++ rest) :=
      stops_of_looser _ (congrArg Token.looseness? signSame) (by decide)
    obtain ⟨_, leftOne, leftRead⟩ := leftIh leftSame within.1 joined
    obtain ⟨second, further, next, rightMore, secondRead, furtherRead⟩ := rightIh rightSame within.2 stops
    cases leftOne
    refine ⟨first, others, sign :: after ++ rest, rfl, ?_, ?_⟩
    · rw [List.append_assoc]
      exact leftRead
    · rw [rightMore]
      exact yields_parseConjuncts_cons signSame secondRead furtherRead
  | all _ chained ih =>
    obtain ⟨first, others, next, rfl, firstRead, othersRead⟩ := ih same within (stops.tighter (by decide))
    cases chained_iff.1 chained
    exact ⟨_, rfl, yields_parseAll firstRead othersRead⟩
  | @lastAlternative tokens expression _ ih =>
    obtain ⟨only, one, read⟩ := ih same within (stops.tighter (by decide))
    exact ⟨only, [], rest, one, read, yields_parseAlternatives_nil stops⟩
  | @alternative left right first others firstDerived _ leftIh rightIh =>
    rw [deepest_join firstDerived.depthBehind_eq (fun _ => rfl), Nat.max_le] at within
    obtain ⟨before, sign, after, rfl, leftSame, signSame, rightSame⟩ := plain_eq_join same
    have joined : Stops .all (sign :: after ++ rest) :=
      stops_of_looser _ (congrArg Token.looseness? signSame) (by decide)
    obtain ⟨_, leftOne, leftRead⟩ := leftIh leftSame within.1 joined
    obtain ⟨second, further, next, rightMore, secondRead, furtherRead⟩ := rightIh rightSame within.2 stops
    cases leftOne
    refine ⟨first, others, sign :: after ++ rest, rfl, ?_, ?_⟩
    · rw [List.append_assoc]
      exact leftRead
    · rw [rightMore]
      exact yields_parseAlternatives_cons signSame secondRead furtherRead
  | any _ chained ih =>
    obtain ⟨first, others, next, rfl, firstRead, othersRead⟩ := ih same within (stops.tighter (by decide))
    cases chained_iff.1 chained
    exact ⟨_, rfl, yields_parseAny firstRead othersRead⟩

theorem expectEnd_eq_ok_iff {tokens : List Located} : expectEnd tokens = .ok () ↔ tokens = [] := by
  cases tokens with
  | nil => simp [expectEnd]
  | cons first rest => simp [expectEnd]

/-- Tokens parse exactly to the expression that they write, if the limit on open parentheses is kept. -/
theorem parseTokens_eq_ok_iff {finish : Nat} {tokens : List Located} {expression : Expr} :
    parseTokens finish tokens = .ok expression ↔
      Writes (plain tokens) expression ∧ nesting (plain tokens) ≤ nestingLimit := by
  constructor
  · intro parsed
    unfold parseTokens at parsed
    split at parsed
    next => cases parsed
    next =>
      split at parsed
      next => cases parsed
      next root rest restShorter read =>
        split at parsed
        next => cases parsed
        next ended =>
          cases parsed
          cases expectEnd_eq_ok_iff.1 ended
          obtain ⟨consumed, whole, derivation, within⟩ := begins_of_parseAny (Nat.zero_le _) read
          rw [List.append_nil] at whole
          rw [← whole]
          exact ⟨derivation, within⟩
  · intro written
    obtain ⟨derivation, within⟩ := written
    have ended : Stops .any [] := by
      intro next present
      cases present
    have reads : Reads finish 0 (tokens ++ []) .any [expression] [] :=
      reads_of_derives derivation rfl within ended
    rw [List.append_nil] at reads
    obtain ⟨_, one, shorter, read⟩ := reads
    cases one
    have nonempty : tokens.isEmpty = false := by
      rw [List.isEmpty_eq_false_iff]
      rintro rfl
      exact derivation.tokens_ne_nil rfl
    simp only [parseTokens, nonempty, Bool.false_eq_true, ↓reduceIte, read, expectEnd]

theorem parse_eq_ok_iff {source : String} {expression : Expr} :
    parse source = .ok expression ↔ ∃ tokens, tokenize source = .ok tokens ∧
      Writes (plain tokens) expression ∧ nesting (plain tokens) ≤ nestingLimit := by
  rw [parse]
  cases tokenize source with
  | error error => simp
  | ok tokens => simp [parseTokens_eq_ok_iff]

/-- A source parses to an expression exactly if its tokens write that expression with at most 64 open
parentheses, and every source whose tokens write none is refused with a syntax error. -/
theorem parse_accepts_written_sources (source : String) :
    (∀ expression, parse source = .ok expression ↔ ∃ tokens, tokenize source = .ok tokens ∧
      Writes (tokens.map Located.token) expression ∧ nesting (tokens.map Located.token) ≤ 64) ∧
      ((∃ error, parse source = .error error) ↔ ¬∃ tokens expression, tokenize source = .ok tokens ∧
        Writes (tokens.map Located.token) expression ∧ nesting (tokens.map Located.token) ≤ 64) := by
  refine ⟨fun expression => parse_eq_ok_iff, ?_⟩
  constructor
  · rintro ⟨error, refused⟩ ⟨tokens, expression, written⟩
    cases refused.symm.trans (parse_eq_ok_iff.2 ⟨tokens, written⟩)
  · intro unwritten
    cases outcome : parse source with
    | error error => exact ⟨error, rfl⟩
    | ok expression =>
      obtain ⟨tokens, written⟩ := parse_eq_ok_iff.1 outcome
      exact absurd ⟨tokens, expression, written⟩ unwritten

end Verdict.Expression

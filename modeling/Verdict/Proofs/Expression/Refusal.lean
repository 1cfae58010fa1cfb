import Verdict.Proofs.Expression.Resumption
/-!
Which token is blamed when tokens do not parse. The parser has the correct-prefix property: what it has read when it
fails could still become an expression, and with the token that it blames nothing can.
-/

namespace Verdict.Expression

/-- A function of the parser fails. -/
def Fails {α : Type} (outcome : Except SyntaxError α) : Prop :=
  ∃ error, outcome = .error error

theorem Fails.ite {α : Type} {condition : Prop} [Decidable condition] {yes no : Except SyntaxError α}
    (holds : Fails yes) (fails : Fails no) : Fails (if condition then yes else no) := by
  split
  · exact holds
  · exact fails

/-- The function of a phrase fails on tokens; a chain does as the expression that it makes. -/
def Refuses (finish depth : Nat) (tokens : List Located) : Phrase → Prop
  | .primary => Fails (parsePrimary finish depth tokens)
  | .comparison => Fails (parseComparison finish depth tokens)
  | .conjuncts | .all => Fails (parseAll finish depth tokens)
  | .alternatives | .any => Fails (parseAny finish depth tokens)

section Failing

variable {finish depth : Nat} {tokens next rest : List Located} {first second : Located} {operand left right : Expr}
  {error : SyntaxError}

/-- Further alternatives fail behind their sign, as they do for themselves. -/
theorem parseAlternatives_eq_error_iff :
    parseAlternatives finish depth tokens = .error error ↔
      ∃ next, behind? .or tokens = some next ∧ parseAny finish depth next.val = .error error := by
  rw [parseAlternatives]
  cases behind? .or tokens with
  | none => simp
  | some next =>
    simp only [Option.some.injEq, exists_eq_left', parseAny]
    cases parseAll finish depth next.val with
    | error failed => simp only [Except.error.injEq]
    | ok operand =>
      dsimp only
      split <;> simp

/-- Further conjuncts fail behind their sign, as they do for themselves. -/
theorem parseConjuncts_eq_error_iff :
    parseConjuncts finish depth tokens = .error error ↔
      ∃ next, behind? .and tokens = some next ∧ parseAll finish depth next.val = .error error := by
  rw [parseConjuncts]
  cases behind? .and tokens with
  | none => simp
  | some next =>
    simp only [Option.some.injEq, exists_eq_left', parseAll]
    cases parseComparison finish depth next.val with
    | error failed => simp only [Except.error.injEq]
    | ok operand =>
      dsimp only
      split <;> simp

theorem fails_parseAny (failed : Fails (parseAll finish depth tokens)) : Fails (parseAny finish depth tokens) := by
  obtain ⟨error, failed⟩ := failed
  exact ⟨error, by rw [parseAny, failed]⟩

theorem fails_parseAny_behind (read : Yields (parseAll finish depth tokens) operand (first :: next))
    (same : first.token = .or) (failed : Fails (parseAny finish depth next)) : Fails (parseAny finish depth tokens) := by
  obtain ⟨shorter, read⟩ := read
  obtain ⟨error, failed⟩ := failed
  have further : parseAlternatives finish depth (first :: next) = .error error :=
    parseAlternatives_eq_error_iff.2 ⟨_, if_pos same, failed⟩
  refine ⟨error, ?_⟩
  rw [parseAny, read]
  simp only [further]

theorem fails_parseAll (failed : Fails (parseComparison finish depth tokens)) : Fails (parseAll finish depth tokens) := by
  obtain ⟨error, failed⟩ := failed
  exact ⟨error, by rw [parseAll, failed]⟩

theorem fails_parseAll_behind (read : Yields (parseComparison finish depth tokens) operand (first :: next))
    (same : first.token = .and) (failed : Fails (parseAll finish depth next)) : Fails (parseAll finish depth tokens) := by
  obtain ⟨shorter, read⟩ := read
  obtain ⟨error, failed⟩ := failed
  have further : parseConjuncts finish depth (first :: next) = .error error :=
    parseConjuncts_eq_error_iff.2 ⟨_, if_pos same, failed⟩
  refine ⟨error, ?_⟩
  rw [parseAll, read]
  simp only [further]

theorem fails_parseComparison (failed : Fails (parsePrimary finish depth tokens)) :
    Fails (parseComparison finish depth tokens) := by
  obtain ⟨error, failed⟩ := failed
  exact ⟨error, by rw [parseComparison, failed]⟩

theorem fails_parseComparison_behind {comparator : Comparator}
    (read : Yields (parsePrimary finish depth tokens) left (first :: next)) (same : first.token = .comparison comparator)
    (failed : Fails (parsePrimary finish depth next)) : Fails (parseComparison finish depth tokens) := by
  obtain ⟨shorter, read⟩ := read
  obtain ⟨error, failed⟩ := failed
  refine ⟨error, ?_⟩
  rw [parseComparison, read]
  simp only [leadingComparator?, same, failed]

theorem fails_parseComparison_chained {comparator another : Comparator}
    (read : Yields (parsePrimary finish depth tokens) left (first :: next)) (same : first.token = .comparison comparator)
    (readBehind : Yields (parsePrimary finish depth next) right (second :: rest))
    (chained : second.token = .comparison another) : Fails (parseComparison finish depth tokens) := by
  obtain ⟨shorter, read⟩ := read
  obtain ⟨shorterBehind, readBehind⟩ := readBehind
  refine ⟨⟨second.offset, .chainedComparison⟩, ?_⟩
  rw [parseComparison, read]
  simp only [leadingComparator?, same, readBehind, refuseComparison, chained]

theorem fails_parsePrimary_inside (opens : first.token = .openParenthesis)
    (failed : Fails (parseAny finish (depth + 1) tokens)) : Fails (parsePrimary finish depth (first :: tokens)) := by
  obtain ⟨error, failed⟩ := failed
  rw [parsePrimary]
  simp only [opens, Token.operand?, ↓reduceIte, failed]
  exact .ite ⟨_, rfl⟩ ⟨_, rfl⟩

theorem fails_parsePrimary_unclosed (opens : first.token = .openParenthesis)
    (read : Yields (parseAny finish (depth + 1) tokens) operand rest) (failed : Fails (expectClosing finish rest)) :
    Fails (parsePrimary finish depth (first :: tokens)) := by
  obtain ⟨shorter, read⟩ := read
  obtain ⟨error, failed⟩ := failed
  rw [parsePrimary]
  simp only [opens, Token.operand?, ↓reduceIte, read, failed]
  exact .ite ⟨_, rfl⟩ ⟨_, rfl⟩

end Failing

/-- The offset at which tokens start, or the end of the source if there are none. -/
def startOf (finish : Nat) (tokens : List Located) : Nat :=
  (tokens.head?.map Located.offset).getD finish

/-- Tokens with which a phrase can begin within the limit on open parentheses. -/
def CanBegin (phrase : Phrase) (depth : Nat) (tokens : List Token) : Prop :=
  ∃ behind expressions, Derives phrase (tokens ++ behind) expressions ∧ deepest depth (tokens ++ behind) ≤ nestingLimit

/-- Except for the operands of a chain, a phrase has one tree. -/
theorem Derives.exists_tree {phrase : Phrase} {tokens : List Token} {expressions : List Expr}
    (derivation : Derives phrase tokens expressions) (noConjuncts : phrase ≠ .conjuncts)
    (noAlternatives : phrase ≠ .alternatives) : ∃ expression, expressions = [expression] := by
  cases derivation with
  | lastConjunct _ | conjunct _ _ => contradiction
  | lastAlternative _ | alternative _ _ => contradiction
  | _ => exact ⟨_, rfl⟩

/-- Tokens are no phrase and are blamed at a position: the phrase can begin with those before it, and no list that goes
on with the blamed token, or ends with them at the end of the source, is read as the phrase. -/
def Blamed (finish depth : Nat) (phrase : Phrase) (tokens : List Located) (position : Nat) : Prop :=
  ∃ before behind, before ++ behind = tokens ∧ position = startOf finish behind ∧
    CanBegin phrase depth (plain before) ∧
      ∀ other, other.head? = behind.head? → Refuses finish depth (before ++ other) phrase

namespace Blamed

variable {finish depth position : Nat} {phrase left right : Phrase} {tokens next rest : List Located}
  {first sign : Located} {operand : Expr}

/-- An operand that cannot begin with the first token. -/
theorem here (within : depth ≤ nestingLimit)
    (refuses : ∀ other, other.head? = tokens.head? → Fails (parsePrimary finish depth other)) :
    Blamed finish depth .primary tokens (startOf finish tokens) := by
  refine ⟨[], tokens, rfl, rfl, ⟨[.null], [.literal .null], .operand .null, ?_⟩, refuses⟩
  exact Nat.max_le.2 ⟨within, within⟩

/-- A phrase that begins with another one. -/
theorem promote (blamed : Blamed finish depth left tokens position)
    (rule : ∀ {tokens expressions}, Derives left tokens expressions → ∃ trees, Derives phrase tokens trees)
    (refuses : ∀ {tokens}, Refuses finish depth tokens left → Refuses finish depth tokens phrase) :
    Blamed finish depth phrase tokens position := by
  obtain ⟨before, behind, whole, place, ⟨more, expressions, derivation, within⟩, fails⟩ := blamed
  obtain ⟨trees, promoted⟩ := rule derivation
  exact ⟨before, behind, whole, place, ⟨more, trees, promoted, within⟩, fun other same => refuses (fails other same)⟩

/-- A phrase that goes on behind a sign. -/
theorem behind (blamed : Blamed finish depth right next position)
    (read : Resumes finish left depth tokens (sign :: next) operand)
    (neutral : ∀ depth, sign.token.depthAfter depth = depth)
    (rule : ∀ {before after expressions}, Derives left before [operand] → Derives right after expressions →
      ∃ trees, Derives phrase (before ++ sign.token :: after) trees)
    (refuses : ∀ {tokens other}, Reads finish depth tokens left [operand] (sign :: other) →
      Refuses finish depth other right → Refuses finish depth tokens phrase) :
    Blamed finish depth phrase tokens position := by
  obtain ⟨consumed, rfl, derivation, within, reads⟩ := read
  obtain ⟨before, behind, rfl, place, ⟨more, expressions, after, afterWithin⟩, fails⟩ := blamed
  obtain ⟨trees, joined⟩ := rule derivation after
  have shape : plain (consumed ++ sign :: before) ++ more = plain consumed ++ sign.token :: (plain before ++ more) := by
    simp
  refine ⟨consumed ++ sign :: before, behind, by simp, place, ⟨more, trees, ?_, ?_⟩, fun other same => ?_⟩
  · rw [shape]
    exact joined
  · rw [shape, deepest_join derivation.depthBehind_eq neutral]
    exact Nat.max_le.2 ⟨within, afterWithin⟩
  · rw [List.append_assoc, List.cons_append]
    exact refuses (reads _ rfl) (fails other same)

/-- A comparison that goes on with another one. -/
theorem chained {left right : Expr} {second : Located} {comparator another : Comparator}
    (read : Resumes finish .primary depth tokens (sign :: next) left) (same : sign.token = .comparison comparator)
    (readBehind : Resumes finish .primary depth next (second :: rest) right)
    (chained : second.token = .comparison another) : Blamed finish depth .comparison tokens second.offset := by
  obtain ⟨consumed, rfl, derivation, within, reads⟩ := read
  obtain ⟨after, rfl, afterDerivation, afterWithin, readsBehind⟩ := readBehind
  have shape : plain (consumed ++ sign :: after) ++ [] = plain consumed ++ .comparison comparator :: plain after := by
    simp [same]
  refine ⟨consumed ++ sign :: after, second :: rest, by simp, rfl,
    ⟨[], [.compare comparator left right], ?_, ?_⟩, fun other first => ?_⟩
  · rw [shape]
    exact .compare comparator derivation afterDerivation
  · rw [shape, deepest_join derivation.depthBehind_eq fun _ => rfl]
    exact Nat.max_le.2 ⟨within, afterWithin⟩
  · obtain ⟨tail, rfl⟩ := List.head?_eq_some_iff.1 first
    obtain ⟨_, one, read⟩ := reads (sign :: (after ++ second :: tail)) rfl
    obtain ⟨_, oneBehind, readBehind⟩ := readsBehind (second :: tail) rfl
    cases one
    cases oneBehind
    rw [List.append_assoc, List.cons_append]
    exact fails_parseComparison_chained read same readBehind chained

/-- Parentheses around tokens that are no expression. -/
theorem inside (opens : first.token = .openParenthesis) (blamed : Blamed finish (depth + 1) .any tokens position) :
    Blamed finish depth .primary (first :: tokens) position := by
  obtain ⟨before, behind, rfl, place, ⟨more, expressions, derivation, within⟩, fails⟩ := blamed
  obtain ⟨expression, rfl⟩ := derivation.exists_tree (by decide) (by decide)
  have shape : plain (first :: before) ++ (more ++ [.closeParenthesis]) =
      .openParenthesis :: (plain before ++ more) ++ [.closeParenthesis] := by
    simp [opens]
  refine ⟨first :: before, behind, rfl, place, ⟨more ++ [.closeParenthesis], [expression], ?_, ?_⟩,
    fun other same => fails_parsePrimary_inside opens (fails other same)⟩
  · rw [shape]
    exact .parentheses derivation
  · rw [shape, deepest_parentheses derivation]
    exact within

/-- Parentheses around an expression that are not closed where it ends. -/
theorem unclosed (opens : first.token = .openParenthesis)
    (read : Resumes finish .any (depth + 1) tokens rest operand)
    (refuses : ∀ other, other.head? = rest.head? → Fails (expectClosing finish other)) :
    Blamed finish depth .primary (first :: tokens) (startOf finish rest) := by
  obtain ⟨consumed, rfl, derivation, within, reads⟩ := read
  have shape : plain (first :: consumed) ++ [.closeParenthesis] =
      .openParenthesis :: plain consumed ++ [.closeParenthesis] := by
    simp [opens]
  refine ⟨first :: consumed, rest, rfl, rfl, ⟨[.closeParenthesis], [operand], ?_, ?_⟩, fun other same => ?_⟩
  · rw [shape]
    exact .parentheses derivation
  · rw [shape, deepest_parentheses derivation]
    exact within
  · obtain ⟨_, one, read⟩ := reads other same
    cases one
    exact fails_parsePrimary_unclosed opens read (refuses other same)

end Blamed

section

variable {tokens left right : List Token} {expressions : List Expr} {first : Expr}

theorem Derives.exists_comparison (derivation : Derives .primary tokens expressions) :
    ∃ trees, Derives .comparison tokens trees := by
  obtain ⟨expression, rfl⟩ := derivation.exists_tree (by decide) (by decide)
  exact ⟨_, .single derivation⟩

theorem Derives.exists_compare (comparator : Comparator) (derivation : Derives .primary left [first])
    (behind : Derives .primary right expressions) :
    ∃ trees, Derives .comparison (left ++ .comparison comparator :: right) trees := by
  obtain ⟨second, rfl⟩ := behind.exists_tree (by decide) (by decide)
  exact ⟨_, .compare comparator derivation behind⟩

theorem Derives.exists_all (derivation : Derives .comparison tokens expressions) :
    ∃ trees, Derives .all tokens trees := by
  obtain ⟨expression, rfl⟩ := derivation.exists_tree (by decide) (by decide)
  exact ⟨_, .all (.lastConjunct derivation) (.single _)⟩

theorem Derives.exists_conjunct (derivation : Derives .comparison left [first])
    (behind : Derives .all right expressions) : ∃ trees, Derives .all (left ++ .and :: right) trees := by
  cases behind with
  | all conjuncts _ => exact ⟨_, .all (.conjunct derivation conjuncts) (chained_iff.2 rfl)⟩

theorem Derives.exists_any (derivation : Derives .all tokens expressions) : ∃ trees, Derives .any tokens trees := by
  obtain ⟨expression, rfl⟩ := derivation.exists_tree (by decide) (by decide)
  exact ⟨_, .any (.lastAlternative derivation) (.single _)⟩

theorem Derives.exists_alternative (derivation : Derives .all left [first]) (behind : Derives .any right expressions) :
    ∃ trees, Derives .any (left ++ .or :: right) trees := by
  cases behind with
  | any alternatives _ => exact ⟨_, .any (.alternative derivation alternatives) (chained_iff.2 rfl)⟩

end

theorem fails_expectClosing {finish : Nat} {next other : List Located} {error : SyntaxError}
    (failed : expectClosing finish next = .error error) (same : other.head? = next.head?) :
    Fails (expectClosing finish other) := by
  cases other with
  | nil => exact ⟨_, rfl⟩
  | cons first rest =>
    obtain ⟨tail, rfl⟩ := List.head?_eq_some_iff.1 same.symm
    rw [expectClosing] at failed ⊢
    split at failed
    next => cases failed
    next other => exact ⟨_, if_neg other⟩

theorem position_of_expectClosing {finish : Nat} {next : List Located} {error : SyntaxError}
    (failed : expectClosing finish next = .error error) : error.position = startOf finish next := by
  cases next with
  | nil =>
    cases failed
    rfl
  | cons first rest =>
    rw [expectClosing] at failed
    split at failed
    next => cases failed
    next =>
      cases failed
      rfl

theorem exists_of_refuseComparison {tokens : List Located} {error : SyntaxError}
    (refused : refuseComparison tokens = .error error) :
    ∃ first rest comparator, tokens = first :: rest ∧ first.token = .comparison comparator ∧
      error.position = first.offset := by
  cases tokens with
  | nil => cases refused
  | cons first rest =>
    rw [refuseComparison] at refused
    split at refused
    next comparator sign =>
      cases refused
      exact ⟨first, rest, comparator, rfl, sign, rfl⟩
    next => cases refused

-- The induction is the recursion of the parser. An error of a part is one of the whole: what was read before the part
-- is read again in front of any other rest, because a sign stands between them, and where the part can go on the whole
-- can. Only three errors are not handed on: an operand that cannot start, a chained comparison, a missing parenthesis.
mutual

theorem blamed_of_parseAny {finish depth : Nat} {tokens : List Located} {error : SyntaxError}
    (within : depth ≤ nestingLimit) (failed : parseAny finish depth tokens = .error error) :
    Blamed finish depth .any tokens error.position := by
  unfold parseAny at failed
  split at failed
  next firstFailed =>
    cases failed
    exact (blamed_of_parseAll within firstFailed).promote Derives.exists_any fails_parseAny
  next first next nextShorter firstParsed =>
    have firstRead : Resumes finish .all depth tokens next first := resumes_of_parseAll within firstParsed
    split at failed
    next othersFailed =>
      cases failed
      obtain ⟨⟨behind, behindShorter⟩, found, behindFailed⟩ := parseAlternatives_eq_error_iff.1 othersFailed
      obtain ⟨sign, whole, same⟩ := eq_cons_of_behind? found
      rw [whole] at firstRead
      refine (blamed_of_parseAny within behindFailed).behind firstRead (fun _ => by rw [same]; rfl) ?_ ?_
      · rw [same]
        exact Derives.exists_alternative
      · rintro tokens other ⟨_, one, read⟩ failed
        exact fails_parseAny_behind read same failed
    next => cases failed
termination_by 4 * tokens.length + 3

theorem blamed_of_parseAll {finish depth : Nat} {tokens : List Located} {error : SyntaxError}
    (within : depth ≤ nestingLimit) (failed : parseAll finish depth tokens = .error error) :
    Blamed finish depth .all tokens error.position := by
  unfold parseAll at failed
  split at failed
  next firstFailed =>
    cases failed
    exact (blamed_of_parseComparison within firstFailed).promote Derives.exists_all fails_parseAll
  next first next nextShorter firstParsed =>
    have firstRead : Resumes finish .comparison depth tokens next first := resumes_of_parseComparison within firstParsed
    split at failed
    next othersFailed =>
      cases failed
      obtain ⟨⟨behind, behindShorter⟩, found, behindFailed⟩ := parseConjuncts_eq_error_iff.1 othersFailed
      obtain ⟨sign, whole, same⟩ := eq_cons_of_behind? found
      rw [whole] at firstRead
      refine (blamed_of_parseAll within behindFailed).behind firstRead (fun _ => by rw [same]; rfl) ?_ ?_
      · rw [same]
        exact Derives.exists_conjunct
      · rintro tokens other ⟨_, one, read⟩ failed
        exact fails_parseAll_behind read same failed
    next => cases failed
termination_by 4 * tokens.length + 2

theorem blamed_of_parseComparison {finish depth : Nat} {tokens : List Located} {error : SyntaxError}
    (within : depth ≤ nestingLimit) (failed : parseComparison finish depth tokens = .error error) :
    Blamed finish depth .comparison tokens error.position := by
  unfold parseComparison at failed
  split at failed
  next leftFailed =>
    cases failed
    exact (blamed_of_parsePrimary within leftFailed).promote Derives.exists_comparison fails_parseComparison
  next left next nextShorter leftParsed =>
    have leftRead : Resumes finish .primary depth tokens next left := resumes_of_parsePrimary within leftParsed
    split at failed
    next => cases failed
    next comparator rightTokens rightShorter found =>
      obtain ⟨sign, whole, same⟩ := eq_cons_of_leadingComparator? found
      rw [whole] at leftRead
      split at failed
      next rightFailed =>
        cases failed
        refine (blamed_of_parsePrimary within rightFailed).behind leftRead (fun _ => by rw [same]; rfl) ?_ ?_
        · rw [same]
          exact Derives.exists_compare comparator
        · rintro tokens other ⟨_, one, read⟩ failed
          exact fails_parseComparison_behind read same failed
      next right rest restShorter rightParsed =>
        have rightRead : Resumes finish .primary depth rightTokens rest right :=
          resumes_of_parsePrimary within rightParsed
        split at failed
        next refused =>
          cases failed
          obtain ⟨second, tail, another, restWhole, chained, position⟩ := exists_of_refuseComparison refused
          rw [restWhole] at rightRead
          rw [position]
          exact .chained leftRead same rightRead chained
        next => cases failed
termination_by 4 * tokens.length + 1

theorem blamed_of_parsePrimary {finish depth : Nat} {tokens : List Located} {error : SyntaxError}
    (within : depth ≤ nestingLimit) (failed : parsePrimary finish depth tokens = .error error) :
    Blamed finish depth .primary tokens error.position := by
  cases tokens with
  | nil =>
    unfold parsePrimary at failed
    cases failed
    refine .here within fun other same => ?_
    rw [List.head?_eq_none_iff.1 same, parsePrimary]
    exact ⟨_, rfl⟩
  | cons first behind =>
    unfold parsePrimary at failed
    split at failed
    next => cases failed
    next notOperand =>
      split at failed
      next opens =>
        split at failed
        next deep =>
          cases failed
          refine .here within fun other same => ?_
          obtain ⟨tail, rfl⟩ := List.head?_eq_some_iff.1 same
          rw [parsePrimary]
          simp only [opens, ↓reduceIte, deep]
          exact ⟨_, rfl⟩
        next shallow =>
          have deeper : depth + 1 ≤ nestingLimit := Nat.lt_of_not_le shallow
          split at failed
          next innerFailed =>
            cases failed
            exact .inside opens (blamed_of_parseAny deeper innerFailed)
          next inner next nextShorter innerParsed =>
            split at failed
            next unclosed =>
              cases failed
              rw [position_of_expectClosing unclosed]
              exact .unclosed opens (resumes_of_parseAny deeper innerParsed) fun other same =>
                fails_expectClosing unclosed same
            next => cases failed
      next notOpening =>
        cases failed
        refine .here within fun other same => ?_
        obtain ⟨tail, rfl⟩ := List.head?_eq_some_iff.1 same
        rw [parsePrimary]
        simp only [notOperand, notOpening, ↓reduceIte]
        exact ⟨_, rfl⟩
termination_by 4 * tokens.length

end

theorem fails_parseTokens {finish : Nat} {tokens : List Located} (failed : Fails (parseAny finish 0 tokens)) :
    Fails (parseTokens finish tokens) := by
  obtain ⟨error, failed⟩ := failed
  rw [parseTokens, failed]
  exact .ite ⟨_, rfl⟩ ⟨_, rfl⟩

theorem fails_parseTokens_unfinished {finish : Nat} {tokens rest : List Located} {first : Located} {root : Expr}
    (read : Yields (parseAny finish 0 tokens) root (first :: rest)) : Fails (parseTokens finish tokens) := by
  obtain ⟨shorter, read⟩ := read
  rw [parseTokens, read]
  exact .ite ⟨_, rfl⟩ ⟨_, rfl⟩

/-- Tokens that do not parse are blamed at the first of them with which they cannot be the start of a valid expression,
or at the end of the source. -/
theorem blamed_of_parseTokens {finish : Nat} {tokens : List Located} {error : SyntaxError} (nonempty : tokens ≠ [])
    (failed : parseTokens finish tokens = .error error) :
    ∃ before behind, before ++ behind = tokens ∧ error.position = startOf finish behind ∧ Viable (plain before) ∧
      ∀ other, other.head? = behind.head? → Fails (parseTokens finish (before ++ other)) := by
  rw [parseTokens, if_neg (by simpa using nonempty)] at failed
  split at failed
  next anyFailed =>
    cases failed
    obtain ⟨before, behind, whole, position, ⟨more, expressions, derivation, within⟩, refuses⟩ :=
      blamed_of_parseAny (Nat.zero_le _) anyFailed
    obtain ⟨expression, rfl⟩ := derivation.exists_tree (by decide) (by decide)
    exact ⟨before, behind, whole, position, ⟨more, expression, derivation, within⟩, fun other same =>
      fails_parseTokens (refuses other same)⟩
  next root rest restShorter parsed =>
    obtain ⟨consumed, whole, derivation, within, reads⟩ := resumes_of_parseAny (Nat.zero_le _) parsed
    split at failed
    next unfinished =>
      cases failed
      cases rest with
      | nil => cases unfinished
      | cons first tail =>
        cases unfinished
        refine ⟨consumed, first :: tail, whole, rfl, ⟨[], root, ?_, ?_⟩, fun other same => ?_⟩
        · rw [List.append_nil]
          exact derivation
        · rw [List.append_nil]
          exact within
        · obtain ⟨more, rfl⟩ := List.head?_eq_some_iff.1 same
          obtain ⟨_, one, read⟩ := reads (first :: more) rfl
          exact fails_parseTokens_unfinished read
    next => cases failed

/-- The blamed token is the first with which nothing can be saved. -/
theorem not_viable_of_fails {finish : Nat} {before : List Located} {wrong : Located}
    (fails : ∀ other, Fails (parseTokens finish (before ++ wrong :: other))) :
    ¬Viable (plain (before ++ [wrong])) := by
  rintro ⟨more, expression, writes, within⟩
  obtain ⟨error, failed⟩ := fails (more.map (⟨·, 0⟩))
  have shape : plain (before ++ wrong :: more.map (⟨·, 0⟩)) = plain (before ++ [wrong]) ++ more := by
    simp [plain, Function.comp_def]
  rw [← shape] at writes within
  cases failed.symm.trans (parseTokens_eq_ok_iff.2 ⟨writes, within⟩)

end Verdict.Expression

import Mathlib
import Verdict.Proofs.Expression.Offsets
import Verdict.Proofs.Expression.Refusal
/-!
Where a source that does not parse is blamed: at the first token with which it cannot be the start of a valid
expression, or at its end if every token of it can stand. A source without tokens to judge is blamed between two of its
characters.
-/

namespace Verdict.Expression

section Position

variable {finish : Nat} {before behind : List Located} {wrong : Located}

/-- The tokens before the one at which the others start. -/
theorem filter_lt_startOf (ascending : (before ++ behind).Pairwise (·.offset < ·.offset))
    (within : ∀ token ∈ before ++ behind, token.offset < finish) :
    (before ++ behind).filter (·.offset < startOf finish behind) = before := by
  obtain ⟨-, later, apart⟩ := List.pairwise_append.1 ascending
  have kept : ∀ token ∈ before, token.offset < startOf finish behind := by
    intro token present
    cases behind with
    | nil => exact within token (List.mem_append_left [] present)
    | cons first rest => exact apart token present first List.mem_cons_self
  have dropped : ∀ token ∈ behind, ¬token.offset < startOf finish behind := by
    intro token present
    cases behind with
    | nil => cases present
    | cons first rest =>
      obtain rfl | present := List.mem_cons.1 present
      · exact Nat.lt_irrefl _
      · exact Nat.lt_asymm (List.rel_of_pairwise_cons later present)
  rw [List.filter_append, List.filter_eq_self.2 (by simpa using kept), List.filter_eq_nil_iff.2 (by simpa using dropped),
    List.append_nil]

/-- The tokens up to and including one of them. -/
theorem filter_le_offset (ascending : (before ++ wrong :: behind).Pairwise (·.offset < ·.offset)) :
    (before ++ wrong :: behind).filter (·.offset ≤ wrong.offset) = before ++ [wrong] := by
  obtain ⟨-, later, apart⟩ := List.pairwise_append.1 ascending
  have kept : ∀ token ∈ before, token.offset ≤ wrong.offset := fun token present =>
    Nat.le_of_lt (apart token present wrong List.mem_cons_self)
  have dropped : ∀ token ∈ behind, ¬token.offset ≤ wrong.offset := fun token present =>
    Nat.not_le.2 (List.rel_of_pairwise_cons later present)
  rw [List.filter_append, List.filter_eq_self.2 (by simpa using kept), List.filter_cons_of_pos (by simp),
    List.filter_eq_nil_iff.2 (by simpa using dropped)]

end Position

/-- A position at which the tokens of a source are refused is exact: it is the end of the source or the offset of a
token, a valid expression starts with the tokens before it, and none starts with these and the token there. -/
structure ExactPosition (source : String) (tokens : List Located) (position : Nat) : Prop where
  place : position = source.utf8ByteSize ∨ ∃ token ∈ tokens, position = token.offset
  viable : Viable (plain (tokens.filter (·.offset < position)))
  notViable : (∃ token ∈ tokens, position = token.offset) → ¬Viable (plain (tokens.filter (·.offset ≤ position)))

theorem exactPosition_of_parseTokens {source : String} {tokens : List Located} {error : SyntaxError}
    (cut : tokenize source = .ok tokens) (nonempty : tokens ≠ [])
    (failed : parseTokens source.utf8ByteSize tokens = .error error) : ExactPosition source tokens error.position := by
  have laid := laid_of_tokenize cut
  have within : ∀ token ∈ tokens, token.offset < source.utf8ByteSize := fun token present => by
    rw [← byteLength_toList, ← Nat.zero_add (Text.byteLength _)]
    exact laid.ended token present
  obtain ⟨before, behind, rfl, position, viable, fails⟩ := blamed_of_parseTokens nonempty failed
  rw [← filter_lt_startOf laid.ascending within, ← position] at viable
  cases behind with
  | nil =>
    refine ⟨.inl position, viable, ?_⟩
    rintro ⟨token, present, same⟩
    have ended := within token present
    exact absurd (same.symm.trans position) (Nat.ne_of_lt ended)
  | cons wrong rest =>
    refine ⟨.inr ⟨wrong, by simp, position⟩, viable, fun _ => ?_⟩
    rw [position]
    change ¬Viable (plain (List.filter (·.offset ≤ wrong.offset) _))
    rw [filter_le_offset laid.ascending]
    exact not_viable_of_fails fun other => fails (wrong :: other) rfl

/-- Where a source is blamed that does not parse. If it can be cut into tokens, at least one, the position is exact. If
it cannot, the position is a character boundary of the source. -/
theorem refused_source_blamed_exactly {source : String} {error : SyntaxError} (refused : parse source = .error error) :
    (∀ tokens, tokenize source = .ok tokens → tokens ≠ [] → ExactPosition source tokens error.position) ∧
      ((∀ tokens, tokenize source ≠ .ok tokens) →
        (⟨error.position⟩ : String.Pos.Raw).IsValid source ∧ error.position ≤ source.utf8ByteSize) := by
  rw [parse] at refused
  constructor
  · intro tokens cut nonempty
    rw [cut] at refused
    exact exactPosition_of_parseTokens cut nonempty refused
  · intro uncut
    cases cut : tokenize source with
    | ok tokens => exact absurd cut (uncut tokens)
    | error failed =>
      rw [cut] at refused
      cases refused
      have boundary := isValid_of_tokenize cut
      exact ⟨boundary, boundary.le_utf8ByteSize⟩

/-- A second comparison inside parentheses, behind a letter of two bytes, and a string that ends at a backslash. -/
theorem stray_comparison_and_string_blamed :
    parse "'ö' < (b < c < d)" = .error ⟨14, .chainedComparison⟩ ∧
      (∃ tokens, tokenize "'ö' < (b < c < d)" = .ok tokens ∧ tokens.length = 9 ∧
        ExactPosition "'ö' < (b < c < d)" tokens 14) ∧
      parse "a == 'ö\\" = .error ⟨9, .unclosedString⟩ ∧
      (⟨9⟩ : String.Pos.Raw).IsValid "a == 'ö\\" := by
  have cut : tokenize "'ö' < (b < c < d)" = .ok [⟨.string "ö", 0⟩, ⟨.comparison .less, 5⟩, ⟨.openParenthesis, 7⟩,
      ⟨.identifier "b", 8⟩, ⟨.comparison .less, 10⟩, ⟨.identifier "c", 12⟩, ⟨.comparison .less, 14⟩,
      ⟨.identifier "d", 16⟩, ⟨.closeParenthesis, 17⟩] := by cbv
  have chained : parse "'ö' < (b < c < d)" = .error ⟨14, .chainedComparison⟩ := by
    rw [parse, cut]
    cbv
  have uncut : tokenize "a == 'ö\\" = .error ⟨9, .unclosedString⟩ := by cbv
  have unclosed : parse "a == 'ö\\" = .error ⟨9, .unclosedString⟩ := by rw [parse, uncut]
  refine ⟨chained, ⟨_, cut, rfl, (refused_source_blamed_exactly chained).1 _ cut (List.cons_ne_nil _ _)⟩, unclosed, ?_⟩
  refine ((refused_source_blamed_exactly unclosed).2 fun tokens same => ?_).1
  cases uncut.symm.trans same

end Verdict.Expression

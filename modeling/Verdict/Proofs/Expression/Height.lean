import Mathlib
import Verdict.Expression.Levels
import Verdict.Proofs.Expression.Completeness
/-!
How high the trees of parsed sources are. A derivation adds a level for each kind of phrase and not for each operand of
a chain, so a tree grows in height only with the nesting of parentheses, and its evaluation needs no more levels of
calls than the tree has.
-/

namespace Verdict

namespace Expr

variable {scope : Scope}

mutual

/-- As many levels as the height of a tree are enough for its value. -/
theorem valueWithin_of_height_le {levels : Nat} : (expression : Expr) → expression.height ≤ levels →
    expression.valueWithin scope levels = some (expression.value scope)
  | .literal value, enough => by
    obtain ⟨levels, rfl⟩ := Nat.exists_eq_add_of_le' enough
    rfl
  | .identifier name, enough => by
    obtain ⟨levels, rfl⟩ := Nat.exists_eq_add_of_le' enough
    rfl
  | .compare comparator left right, enough => by
    rw [height] at enough
    cases levels with
    | zero => omega
    | succ levels =>
      have leftSame : left.valueWithin scope levels = some (left.value scope) :=
        valueWithin_of_height_le left (by omega)
      have rightSame : right.valueWithin scope levels = some (right.value scope) :=
        valueWithin_of_height_le right (by omega)
      rw [valueWithin, leftSame, rightSame, value]
      rfl
  | .all operands, enough => by
    rw [height] at enough
    cases levels with
    | zero => omega
    | succ levels =>
      rw [valueWithin, allHoldWithin_of_height_le operands (by omega), value]
      rfl
  | .any operands, enough => by
    rw [height] at enough
    cases levels with
    | zero => omega
    | succ levels =>
      rw [valueWithin, anyHoldsWithin_of_height_le operands (by omega), value]
      rfl

theorem allHoldWithin_of_height_le {levels : Nat} : (operands : List Expr) → greatestHeight operands ≤ levels →
    allHoldWithin scope levels operands = some (allHold scope operands)
  | [], _ => rfl
  | operand :: rest, enough => by
    rw [greatestHeight, Nat.max_le] at enough
    rw [allHoldWithin, valueWithin_of_height_le operand enough.1, allHoldWithin_of_height_le rest enough.2, allHold,
      Option.bind_eq_bind, Option.bind_some]
    cases isTruthy (operand.value scope) <;> rfl

theorem anyHoldsWithin_of_height_le {levels : Nat} : (operands : List Expr) → greatestHeight operands ≤ levels →
    anyHoldsWithin scope levels operands = some (anyHolds scope operands)
  | [], _ => rfl
  | operand :: rest, enough => by
    rw [greatestHeight, Nat.max_le] at enough
    rw [anyHoldsWithin, valueWithin_of_height_le operand enough.1, anyHoldsWithin_of_height_le rest enough.2, anyHolds,
      Option.bind_eq_bind, Option.bind_some]
    cases isTruthy (operand.value scope) <;> rfl

end

theorem holdsWithin_of_height_le {expression : Expr} {levels : Nat} (enough : expression.height ≤ levels)
    (record : Record) (now : Time.Instant) :
    holdsWithin levels expression record now = some (expression.holds record now) := by
  rw [holdsWithin, valueWithin_of_height_le expression enough, holds]
  rfl

end Expr

namespace Expression

/-- The levels that a phrase without parentheses has at most. -/
def Phrase.levels : Phrase → Nat
  | .primary => 1
  | .comparison | .conjuncts => 2
  | .all | .alternatives => 3
  | .any => 4

theorem Operand.height_eq {token : Token} {expression : Expr} (operand : Operand token expression) :
    expression.height = 1 := by
  cases operand <;> rfl

/-- A chain is one level higher than its operands, and a single operand makes no chain. -/
theorem Chained.height_le {node : List Expr → Expr} {operands : List Expr} {expression : Expr}
    (chained : Chained node operands expression)
    (higher : ∀ operands, (node operands).height = 1 + Expr.greatestHeight operands) :
    expression.height ≤ 1 + Expr.greatestHeight operands := by
  cases chained with
  | single =>
    simp only [Expr.greatestHeight]
    omega
  | several => exact Nat.le_of_eq (higher _)

/-- The nesting of two phrases with a sign between them. -/
theorem Derives.nesting_join {phrase : Phrase} {left right : List Token} {expressions : List Expr} {sign : Token}
    (first : Derives phrase left expressions) (neutral : ∀ depth, sign.depthAfter depth = depth) :
    nesting (left ++ sign :: right) = max (nesting left) (nesting right) :=
  deepest_join first.depthBehind_eq neutral 0

/-- Each parenthesis that is open adds the levels of a whole expression, and nothing else adds to those of the phrase:
not the number of operands. -/
theorem Derives.greatestHeight_le {phrase : Phrase} {tokens : List Token} {expressions : List Expr}
    (derivation : Derives phrase tokens expressions) :
    Expr.greatestHeight expressions ≤ 3 * nesting tokens + phrase.levels := by
  induction derivation with
  | operand operand =>
    simp only [Expr.greatestHeight, operand.height_eq, Phrase.levels]
    omega
  | @parentheses tokens expression inner ih =>
    have deeper : nesting (Token.openParenthesis :: tokens ++ [Token.closeParenthesis]) = 1 + nesting tokens := by
      calc
        nesting (Token.openParenthesis :: tokens ++ [Token.closeParenthesis]) = deepest (0 + 1) tokens :=
          deepest_parentheses inner 0
        _ = 1 + nesting tokens := inner.deepest_eq 1
    rw [deeper]
    simp only [Phrase.levels] at ih ⊢
    omega
  | single _ ih =>
    simp only [Phrase.levels] at ih ⊢
    omega
  | compare comparator first _ leftIh rightIh =>
    rw [first.nesting_join fun _ => rfl]
    simp only [Expr.greatestHeight, Expr.height, Phrase.levels] at leftIh rightIh ⊢
    omega
  | lastConjunct _ ih => exact ih
  | conjunct first _ leftIh rightIh =>
    rw [first.nesting_join fun _ => rfl]
    simp only [Expr.greatestHeight, Phrase.levels] at leftIh rightIh ⊢
    omega
  | all _ chained ih =>
    have higher := chained.height_le fun _ => by rw [Expr.height]
    simp only [Expr.greatestHeight, Phrase.levels] at ih higher ⊢
    omega
  | lastAlternative _ ih => exact ih
  | alternative first _ leftIh rightIh =>
    rw [first.nesting_join fun _ => rfl]
    simp only [Expr.greatestHeight, Phrase.levels] at leftIh rightIh ⊢
    omega
  | any _ chained ih =>
    have higher := chained.height_le fun _ => by rw [Expr.height]
    simp only [Expr.greatestHeight, Phrase.levels] at ih higher ⊢
    omega

/-- A source of any length that parses has a tree whose height is bounded by its nesting of parentheses, which is at
most 64. Calls within so many levels give its value at every record and time, whatever the lengths of its chains. -/
theorem parsed_tree_stays_shallow {source : String} {program : Expr} (parsed : parse source = .ok program) :
    sourceNesting source ≤ 64 ∧ program.height ≤ 3 * (sourceNesting source + 1) + 1 ∧ program.height ≤ 196 ∧
      ∀ levels, 3 * (sourceNesting source + 1) + 1 ≤ levels → ∀ record now,
        program.holdsWithin levels record now = some (program.holds record now) := by
  obtain ⟨tokens, cut, writes, within⟩ := parse_eq_ok_iff.1 parsed
  have same : sourceNesting source = nesting (plain tokens) := by rw [sourceNesting, cut]
  have limited : nesting (plain tokens) ≤ 64 := within
  have bound := writes.greatestHeight_le
  simp only [Expr.greatestHeight, Phrase.levels] at bound
  rw [same]
  refine ⟨limited, by omega, by omega, fun levels enough record now => ?_⟩
  exact Expr.holdsWithin_of_height_le (by omega) record now

/-- Chains within chains, as high as one pair of parentheses allows. -/
theorem nested_chains_stay_shallow :
    ∃ program, parse "a || b && c == (d || e && f == 'x')" = .ok program ∧
      sourceNesting "a || b && c == (d || e && f == 'x')" = 1 ∧ program.height = 7 ∧
        ∀ levels, 7 ≤ levels → ∀ record now,
          program.holdsWithin levels record now = some (program.holds record now) := by
  have parsed : parse "a || b && c == (d || e && f == 'x')" = .ok (.any [.identifier "a", .all [.identifier "b",
      .compare .equal (.identifier "c") (.any [.identifier "d", .all [.identifier "e",
        .compare .equal (.identifier "f") (.literal (.string "x"))]])]]) := by cbv
  have nested : sourceNesting "a || b && c == (d || e && f == 'x')" = 1 := by cbv
  obtain ⟨-, -, -, enough⟩ := parsed_tree_stays_shallow parsed
  rw [nested] at enough
  exact ⟨_, parsed, nested, by decide, enough⟩

end Expression

end Verdict

import Verdict.Expression.Grammar
/-!
Parentheses in derived tokens. A phrase closes what it opens, so the nesting of a sequence of phrases is the
greatest nesting of one of them, and parentheses around a phrase add one to its nesting.
-/

namespace Verdict.Expression

/-- The number of open parentheses behind a list of tokens. -/
def depthBehind (depth : Nat) (tokens : List Token) : Nat :=
  tokens.foldl Token.depthAfter depth

theorem le_deepest (depth : Nat) (tokens : List Token) : depth ≤ deepest depth tokens := by
  cases tokens with
  | nil => exact Nat.le_refl depth
  | cons token rest => exact Nat.le_max_left ..

theorem deepest_append (depth : Nat) (left right : List Token) :
    deepest depth (left ++ right) = max (deepest depth left) (deepest (depthBehind depth left) right) := by
  induction left generalizing depth with
  | nil => exact (Nat.max_eq_right (le_deepest depth right)).symm
  | cons token rest ih =>
    rw [List.cons_append, deepest, ih, deepest, Nat.max_assoc]
    rfl

/-- Between two phrases stands a token that is no parenthesis. -/
theorem depthBehind_join {left right : List Token} {sign : Token}
    (leftBalanced : ∀ depth, depthBehind depth left = depth)
    (rightBalanced : ∀ depth, depthBehind depth right = depth)
    (neutral : ∀ depth, sign.depthAfter depth = depth) (depth : Nat) :
    depthBehind depth (left ++ sign :: right) = depth := by
  unfold depthBehind at leftBalanced rightBalanced ⊢
  rw [List.foldl_append, leftBalanced, List.foldl_cons, neutral, rightBalanced]

theorem deepest_join {left right : List Token} {sign : Token}
    (leftBalanced : ∀ depth, depthBehind depth left = depth)
    (neutral : ∀ depth, sign.depthAfter depth = depth) (depth : Nat) :
    deepest depth (left ++ sign :: right) = max (deepest depth left) (deepest depth right) := by
  rw [deepest_append, leftBalanced, deepest, neutral, Nat.max_eq_right (le_deepest depth right)]

theorem deepest_join_eq {left right : List Token} {sign : Token}
    (leftBalanced : ∀ depth, depthBehind depth left = depth)
    (neutral : ∀ depth, sign.depthAfter depth = depth)
    (leftMore : ∀ depth, deepest depth left = depth + deepest 0 left)
    (rightMore : ∀ depth, deepest depth right = depth + deepest 0 right) (depth : Nat) :
    deepest depth (left ++ sign :: right) = depth + deepest 0 (left ++ sign :: right) := by
  rw [deepest_join leftBalanced neutral, deepest_join leftBalanced neutral, leftMore, rightMore,
    Nat.add_max_add_left]

theorem Operand.depthAfter {token : Token} {expression : Expr} (operand : Operand token expression)
    (depth : Nat) : token.depthAfter depth = depth := by
  cases operand <;> rfl

namespace Derives

variable {phrase : Phrase} {tokens : List Token} {expressions : List Expr}

/-- A phrase closes every parenthesis that it opens. -/
theorem depthBehind_eq (derivation : Derives phrase tokens expressions) (depth : Nat) :
    depthBehind depth tokens = depth := by
  induction derivation generalizing depth with
  | operand operand => exact operand.depthAfter depth
  | parentheses _ inner =>
    unfold depthBehind at inner ⊢
    rw [List.cons_append, List.foldl_cons, List.foldl_append, inner]
    rfl
  | single _ ih => exact ih depth
  | compare _ _ _ left right => exact depthBehind_join left right (fun _ => rfl) depth
  | lastConjunct _ ih => exact ih depth
  | conjunct _ _ left right => exact depthBehind_join left right (fun _ => rfl) depth
  | all _ _ ih => exact ih depth
  | lastAlternative _ ih => exact ih depth
  | alternative _ _ left right => exact depthBehind_join left right (fun _ => rfl) depth
  | any _ _ ih => exact ih depth

/-- Parentheses before a phrase add to its depth. -/
theorem deepest_eq (derivation : Derives phrase tokens expressions) (depth : Nat) :
    deepest depth tokens = depth + nesting tokens := by
  unfold nesting
  induction derivation generalizing depth with
  | operand operand => simp [deepest, operand.depthAfter]
  | parentheses derivation inner =>
    have one := inner (0 + 1)
    have more := inner (depth + 1)
    simp only [List.cons_append, deepest, Token.depthAfter, deepest_append, derivation.depthBehind_eq]
    omega
  | single _ ih => exact ih depth
  | compare _ first _ left right => exact deepest_join_eq first.depthBehind_eq (fun _ => rfl) left right depth
  | lastConjunct _ ih => exact ih depth
  | conjunct first _ left right => exact deepest_join_eq first.depthBehind_eq (fun _ => rfl) left right depth
  | all _ _ ih => exact ih depth
  | lastAlternative _ ih => exact ih depth
  | alternative first _ left right => exact deepest_join_eq first.depthBehind_eq (fun _ => rfl) left right depth
  | any _ _ ih => exact ih depth

/-- What stands behind a phrase is at the depth at which the phrase began. -/
theorem deepest_append_eq (derivation : Derives phrase tokens expressions) (depth : Nat)
    (behind : List Token) :
    deepest depth (tokens ++ behind) = max (deepest depth tokens) (deepest depth behind) := by
  rw [deepest_append, derivation.depthBehind_eq]

end Derives

/-- Parentheses around a phrase are one parenthesis more. -/
theorem deepest_parentheses {tokens : List Token} {expressions : List Expr}
    (derivation : Derives .any tokens expressions) (depth : Nat) :
    deepest depth (.openParenthesis :: tokens ++ [.closeParenthesis]) = deepest (depth + 1) tokens := by
  have least := le_deepest (depth + 1) tokens
  simp only [List.cons_append, deepest, Token.depthAfter, derivation.deepest_append_eq]
  omega

end Verdict.Expression

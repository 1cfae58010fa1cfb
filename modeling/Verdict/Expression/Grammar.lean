import Verdict.Expression.Parser
/-!
The grammar of expressions as a relation between tokens and trees, without a direction of reading, and the
nesting of parentheses as a count over the tokens.
-/

namespace Verdict.Expression

open Decimal (FiniteFloat)

/-- The phrases of the grammar. Alternatives and conjuncts are the operands of one chain, of which `any`
and `all` make one expression. -/
inductive Phrase where
  | any
  | alternatives
  | all
  | conjuncts
  | comparison
  | primary
deriving DecidableEq, Repr

/-- The tokens that are operands by themselves: literals and identifiers. -/
inductive Operand : Token → Expr → Prop
  | number (value : FiniteFloat) : Operand (.number value) (.literal (.number (.float value)))
  | string (text : String) : Operand (.string text) (.literal (.string text))
  | boolean (value : Bool) : Operand (.boolean value) (.literal (.bool value))
  | null : Operand .null (.literal .null)
  | identifier (name : String) : Operand (.identifier name) (.identifier name)

/-- The tree of a chain: a single operand makes none, and more of them are listed in one node, in their order. -/
inductive Chained (node : List Expr → Expr) : List Expr → Expr → Prop
  | single (operand : Expr) : Chained node [operand] operand
  | several (first second : Expr) (others : List Expr) :
      Chained node (first :: second :: others) (node (first :: second :: others))

/-- Tokens make up a phrase with these trees: the operands of a chain in their order, and one tree for any
other phrase. -/
inductive Derives : Phrase → List Token → List Expr → Prop
  | operand {token : Token} {expression : Expr} :
      Operand token expression → Derives .primary [token] [expression]
  | parentheses {tokens : List Token} {expression : Expr} :
      Derives .any tokens [expression] →
        Derives .primary (.openParenthesis :: tokens ++ [.closeParenthesis]) [expression]
  | single {tokens : List Token} {expression : Expr} :
      Derives .primary tokens [expression] → Derives .comparison tokens [expression]
  | compare {left right : List Token} {first second : Expr} (comparator : Comparator) :
      Derives .primary left [first] → Derives .primary right [second] →
        Derives .comparison (left ++ .comparison comparator :: right) [.compare comparator first second]
  | lastConjunct {tokens : List Token} {expression : Expr} :
      Derives .comparison tokens [expression] → Derives .conjuncts tokens [expression]
  | conjunct {left right : List Token} {first : Expr} {others : List Expr} :
      Derives .comparison left [first] → Derives .conjuncts right others →
        Derives .conjuncts (left ++ .and :: right) (first :: others)
  | all {tokens : List Token} {operands : List Expr} {expression : Expr} :
      Derives .conjuncts tokens operands → Chained .all operands expression → Derives .all tokens [expression]
  | lastAlternative {tokens : List Token} {expression : Expr} :
      Derives .all tokens [expression] → Derives .alternatives tokens [expression]
  | alternative {left right : List Token} {first : Expr} {others : List Expr} :
      Derives .all left [first] → Derives .alternatives right others →
        Derives .alternatives (left ++ .or :: right) (first :: others)
  | any {tokens : List Token} {operands : List Expr} {expression : Expr} :
      Derives .alternatives tokens operands → Chained .any operands expression → Derives .any tokens [expression]

def Writes (tokens : List Token) (expression : Expr) : Prop :=
  Derives .any tokens [expression]

def Token.depthAfter (depth : Nat) : Token → Nat
  | .openParenthesis => depth + 1
  | .closeParenthesis => depth - 1
  | _ => depth

/-- The greatest number of parentheses that are open at a point of a list of tokens, when some are open
before it. -/
def deepest (depth : Nat) : List Token → Nat
  | [] => depth
  | token :: rest => max depth (deepest (token.depthAfter depth) rest)

def nesting (tokens : List Token) : Nat :=
  deepest 0 tokens

/-- Tokens with which a valid expression starts: they and some tokens behind them write one, with at most 64 open
parentheses. -/
def Viable (tokens : List Token) : Prop :=
  ∃ behind expression, Writes (tokens ++ behind) expression ∧ nesting (tokens ++ behind) ≤ 64

/-- The nesting of parentheses in a source text, which is none if the text cannot be cut into tokens. -/
def sourceNesting (source : String) : Nat :=
  match tokenize source with
  | .error _ => 0
  | .ok tokens => nesting (tokens.map Located.token)

theorem operand?_eq_some_iff {token : Token} {expression : Expr} :
    token.operand? = some expression ↔ Operand token expression := by
  constructor
  · intro found
    cases token <;> cases found <;> constructor
  · intro operand
    cases operand <;> rfl

/-- Grouping gives the one tree of a chain. -/
theorem chained_iff {node : List Expr → Expr} {first expression : Expr} {others : List Expr} :
    Chained node (first :: others) expression ↔ expression = Expr.group node first others := by
  constructor
  · intro chained
    cases chained <;> rfl
  · rintro rfl
    cases others with
    | nil => exact .single first
    | cons second rest => exact .several first second rest

/-- A phrase has at least one token. -/
theorem Derives.tokens_ne_nil {phrase : Phrase} {tokens : List Token} {expressions : List Expr}
    (derivation : Derives phrase tokens expressions) : tokens ≠ [] := by
  induction derivation with
  | operand _ => exact List.cons_ne_nil _ _
  | parentheses _ _ => exact List.cons_ne_nil _ _
  | single _ nonempty => exact nonempty
  | compare _ _ _ _ _ => simp
  | lastConjunct _ nonempty => exact nonempty
  | conjunct _ _ _ _ => simp
  | all _ _ nonempty => exact nonempty
  | lastAlternative _ nonempty => exact nonempty
  | alternative _ _ _ _ => simp
  | any _ _ nonempty => exact nonempty

end Verdict.Expression

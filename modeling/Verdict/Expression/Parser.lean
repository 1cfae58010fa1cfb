import Verdict.Expression.Lexer
import Verdict.Expression.Basic
/-!
From tokens to expression trees, by the grammar

    any        := all ("||" all)*
    all        := comparison ("&&" comparison)*
    comparison := primary (comparator primary)?
    primary    := literal | identifier | "(" any ")"

with a bound on open parentheses. Each function reads the longest start of the tokens that its rule
allows and returns a shorter rest.
-/

namespace Verdict.Expression

/-- A rest that is shorter than a list of tokens. -/
abbrev Rest (tokens : List Located) := { rest : List Located // rest.length < tokens.length }

/-- A rest that is not longer than a list of tokens. -/
abbrev Remainder (tokens : List Located) := { rest : List Located // rest.length ≤ tokens.length }

def behind? (wanted : Token) : (tokens : List Located) → Option (Rest tokens)
  | [] => none
  | first :: rest => if first.token = wanted then some ⟨rest, by simp⟩ else none

def leadingComparator? : (tokens : List Located) → Option (Comparator × Rest tokens)
  | [] => none
  | first :: rest =>
    match first.token with
    | .comparison comparator => some (comparator, ⟨rest, by simp⟩)
    | _ => none

def refuseComparison : List Located → Except SyntaxError Unit
  | [] => .ok ()
  | first :: _ =>
    match first.token with
    | .comparison _ => .error ⟨first.offset, .chainedComparison⟩
    | _ => .ok ()

def expectClosing (finish : Nat) : (tokens : List Located) → Except SyntaxError (Rest tokens)
  | [] => .error ⟨finish, .missingParenthesis⟩
  | first :: rest =>
    if first.token = .closeParenthesis then .ok ⟨rest, by simp⟩
    else .error ⟨first.offset, .expectedParenthesis first.token⟩

def expectEnd : List Located → Except SyntaxError Unit
  | [] => .ok ()
  | first :: _ => .error ⟨first.offset, .unexpectedToken first.token⟩

def Token.operand? : Token → Option Expr
  | .number value => some (.literal (.number (.float value)))
  | .string text => some (.literal (.string text))
  | .boolean value => some (.literal (.bool value))
  | .null => some (.literal .null)
  | .identifier name => some (.identifier name)
  | _ => none

mutual

/-- A chain of alternatives. `finish` is the offset of the end of the source, and `depth` the number of
open parentheses. -/
def parseAny (finish depth : Nat) (tokens : List Located) : Except SyntaxError (Expr × Rest tokens) :=
  match parseAll finish depth tokens with
  | .error error => .error error
  | .ok (first, ⟨next, nextShorter⟩) =>
    match parseAlternatives finish depth next with
    | .error error => .error error
    | .ok (others, ⟨rest, restShorter⟩) => .ok (Expr.group .any first others, ⟨rest, by omega⟩)
termination_by 4 * tokens.length + 3

/-- The further alternatives of a chain, each behind its connective. -/
def parseAlternatives (finish depth : Nat) (tokens : List Located) :
    Except SyntaxError (List Expr × Remainder tokens) :=
  match behind? .or tokens with
  | none => .ok ([], ⟨tokens, Nat.le_refl _⟩)
  | some ⟨operandTokens, operandShorter⟩ =>
    match parseAll finish depth operandTokens with
    | .error error => .error error
    | .ok (operand, ⟨next, nextShorter⟩) =>
      match parseAlternatives finish depth next with
      | .error error => .error error
      | .ok (others, ⟨rest, restShorter⟩) => .ok (operand :: others, ⟨rest, by omega⟩)
termination_by 4 * tokens.length

def parseAll (finish depth : Nat) (tokens : List Located) : Except SyntaxError (Expr × Rest tokens) :=
  match parseComparison finish depth tokens with
  | .error error => .error error
  | .ok (first, ⟨next, nextShorter⟩) =>
    match parseConjuncts finish depth next with
    | .error error => .error error
    | .ok (others, ⟨rest, restShorter⟩) => .ok (Expr.group .all first others, ⟨rest, by omega⟩)
termination_by 4 * tokens.length + 2

def parseConjuncts (finish depth : Nat) (tokens : List Located) :
    Except SyntaxError (List Expr × Remainder tokens) :=
  match behind? .and tokens with
  | none => .ok ([], ⟨tokens, Nat.le_refl _⟩)
  | some ⟨operandTokens, operandShorter⟩ =>
    match parseComparison finish depth operandTokens with
    | .error error => .error error
    | .ok (operand, ⟨next, nextShorter⟩) =>
      match parseConjuncts finish depth next with
      | .error error => .error error
      | .ok (others, ⟨rest, restShorter⟩) => .ok (operand :: others, ⟨rest, by omega⟩)
termination_by 4 * tokens.length

/-- One operand, or a comparison of two; a second comparison may not follow. -/
def parseComparison (finish depth : Nat) (tokens : List Located) :
    Except SyntaxError (Expr × Rest tokens) :=
  match parsePrimary finish depth tokens with
  | .error error => .error error
  | .ok (left, ⟨next, nextShorter⟩) =>
    match leadingComparator? next with
    | none => .ok (left, ⟨next, nextShorter⟩)
    | some (comparator, ⟨rightTokens, rightShorter⟩) =>
      match parsePrimary finish depth rightTokens with
      | .error error => .error error
      | .ok (right, ⟨rest, restShorter⟩) =>
        match refuseComparison rest with
        | .error error => .error error
        | .ok () => .ok (.compare comparator left right, ⟨rest, by omega⟩)
termination_by 4 * tokens.length + 1

def parsePrimary (finish depth : Nat) (tokens : List Located) :
    Except SyntaxError (Expr × Rest tokens) :=
  match tokens with
  | [] => .error ⟨finish, .unexpectedEnd⟩
  | first :: behind =>
    match first.token.operand? with
    | some operand => .ok (operand, ⟨behind, by simp⟩)
    | none =>
      if first.token = .openParenthesis then
        if nestingLimit ≤ depth then .error ⟨first.offset, .nestedTooDeep⟩
        else
          match parseAny finish (depth + 1) behind with
          | .error error => .error error
          | .ok (inner, ⟨next, nextShorter⟩) =>
            match expectClosing finish next with
            | .error error => .error error
            | .ok ⟨rest, restShorter⟩ =>
              .ok (inner, ⟨rest, by simp only [List.length_cons]; omega⟩)
      else .error ⟨first.offset, .unexpectedToken first.token⟩
termination_by 4 * tokens.length

end

/-- The expression that a list of tokens writes, none of which may be left over. -/
def parseTokens (finish : Nat) (tokens : List Located) : Except SyntaxError Expr :=
  if tokens.isEmpty then .error ⟨0, .empty⟩
  else
    match parseAny finish 0 tokens with
    | .error error => .error error
    | .ok (root, ⟨rest, _⟩) =>
      match expectEnd rest with
      | .error error => .error error
      | .ok () => .ok root

def parse (source : String) : Except SyntaxError Expr :=
  match tokenize source with
  | .error error => .error error
  | .ok tokens => parseTokens source.utf8ByteSize tokens

end Verdict.Expression

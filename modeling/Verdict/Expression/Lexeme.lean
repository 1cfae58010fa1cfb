import Mathlib.Data.Nat.Digits.Defs
import Verdict.Decimal.Rational
import Verdict.Expression.Token
import Verdict.Text.Blank
/-!
How tokens are written. A lexeme has a text and stands for a token; a source is written from lexemes with blanks
before, between and behind them. Nothing here is taken from how sources are cut.
-/

namespace Verdict.Expression

open Decimal (FiniteFloat)

def Comparator.symbol : Comparator → List Char
  | .greater => ['>']
  | .less => ['<']
  | .greaterEqual => ['>', '=']
  | .lessEqual => ['<', '=']
  | .equal => ['=', '=']
  | .different => ['!', '=']

/-- A lexeme: a word, a number with its sign and the digits behind its point, a string between two quotes
of one kind, or a sign. -/
inductive Lexeme where
  | word (first : Char) (others : List Char)
  | number (negative : Bool) (whole : List Char) (fraction : Option (List Char))
  | string (quote : Char) (content : List Char)
  | comparison (comparator : Comparator)
  | and
  | or
  | openParenthesis
  | closeParenthesis
deriving DecidableEq, Repr

namespace Lexeme

/-- A character between quotes: the quote and the backslash have a backslash before them. -/
def quotedCharacter (quote character : Char) : List Char :=
  if character = quote ∨ character = '\\' then ['\\', character] else [character]

def text : Lexeme → List Char
  | word first others => first :: others
  | number negative whole fraction =>
    (if negative then ['-'] else []) ++ whole ++ fraction.elim [] ('.' :: ·)
  | string quote content => quote :: content.flatMap (quotedCharacter quote) ++ [quote]
  | comparison comparator => comparator.symbol
  | and => ['&', '&']
  | or => ['|', '|']
  | openParenthesis => ['(']
  | closeParenthesis => [')']

def digitsValue (digits : List Char) : Nat :=
  Nat.ofDigits 10 (digits.reverse.map fun digit => digit.toNat - '0'.toNat)

/-- The number that the digits before a point and those behind it write. -/
def amount (whole : List Char) (fraction : Option (List Char)) : ℚ :=
  digitsValue whole + fraction.elim 0 fun digits => (digitsValue digits : ℚ) / 10 ^ digits.length

/-- The token that a lexeme stands for. Three words are literals; a number is the nearest one of binary64, and zero
keeps its sign. -/
inductive StandsFor : Lexeme → Token → Prop
  | truth : StandsFor (.word 't' ['r', 'u', 'e']) (.boolean true)
  | falsehood : StandsFor (.word 'f' ['a', 'l', 's', 'e']) (.boolean false)
  | null : StandsFor (.word 'n' ['u', 'l', 'l']) .null
  | identifier {first : Char} {others : List Char} :
    String.ofList (first :: others) ∉ ["true", "false", "null"] →
      StandsFor (.word first others) (.identifier (String.ofList (first :: others)))
  | number {negative : Bool} {whole : List Char} {fraction : Option (List Char)} {value : FiniteFloat} :
    value.IsNearest (if negative then -amount whole fraction else amount whole fraction) →
      value.parts.negative = negative → StandsFor (.number negative whole fraction) (.number value)
  | string (quote : Char) (content : List Char) :
    StandsFor (.string quote content) (.string (String.ofList content))
  | comparison (comparator : Comparator) : StandsFor (.comparison comparator) (.comparison comparator)
  | and : StandsFor .and .and
  | or : StandsFor .or .or
  | openParenthesis : StandsFor .openParenthesis .openParenthesis
  | closeParenthesis : StandsFor .closeParenthesis .closeParenthesis

/-- Digits, at least one. -/
def IsDigits (characters : List Char) : Prop :=
  characters ≠ [] ∧ characters.all Char.isDigit = true

/-- Whether a hyphen behind a lexeme, or at the start of a source, is the sign of a number. -/
def signMayFollow : Option Lexeme → Bool
  | none | some (.comparison _) | some .and | some .or | some .openParenthesis => true
  | _ => false

/-- What a lexeme has to be to be read as itself behind another one: names are made of letters, digits and
underscores, numbers of digits; a number is not too large, and has a sign only where an operand is due. -/
def Allowed (previous : Option Lexeme) : Lexeme → Prop
  | word first others =>
    (first.isAlpha = true ∨ first = '_') ∧ others.all (fun other => other.isAlphanum || other = '_') = true
  | number negative whole fraction =>
    IsDigits whole ∧ (∀ digits ∈ fraction, IsDigits digits) ∧ amount whole fraction < Decimal.overflowThreshold ∧
      (negative = true → signMayFollow previous = true)
  | string quote _ => quote = '\x27' ∨ quote = '\x22'
  | _ => True

instance (characters : List Char) : Decidable (IsDigits characters) :=
  inferInstanceAs (Decidable (_ ∧ _))

instance (previous : Option Lexeme) : (lexeme : Lexeme) → Decidable (lexeme.Allowed previous)
  | word first others =>
    inferInstanceAs (Decidable ((first.isAlpha = true ∨ first = '_') ∧
      others.all (fun other => other.isAlphanum || other = '_') = true))
  | number negative whole fraction =>
    inferInstanceAs (Decidable (IsDigits whole ∧ (∀ digits ∈ fraction, IsDigits digits) ∧
      amount whole fraction < Decimal.overflowThreshold ∧ (negative = true → signMayFollow previous = true)))
  | string quote _ => inferInstanceAs (Decidable (quote = '\x27' ∨ quote = '\x22'))
  | comparison _ | and | or | openParenthesis | closeParenthesis => inferInstanceAs (Decidable True)

end Lexeme

structure Spaced where
  blanks : List Char
  areBlank : blanks.all Text.isBlank = true
  lexeme : Lexeme

namespace Spaced

def text (item : Spaced) : List Char :=
  item.blanks ++ item.lexeme.text

/-- Lexemes may follow one another behind a lexeme: each may stand where it does, and there are blanks between them;
before the first one of a source there may be some. -/
def Joined (previous : Option Lexeme) : List Spaced → Prop
  | [] => True
  | item :: rest =>
    item.lexeme.Allowed previous ∧ (previous.isSome = true → item.blanks ≠ []) ∧ Joined (some item.lexeme) rest

instance decidableJoined (previous : Option Lexeme) : (items : List Spaced) → Decidable (Joined previous items)
  | [] => inferInstanceAs (Decidable True)
  | item :: rest =>
    have := decidableJoined (some item.lexeme) rest
    inferInstanceAs (Decidable (_ ∧ _ ∧ _))

/-- The tokens that lexemes stand for whose text starts at an offset, each at the first byte of its lexeme. -/
inductive StandFor : (offset : Nat) → List Spaced → List Located → Prop
  | nil {offset : Nat} : StandFor offset [] []
  | cons {offset : Nat} {item : Spaced} {rest : List Spaced} {token : Token} {located : List Located} :
    item.lexeme.StandsFor token → StandFor (offset + (String.ofList item.text).utf8ByteSize) rest located →
      StandFor offset (item :: rest) (⟨token, offset + (String.ofList item.blanks).utf8ByteSize⟩ :: located)

end Spaced

end Verdict.Expression

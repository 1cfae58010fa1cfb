import Verdict.Decimal.Numeral
import Verdict.Expression.Token
/-!
Cutting a source text into tokens. A scanned lexeme carries the proof that the lexeme and the rest make up
the text before it, so the lexemes and the blanks between them are the whole source and cutting ends.
-/

namespace Verdict.Expression

open Decimal (FiniteFloat)

/-- A lexeme at the start of a text, the token it stands for, and the rest of the text. -/
structure Scanned (text : List Char) where
  token : Token
  lexeme : List Char
  rest : List Char
  whole : lexeme ++ rest = text
  nonempty : lexeme ≠ []

theorem Scanned.rest_length_lt {text : List Char} (scanned : Scanned text) :
    scanned.rest.length < text.length := by
  have length := congrArg List.length scanned.whole
  have positive := List.length_pos_iff.2 scanned.nonempty
  simp only [List.length_append] at length
  omega

/-- The content of a string, the lexeme from behind the opening quote to the closing one, and the rest. -/
structure Quoted (text : List Char) where
  content : List Char
  lexeme : List Char
  rest : List Char
  whole : lexeme ++ rest = text

inductive Unclosed where
  | inText
  | afterBackslash
deriving DecidableEq, Repr

def unescape (character : Char) : Char :=
  if character = 'n' then '\n'
  else if character = 't' then '\t'
  else if character = 'r' then '\r'
  else character

def Quoted.behind {text : List Char} (quoted : Quoted text) (character : Char) (written : List Char) :
    Quoted (written ++ text) :=
  ⟨character :: quoted.content, written ++ quoted.lexeme, quoted.rest, by
    rw [List.append_assoc, quoted.whole]⟩

def scanString (quote : Char) : (text : List Char) → Except Unclosed (Quoted text)
  | [] => .error .inText
  | [last] =>
    if last = quote then .ok ⟨[], [last], [], rfl⟩
    else if last = '\\' then .error .afterBackslash
    else .error .inText
  | first :: second :: rest =>
    if first = quote then .ok ⟨[], [first], second :: rest, rfl⟩
    else if first = '\\' then
      (scanString quote rest).map (fun quoted => quoted.behind (unescape second) [first, second])
    else (scanString quote (second :: rest)).map (fun quoted => quoted.behind first [first])

/-- A point and the digits behind it, if there are any, and the rest of the text. -/
def splitPoint : List Char → List Char × List Char
  | '.' :: after =>
    if (after.takeWhile Text.isDigit).isEmpty then ([], '.' :: after)
    else ('.' :: after.takeWhile Text.isDigit, after.dropWhile Text.isDigit)
  | text => ([], text)

theorem splitPoint_append (text : List Char) : (splitPoint text).1 ++ (splitPoint text).2 = text := by
  unfold splitPoint
  split
  · split <;> simp
  · rfl

def startsName (character : Char) : Bool :=
  Text.isLetter character || character = '_'

def continuesName (character : Char) : Bool :=
  startsName character || Text.isDigit character

/-- The token of a word: three words are literals. -/
def wordToken (word : List Char) : Token :=
  if word = ['t', 'r', 'u', 'e'] then .boolean true
  else if word = ['f', 'a', 'l', 's', 'e'] then .boolean false
  else if word = ['n', 'u', 'l', 'l'] then .null
  else .identifier (String.ofList word)

def single (token : Token) (first : Char) (rest : List Char) : Scanned (first :: rest) :=
  ⟨token, [first], rest, rfl, by simp⟩

def scanComparison (first : Char) (strict lax : Comparator) :
    (rest : List Char) → Scanned (first :: rest)
  | [] => single (.comparison strict) first []
  | second :: rest =>
    if second = '=' then ⟨.comparison lax, [first, second], rest, rfl, by simp⟩
    else single (.comparison strict) first (second :: rest)

/-- A token of two given characters, the first of which has been seen; otherwise the fault. -/
def scanPair (token : Token) (fault : SyntaxFault) (first wanted : Char) :
    (rest : List Char) → Except SyntaxFault (Scanned (first :: rest))
  | [] => .error fault
  | second :: rest =>
    if second = wanted then .ok ⟨token, [first, second], rest, rfl, by simp⟩ else .error fault

/-- What is known of the place of a lexeme: its offset, the length of the source in bytes, and whether an
operand is due. -/
structure Place where
  offset : Nat
  length : Nat
  operandDue : Bool

/-- Reads the number that starts at a digit, which a hyphen may precede as its sign. The digits are
blamed for a number that is too large. -/
def Place.scanNumber (place : Place) (sign : List Char) (first : Char) (rest : List Char) :
    Except SyntaxError (Scanned (sign ++ first :: rest)) :=
  let whole := first :: rest.takeWhile Text.isDigit
  let point := splitPoint (rest.dropWhile Text.isDigit)
  let magnitude := Decimal.ofDigits whole (point.1.drop 1) 0
  match FiniteFloat.ofFloat? (if sign.isEmpty then magnitude else -magnitude) with
  | none => .error ⟨place.offset + Text.byteLength sign, .badNumber⟩
  | some value =>
    .ok ⟨.number value, sign ++ whole ++ point.1, point.2, by
      have split := splitPoint_append (rest.dropWhile Text.isDigit)
      simp only [List.append_assoc, whole, point, split, List.cons_append,
        List.takeWhile_append_dropWhile], by simp [whole]⟩

def Place.scan (place : Place) (first : Char) (rest : List Char) :
    Except SyntaxError (Scanned (first :: rest)) :=
  if first = '(' then .ok (single .openParenthesis first rest)
  else if first = ')' then .ok (single .closeParenthesis first rest)
  else if first = '>' then .ok (scanComparison first .greater .greaterEqual rest)
  else if first = '<' then .ok (scanComparison first .less .lessEqual rest)
  else if first = '=' then
    (scanPair (.comparison .equal) .assignment first '=' rest).mapError (⟨place.offset, ·⟩)
  else if first = '!' then
    (scanPair (.comparison .different) .negation first '=' rest).mapError (⟨place.offset, ·⟩)
  else if first = '&' then
    (scanPair .and (.strayCharacter first) first '&' rest).mapError (⟨place.offset, ·⟩)
  else if first = '|' then
    (scanPair .or (.strayCharacter first) first '|' rest).mapError (⟨place.offset, ·⟩)
  else if first = '\x27' || first = '\x22' then
    match scanString first rest with
    | .error .inText => .error ⟨place.offset, .unclosedString⟩
    | .error .afterBackslash => .error ⟨place.length, .unclosedString⟩
    | .ok quoted =>
      .ok ⟨.string (String.ofList quoted.content), first :: quoted.lexeme, quoted.rest, by
        rw [List.cons_append, quoted.whole], by simp⟩
  else if first = '-' then
    match rest with
    | second :: after =>
      if place.operandDue && Text.isDigit second then place.scanNumber [first] second after
      else .error ⟨place.offset, .strayCharacter first⟩
    | [] => .error ⟨place.offset, .strayCharacter first⟩
  else if Text.isDigit first then place.scanNumber [] first rest
  else if startsName first then
    let word := first :: rest.takeWhile continuesName
    .ok ⟨wordToken word, word, rest.dropWhile continuesName, by simp [word], by simp [word]⟩
  else .error ⟨place.offset, .strayCharacter first⟩

def operandDueAfter : Option Token → Bool
  | none => true
  | some token => token.awaitsOperand

def tokensFrom (length : Nat) (previous : Option Token) (offset : Nat) (text : List Char) :
    Except SyntaxError (List Located) :=
  match text with
  | [] => .ok []
  | first :: rest =>
    if Text.isBlank first then tokensFrom length previous (offset + first.utf8Size) rest
    else
      match Place.scan ⟨offset, length, operandDueAfter previous⟩ first rest with
      | .error error => .error error
      | .ok scanned =>
        match tokensFrom length (some scanned.token) (offset + Text.byteLength scanned.lexeme)
            scanned.rest with
        | .error error => .error error
        | .ok located => .ok (⟨scanned.token, offset⟩ :: located)
termination_by text.length
decreasing_by
  · exact Nat.lt_succ_self _
  · exact scanned.rest_length_lt

def tokenize (source : String) : Except SyntaxError (List Located) :=
  let text := source.toList
  tokensFrom (Text.byteLength text) none 0 text

end Verdict.Expression

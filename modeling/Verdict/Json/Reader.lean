import Verdict.Json.Numeral
/-!
Reading JSON text. A fault carries the way from the outermost value to where it arose and its place, so
that the message can name both. Every reading step returns a shorter rest, which is why reading ends.
-/

namespace Verdict.Json

inductive ReadFault where
  | endInList
  | endInObject
  | endInString
  | endInValue
  | expectedColon
  | expectedListSeparator
  | expectedObjectSeparator
  | expectedWord
  | expectedValue
  | badEscape
  | badNumber
  | numberTooLarge
  | controlCharacter
  | keyNotString
  | loneSurrogate
  | trailingComma
  | trailingCharacters
  | brokenSurrogatePair
  | nestedTooDeep
deriving DecidableEq, Repr

def ReadFault.message : ReadFault → String
  | .endInList => "EOF while parsing a list"
  | .endInObject => "EOF while parsing an object"
  | .endInString => "EOF while parsing a string"
  | .endInValue => "EOF while parsing a value"
  | .expectedColon => "expected `:`"
  | .expectedListSeparator => "expected `,` or `]`"
  | .expectedObjectSeparator => "expected `,` or `\x7d`"
  | .expectedWord => "expected ident"
  | .expectedValue => "expected value"
  | .badEscape => "invalid escape"
  | .badNumber => "invalid number"
  | .numberTooLarge => "number out of range"
  | .controlCharacter => "control character (\\u0000-\\u001F) found while parsing a string"
  | .keyNotString => "key must be a string"
  | .loneSurrogate => "lone leading surrogate in hex escape"
  | .trailingComma => "trailing comma"
  | .trailingCharacters => "trailing characters"
  | .brokenSurrogatePair => "unexpected end of hex escape"
  | .nestedTooDeep => "recursion limit exceeded"

inductive PathStep where
  | field (key : String)
  | item (index : Nat)
  | unknownKey
deriving DecidableEq, Repr

/-- The text of a path: keys are parted by points and indices stand in brackets. -/
def pathText : List PathStep → String
  | [] => ""
  | step :: rest =>
    let here :=
      match step with
      | .field key => key
      | .item index => s!"[{index}]"
      | .unknownKey => "?"
    let mark :=
      match rest with
      | [] => ""
      | .item _ :: _ => ""
      | _ => "."
    here ++ mark ++ pathText rest

/-- A fault with the path to it, outermost step first, and its line and column, both in bytes. -/
structure ReadError where
  fault : ReadFault
  path : List PathStep
  line : Nat
  column : Nat
deriving DecidableEq, Repr

/-- The wording of an error. The path is left out where it names nothing. -/
def ReadError.message (error : ReadError) : String :=
  let place := error.fault.message ++ s!" at line {error.line} column {error.column}"
  if error.path.all (· == .unknownKey) then place
  else pathText error.path ++ ": " ++ place

/-- A fault before its place is known: `left` bytes of the text follow it. The path has its innermost
step first. -/
structure Stop where
  fault : ReadFault
  path : List PathStep
  left : Nat

def Stop.at (fault : ReadFault) (path : List PathStep) (rest : List Char) : Stop :=
  ⟨fault, path, Text.byteLength rest⟩

/-- A fault that lies in the first byte of the rest of a text, or at its end. -/
def Stop.within (fault : ReadFault) (path : List PathStep) (rest : List Char) : Stop :=
  ⟨fault, path, Text.byteLength rest - 1⟩

/-- A rest that is shorter than a text. -/
abbrev Rest (characters : List Char) := { rest : List Char // rest.length < characters.length }

/-- A rest that is no longer than a text. -/
abbrev Remainder (characters : List Char) := { rest : List Char // rest.length ≤ characters.length }

def isSpace (character : Char) : Bool :=
  character = ' ' || character = '\n' || character = '\t' || character = '\r'

def skipSpace (characters : List Char) : List Char :=
  characters.dropWhile isSpace

theorem skipSpace_length_le (characters : List Char) :
    (skipSpace characters).length ≤ characters.length :=
  (List.dropWhile_suffix isSpace).length_le

def readHexEscape (path : List PathStep) (characters : List Char) :
    Except Stop (Nat × Rest characters) :=
  match characters with
  | first :: second :: third :: fourth :: rest =>
    match [first, second, third, fourth].mapM Text.hexValue? with
    | some digits =>
      .ok (digits.foldl (fun value digit => 16 * value + digit) 0,
        ⟨rest, by simp only [List.length_cons]; omega⟩)
    | none =>
      .error ⟨.badEscape, path, Text.byteLength (first :: second :: third :: fourth :: rest) - 4⟩
  | short =>
    if Text.byteLength short < 4 then .error ⟨.endInString, path, 0⟩
    else .error ⟨.badEscape, path, Text.byteLength short - 4⟩

/-- The second escape of a character that takes two. -/
def readLowEscape (path : List PathStep) (high : Nat) (characters : List Char) :
    Except Stop (Char × Rest characters) :=
  match characters with
  | [] => .error (.at .endInString path [])
  | ['\\'] => .error ⟨.endInString, path, 0⟩
  | '\\' :: 'u' :: digits =>
    match readHexEscape path digits with
    | .error stop => .error stop
    | .ok (low, ⟨rest, shorter⟩) =>
      if low < 0xdc00 || 0xdfff < low then .error (.at .loneSurrogate path rest)
      else
        .ok (Char.ofNat ((high - 0xd800) * 0x400 + (low - 0xdc00) + 0x10000),
          ⟨rest, by simp only [List.length_cons]; omega⟩)
  | '\\' :: other => .error (.within .brokenSurrogatePair path other)
  | other => .error (.within .brokenSurrogatePair path other)

/-- The character of a hexadecimal escape. Beyond the first plane two escapes make one character. -/
def readUnicodeEscape (path : List PathStep) (characters : List Char) :
    Except Stop (Char × Rest characters) :=
  match readHexEscape path characters with
  | .error stop => .error stop
  | .ok (high, ⟨rest, shorter⟩) =>
    if 0xdc00 ≤ high && high ≤ 0xdfff then .error (.at .loneSurrogate path rest)
    else if high < 0xd800 || 0xdbff < high then .ok (Char.ofNat high, ⟨rest, shorter⟩)
    else
      match readLowEscape path high rest with
      | .error stop => .error stop
      | .ok (character, ⟨final, finalShorter⟩) => .ok (character, ⟨final, by omega⟩)

def letterEscape? (letter : Char) : Option Char :=
  if letter = '\x22' || letter = '\\' || letter = '/' then some letter
  else if letter = 'b' then some '\x08'
  else if letter = 'f' then some '\x0c'
  else if letter = 'n' then some '\n'
  else if letter = 'r' then some '\r'
  else if letter = 't' then some '\t'
  else none

def readEscape (path : List PathStep) (characters : List Char) : Except Stop (Char × Rest characters) :=
  match characters with
  | [] => .error ⟨.endInString, path, 0⟩
  | letter :: rest =>
    match letterEscape? letter with
    | some character => .ok (character, ⟨rest, Nat.lt_succ_self _⟩)
    | none =>
      if letter = 'u' then
        match readUnicodeEscape path rest with
        | .error stop => .error stop
        | .ok (character, ⟨final, shorter⟩) => .ok (character, ⟨final, Nat.lt_succ_of_lt shorter⟩)
      else .error (.within .badEscape path (letter :: rest))

/-- The characters of a string up to its closing quote, behind those read so far in reverse. -/
def readString (path : List PathStep) (read : List Char) (characters : List Char) :
    Except Stop (String × Rest characters) :=
  match shape : characters with
  | [] => .error ⟨.endInString, path, 0⟩
  | character :: rest =>
    if character = '\x22' then
      .ok (String.ofList read.reverse, ⟨rest, by simp⟩)
    else if character = '\\' then
      match readEscape path rest with
      | .error stop => .error stop
      | .ok (escaped, ⟨remaining, shorter⟩) =>
        match readString path (escaped :: read) remaining with
        | .error stop => .error stop
        | .ok (text, ⟨final, finalShorter⟩) =>
          .ok (text, ⟨final, by simp only [List.length_cons]; omega⟩)
    else if character.toNat < 32 then .error (.at .controlCharacter path rest)
    else
      match readString path (character :: read) rest with
      | .error stop => .error stop
      | .ok (text, ⟨final, finalShorter⟩) =>
        .ok (text, ⟨final, by simp only [List.length_cons]; omega⟩)
termination_by characters.length
decreasing_by all_goals (subst shape; simp only [List.length_cons]; omega)

def readWord (path : List PathStep) (word characters : List Char) :
    Except Stop (Remainder characters) :=
  match word, characters with
  | [], characters => .ok ⟨characters, Nat.le_refl _⟩
  | _ :: _, [] => .error ⟨.endInValue, path, 0⟩
  | letter :: word, character :: rest =>
    if character = letter then
      match readWord path word rest with
      | .error stop => .error stop
      | .ok ⟨final, notLonger⟩ => .ok ⟨final, by simp only [List.length_cons]; omega⟩
    else .error (.within .expectedWord path (character :: rest))

def splitSign : List Char → Bool × List Char
  | '+' :: rest => (false, rest)
  | '-' :: rest => (true, rest)
  | rest => (false, rest)

theorem splitSign_length_le (characters : List Char) :
    (splitSign characters).2.length ≤ characters.length := by
  unfold splitSign
  split <;> simp

/-- An exponent after its letter. An exponent beyond 32 bits is refused behind its first digit too many,
unless the number is zero or vanishes. -/
def readExponent (path : List PathStep) (isZero : Bool) (characters : List Char) :
    Except Stop (Int × Remainder characters) :=
  let negative := (splitSign characters).1
  let unsigned := (splitSign characters).2
  let digits := (Decimal.splitDigits unsigned).1
  let rest := (Decimal.splitDigits unsigned).2
  if unsigned.isEmpty then .error ⟨.endInValue, path, 0⟩
  else if digits.isEmpty then .error (.within .badNumber path unsigned)
  else
    let beyond := (extendBelow 2147483648 0 digits).2
    if !beyond.isEmpty && !isZero && !negative then
      .error (.at .numberTooLarge path (beyond.drop 1 ++ rest))
    else
      let magnitude : Int := Text.decimalValue digits
      .ok (if negative then -magnitude else magnitude,
        ⟨rest, Nat.le_trans (Decimal.splitDigits_length_le _) (splitSign_length_le characters)⟩)

def readFraction (path : List PathStep) (characters : List Char) :
    Except Stop (Option (List Char) × Remainder characters) :=
  match characters with
  | '.' :: after =>
    let digits := (Decimal.splitDigits after).1
    let rest := (Decimal.splitDigits after).2
    if digits.isEmpty then
      .error (.within (if rest.isEmpty then .endInValue else .badNumber) path rest)
    else
      .ok (some digits, ⟨rest, Nat.le_succ_of_le (Decimal.splitDigits_length_le after)⟩)
  | other => .ok (none, ⟨other, Nat.le_refl _⟩)

def readPower (path : List PathStep) (isZero : Bool) (characters : List Char) :
    Except Stop (Option Int × Remainder characters) :=
  match characters with
  | [] => .ok (none, ⟨[], Nat.le_refl _⟩)
  | letter :: after =>
    if letter = 'e' || letter = 'E' then
      match readExponent path isZero after with
      | .error stop => .error stop
      | .ok (power, ⟨rest, notLonger⟩) =>
        .ok (some power, ⟨rest, by simp only [List.length_cons]; omega⟩)
    else .ok (none, ⟨letter :: after, Nat.le_refl _⟩)

/-- The digits before the point: a zero stands alone. -/
def wholeDigits (digits : List Char) : List Char :=
  if digits.head? = some '0' then ['0'] else digits

theorem wholeDigits_length_pos {digits : List Char} (nonempty : digits.isEmpty = false) :
    0 < (wholeDigits digits).length := by
  unfold wholeDigits
  split
  · simp
  · exact List.length_pos_iff.2 (by simpa using nonempty)

def readParts (path : List PathStep) (negative : Bool) (characters : List Char) :
    Except Stop (Numeral × Rest characters) :=
  let digits := (Decimal.splitDigits characters).1
  if characters.isEmpty then .error ⟨.endInValue, path, 0⟩
  else if digitless : digits.isEmpty then .error (.within .badNumber path characters)
  else
    let whole := wholeDigits digits
    let afterWhole := characters.drop whole.length
    if whole.length < digits.length then .error (.within .badNumber path afterWhole)
    else
      match readFraction path afterWhole with
      | .error stop => .error stop
      | .ok (fraction, ⟨afterFraction, fractionNotLonger⟩) =>
        match readPower path ((whole ++ fraction.getD []).all (· = '0')) afterFraction with
        | .error stop => .error stop
        | .ok (power, ⟨rest, restNotLonger⟩) =>
          .ok (⟨negative, whole, fraction, power⟩, ⟨rest, by
            have begun : 0 < whole.length := wholeDigits_length_pos (by simpa using digitless)
            have present : 0 < characters.length :=
              Nat.lt_of_lt_of_le (List.length_pos_iff.2 (by simpa using digitless))
                (Decimal.splitDigits_fst_length_le characters)
            have : afterWhole.length = characters.length - whole.length := List.length_drop
            omega⟩)

def readNumeral (path : List PathStep) (characters : List Char) :
    Except Stop (Numeral × Rest characters) :=
  match characters with
  | '-' :: rest =>
    match readParts path true rest with
    | .error stop => .error stop
    | .ok (numeral, ⟨final, shorter⟩) =>
      .ok (numeral, ⟨final, by simp only [List.length_cons]; omega⟩)
  | unsigned => readParts path false unsigned

/-- A number; a value beyond the finite numbers is a fault behind the numeral. -/
def readNumber (path : List PathStep) (characters : List Char) :
    Except Stop (Number × Rest characters) :=
  match readNumeral path characters with
  | .error stop => .error stop
  | .ok (numeral, ⟨rest, shorter⟩) =>
    match numeral.value with
    | some value => .ok (value, ⟨rest, shorter⟩)
    | none => .error (.at .numberTooLarge path rest)

def nestingLimit : Nat := 127

def readConstant (path : List PathStep) (word : List Char) (value : Json) (characters : List Char) :
    Except Stop (Json × Remainder characters) :=
  (readWord path word characters).map (fun rest => (value, rest))

mutual

/-- A value, within a number of further nestings. -/
def readValue (room : Nat) (path : List PathStep) (characters : List Char) :
    Except Stop (Json × Rest characters) :=
  match shape : skipSpace characters with
  | [] => .error ⟨.endInValue, path, 0⟩
  | first :: rest =>
    have spaced : rest.length < characters.length := by
      have := skipSpace_length_le characters
      simp only [shape, List.length_cons] at this
      omega
    if first = '[' then
      if room = 0 then .error (.within .nestedTooDeep path (first :: rest))
      else
        match readItems (room - 1) path 0 [] rest with
        | .error stop => .error stop
        | .ok (items, ⟨final, finalShorter⟩) => .ok (.array items, ⟨final, by omega⟩)
    else if first = '\x7b' then
      if room = 0 then .error (.within .nestedTooDeep path (first :: rest))
      else
        match readFields (room - 1) path true [] rest with
        | .error stop => .error stop
        | .ok (fields, ⟨final, finalShorter⟩) => .ok (.object fields, ⟨final, by omega⟩)
    else if first = '\x22' then
      match readString path [] rest with
      | .error stop => .error stop
      | .ok (text, ⟨final, finalShorter⟩) => .ok (.string text, ⟨final, by omega⟩)
    else if first = '-' || Text.isDigit first then
      match readNumber path (first :: rest) with
      | .error stop => .error stop
      | .ok (amount, ⟨final, finalShorter⟩) =>
        .ok (.number amount, ⟨final, by simp only [List.length_cons] at finalShorter; omega⟩)
    else
      match
        if first = 'n' then readConstant path ['u', 'l', 'l'] .null rest
        else if first = 't' then readConstant path ['r', 'u', 'e'] (.bool true) rest
        else if first = 'f' then readConstant path ['a', 'l', 's', 'e'] (.bool false) rest
        else .error (.within .expectedValue path (first :: rest)) with
      | .error stop => .error stop
      | .ok (value, ⟨final, notLonger⟩) => .ok (value, ⟨final, by omega⟩)
termination_by 2 * characters.length
decreasing_by all_goals omega

/-- The items of an array from a place on up to its closing bracket, behind those read so far in
reverse. -/
def readItems (room : Nat) (path : List PathStep) (place : Nat) (read : List Json)
    (characters : List Char) : Except Stop (List Json × Rest characters) :=
  match shape : skipSpace characters with
  | [] => .error ⟨.endInList, path, 0⟩
  | first :: rest =>
    have spaced : rest.length < characters.length := by
      have := skipSpace_length_le characters
      simp only [shape, List.length_cons] at this
      omega
    if first = ']' then .ok (read.reverse, ⟨rest, spaced⟩)
    else if place = 0 then
      match readValue room (.item 0 :: path) characters with
      | .error stop => .error stop
      | .ok (item, ⟨next, nextShorter⟩) =>
        match readItems room path 1 [item] next with
        | .error stop => .error stop
        | .ok (items, ⟨final, finalShorter⟩) => .ok (items, ⟨final, by omega⟩)
    else if first = ',' then
      match skipSpace rest with
      | [] => .error ⟨.endInValue, path, 0⟩
      | second :: after =>
        if second = ']' then .error (.within .trailingComma path (second :: after))
        else
          match readValue room (.item place :: path) rest with
          | .error stop => .error stop
          | .ok (item, ⟨next, nextShorter⟩) =>
            match readItems room path (place + 1) (item :: read) next with
            | .error stop => .error stop
            | .ok (items, ⟨final, finalShorter⟩) => .ok (items, ⟨final, by omega⟩)
    else .error (.within .expectedListSeparator path (first :: rest))
termination_by 2 * characters.length + 1
decreasing_by all_goals omega

/-- The fields of an object up to its closing brace, into those read so far. -/
def readFields (room : Nat) (path : List PathStep) (atStart : Bool) (read : Fields)
    (characters : List Char) : Except Stop (Fields × Rest characters) :=
  match shape : skipSpace characters with
  | [] => .error ⟨.endInObject, .unknownKey :: path, 0⟩
  | first :: rest =>
    have spaced : rest.length < characters.length := by
      have := skipSpace_length_le characters
      simp only [shape, List.length_cons] at this
      omega
    if first = '\x7d' then .ok (read, ⟨rest, spaced⟩)
    else if atStart then
      if first = '\x22' then
        match readField room path rest with
        | .error stop => .error stop
        | .ok (key, value, ⟨next, nextShorter⟩) =>
          match readFields room path false (read.insert key value) next with
          | .error stop => .error stop
          | .ok (fields, ⟨final, finalShorter⟩) => .ok (fields, ⟨final, by omega⟩)
      else .error (.within .keyNotString (.unknownKey :: path) (first :: rest))
    else if first = ',' then
      match afterComma : skipSpace rest with
      | [] => .error ⟨.endInValue, .unknownKey :: path, 0⟩
      | second :: after =>
        have spacedAfter : after.length < rest.length := by
          have := skipSpace_length_le rest
          simp only [afterComma, List.length_cons] at this
          omega
        if second = '\x22' then
          match readField room path after with
          | .error stop => .error stop
          | .ok (key, value, ⟨next, nextShorter⟩) =>
            match readFields room path false (read.insert key value) next with
            | .error stop => .error stop
            | .ok (fields, ⟨final, finalShorter⟩) => .ok (fields, ⟨final, by omega⟩)
        else if second = '\x7d' then
          .error (.within .trailingComma (.unknownKey :: path) (second :: after))
        else .error (.within .keyNotString (.unknownKey :: path) (second :: after))
    else .error (.within .expectedObjectSeparator (.unknownKey :: path) (first :: rest))
termination_by 2 * characters.length + 1
decreasing_by all_goals omega

def readField (room : Nat) (path : List PathStep) (characters : List Char) :
    Except Stop (String × Json × Rest characters) :=
  match readString (.unknownKey :: path) [] characters with
  | .error stop => .error stop
  | .ok (key, ⟨afterKey, keyShorter⟩) =>
    match shape : skipSpace afterKey with
    | [] => .error ⟨.endInObject, path, 0⟩
    | mark :: rest =>
      have spaced : rest.length < afterKey.length := by
        have := skipSpace_length_le afterKey
        simp only [shape, List.length_cons] at this
        omega
      if mark = ':' then
        match readValue room (.field key :: path) rest with
        | .error stop => .error stop
        | .ok (value, ⟨final, finalShorter⟩) => .ok (key, value, ⟨final, by omega⟩)
      else .error (.within .expectedColon path (mark :: rest))
termination_by 2 * characters.length + 1
decreasing_by all_goals omega

end

def Stop.toError (stop : Stop) (characters : List Char) : ReadError :=
  let before := Text.byteLength characters - stop.left
  let rec advance : (line column bytes : Nat) → List Char → Nat × Nat
    | line, column, _, [] => (line, column)
    | line, column, bytes, character :: rest =>
      if bytes = 0 then (line, column)
      else if character = '\n' then advance (line + 1) 0 (bytes - 1) rest
      else
        let size := min character.utf8Size bytes
        advance line (column + size) (bytes - size) rest
  let (line, column) := advance 1 0 before characters
  ⟨stop.fault, stop.path.reverse, line, column⟩

/-- Reads one JSON value and nothing after it but white space. -/
def read (text : String) : Except ReadError Json :=
  let characters := text.toList
  match readValue nestingLimit [] characters with
  | .error stop => .error (stop.toError characters)
  | .ok (value, ⟨rest, _⟩) =>
    match skipSpace rest with
    | [] => .ok value
    | remaining => .error ((Stop.within .trailingCharacters [] remaining).toError characters)

end Verdict.Json

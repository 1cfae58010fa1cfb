import Verdict.Text.Digits
/-!
Media types as they stand in a content type: a type, a subtype with an optional suffix behind its last
plus sign, and parameters. A JSON body may come as `application/json` or with the suffix `json`.
-/

namespace Verdict.Http

def isTokenCharacter (character : Char) : Bool :=
  Text.isDigit character || Text.isLetter character || "!#$%&\x27*+-.^_\x60|~".toList.contains character

def isQuotableCharacter (character : Char) : Bool :=
  31 < character.toNat && character.toNat ≠ 127

/-- Where the reading of parameters stands: before a parameter, in its name, in its value, in a quoted
value, or behind one. The flag tells whether anything of the part was read. -/
inductive ParameterState where
  | before
  | name (begun : Bool)
  | value (begun : Bool)
  | quoted (begun : Bool)
  | behind
deriving DecidableEq, Repr

def parametersAllowed : ParameterState → List Char → Bool
  | .before, [] => true
  | .before, character :: rest =>
    if character = ' ' then parametersAllowed .before rest
    else isTokenCharacter character && parametersAllowed (.name true) rest
  | .name _, [] => false
  | .name begun, character :: rest =>
    if isTokenCharacter character then parametersAllowed (.name true) rest
    else character = '=' && begun && parametersAllowed (.value false) rest
  | .value _, [] => true
  | .value begun, character :: rest =>
    if character = '\x22' then !begun && parametersAllowed (.quoted false) rest
    else if isTokenCharacter character then parametersAllowed (.value true) rest
    else character = ';' && begun && parametersAllowed .before rest
  | .quoted _, [] => false
  | .quoted begun, character :: rest =>
    if character = '\x22' && begun then parametersAllowed .behind rest
    else isQuotableCharacter character && parametersAllowed (.quoted true) rest
  | .behind, [] => true
  | .behind, character :: rest =>
    if character = ';' then parametersAllowed .before rest
    else character = ' ' && parametersAllowed .behind rest

/-- A subtype is JSON by itself, when the part before the last plus sign is, or when the part behind it
is. -/
def isJsonSubtype (subtype : List Char) : Bool :=
  let lower := subtype.map Char.toLower
  let json := "json".toList
  match lower with
  | [] => false
  | first :: rest =>
    if rest.contains '+' then
      let suffix := (rest.reverse.takeWhile (· != '+')).reverse
      suffix == json || (first :: rest.take (rest.length - suffix.length - 1)) == json
    else lower == json

def isJsonType (text : String) : Bool :=
  let (kind, afterKind) := text.toList.span isTokenCharacter
  match afterKind with
  | '/' :: remainder =>
    let (subtype, parameters) := remainder.span isTokenCharacter
    kind.map Char.toLower == "application".toList && isJsonSubtype subtype &&
      match parameters with
      | [] => true
      | ';' :: rest => parametersAllowed .before rest
      | _ => false
  | _ => false

end Verdict.Http

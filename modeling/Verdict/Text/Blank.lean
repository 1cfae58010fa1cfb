/-!
Blank characters: white space as the Unicode property `White_Space` has it, and the ways of cutting
it off the ends of a text.
-/

namespace Verdict.Text

/-- A character with the Unicode property `White_Space`. -/
def isBlank (character : Char) : Bool :=
  let code := character.toNat
  (9 ≤ code && code ≤ 13) || code == 0x20 || code == 0x85 || code == 0xa0 || code == 0x1680 ||
    (0x2000 ≤ code && code ≤ 0x200a) || code == 0x2028 || code == 0x2029 || code == 0x202f ||
    code == 0x205f || code == 0x3000

def trimStart (characters : List Char) : List Char :=
  characters.dropWhile isBlank

def trim (characters : List Char) : List Char :=
  (trimStart (trimStart characters).reverse).reverse

def byteLength : List Char → Nat
  | [] => 0
  | character :: rest => character.utf8Size + byteLength rest

def isDigit (character : Char) : Bool :=
  '0' ≤ character && character ≤ '9'

def isLetter (character : Char) : Bool :=
  ('a' ≤ character && character ≤ 'z') || ('A' ≤ character && character ≤ 'Z')

end Verdict.Text

import Verdict.Text.Unprintable
/-!
The quoted form of a text in messages: double quotes around it, a backslash before a quote or a
backslash, the usual letters for line breaks and tabs, and the number in braces for every other character
that cannot be shown.
-/

namespace Verdict.Text

def quotedCharacter (character : Char) : List Char :=
  if character = '\x00' then ['\\', '0']
  else if character = '\t' then ['\\', 't']
  else if character = '\r' then ['\\', 'r']
  else if character = '\n' then ['\\', 'n']
  else if character = '\x22' then ['\\', '\x22']
  else if character = '\\' then ['\\', '\\']
  else if isUnprintable character then
    ['\\', 'u', '\x7b'] ++ Nat.toDigits 16 character.toNat ++ ['\x7d']
  else [character]

def quoted (text : String) : String :=
  String.ofList ('\x22' :: (text.toList.flatMap quotedCharacter ++ ['\x22']))

end Verdict.Text

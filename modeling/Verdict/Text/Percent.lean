import Verdict.Text.Digits
/-!
Percent-encoded text: a percent sign with two hexadecimal digits stands for one byte, and a percent sign
without them for itself. The bytes are read as UTF-8. Written text encodes the bytes of every character that is
not unreserved.
-/

namespace Verdict.Text

def percentDecoded : List Char → List UInt8
  | '%' :: high :: low :: rest =>
    match hexValue? high, hexValue? low with
    | some upper, some lower => UInt8.ofNat (16 * upper + lower) :: percentDecoded rest
    | _, _ => '%'.toUInt8 :: percentDecoded (high :: low :: rest)
  | character :: rest => String.utf8EncodeChar character ++ percentDecoded rest
  | [] => []

def ofBytes? (bytes : List UInt8) : Option String :=
  String.fromUTF8? ⟨bytes.toArray⟩

/-- The text of bytes. When they are no UTF-8, each byte beyond ASCII becomes a replacement character. -/
def ofBytesLenient (bytes : List UInt8) : String :=
  (ofBytes? bytes).getD
    (String.ofList
      (bytes.map (fun byte => if byte < 128 then Char.ofNat byte.toNat else Char.ofNat 0xfffd)))

def isUnreserved (character : Char) : Bool :=
  character.isAlphanum || ['-', '.', '_', '~'].contains character

def hexDigit (value : Nat) : Char :=
  if value < 10 then Char.ofNat (48 + value) else Char.ofNat (55 + value)

def percentByte (byte : UInt8) : List Char :=
  ['%', hexDigit (byte.toNat / 16), hexDigit (byte.toNat % 16)]

def percentEncoded (text : String) : List Char :=
  text.toList.flatMap (fun character =>
    if isUnreserved character then [character] else (String.utf8EncodeChar character).flatMap percentByte)

end Verdict.Text

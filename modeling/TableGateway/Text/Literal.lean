/-
This file writes texts and bytes as quoted literals, the way they are shown inside
messages. A literal is quoted with `'`, or with `"` when the text holds `'` and no
`"`; the quote in use, the backslash and unprintable characters are escaped.
-/

import TableGateway.Text.Printable

namespace TableGateway.Text

/-- The lower-case hexadecimal digit of a number below sixteen. -/
def hexDigit (value : Nat) : Char :=
  if value < 10 then Char.ofNat (48 + value) else Char.ofNat (87 + value)

/-- The lowest hexadecimal digits of a number, most significant first. -/
def hexDigits : Nat → Nat → List Char
  | 0, _ => []
  | count + 1, value => hexDigits count (value / 16) ++ [hexDigit (value % 16)]

/-- The number of a hexadecimal digit in either case. -/
def hexValue (digit : Char) : Nat :=
  if digit.isDigit then digit.toNat - 48 else digit.toLower.toNat - 87

/-- The bytes that pairs of hexadecimal digits write. -/
def bytesOfHex : List Char → List UInt8
  | high :: low :: rest => UInt8.ofNat (16 * hexValue high + hexValue low) :: bytesOfHex rest
  | _ => []

/-- Bytes as pairs of hexadecimal digits. -/
def hexOfBytes (octets : List UInt8) : List Char :=
  octets.flatMap fun byte => hexDigits 2 byte.toNat

/-- The quote that needs the fewest escapes. -/
def quoteFor (hasSingle hasDouble : Bool) : Char :=
  if hasSingle && !hasDouble then '\x22' else '\x27'

/-- Escapes shared by text and byte literals. -/
def escapeCommon (quote : Char) (code : Nat) : Option (List Char) :=
  if code == quote.toNat then some ['\\', quote]
  else if code == 92 then some ['\\', '\\']
  else if code == 10 then some ['\\', 'n']
  else if code == 13 then some ['\\', 'r']
  else if code == 9 then some ['\\', 't']
  else none

/-- One character inside a text literal. -/
def literalChar (quote character : Char) : List Char :=
  let code := character.toNat
  match escapeCommon quote code with
  | some escaped => escaped
  | none =>
    if isPrintable character then [character]
    else if code < 0x100 then '\\' :: 'x' :: hexDigits 2 code
    else if code < 0x10000 then '\\' :: 'u' :: hexDigits 4 code
    else '\\' :: 'U' :: hexDigits 8 code

/-- The quoted literal of a text. -/
def literal (text : String) : String :=
  let characters := text.toList
  let quote := quoteFor (characters.contains '\x27') (characters.contains '\x22')
  String.ofList (quote :: characters.flatMap (literalChar quote) ++ [quote])

/-- One byte inside a byte literal. -/
def literalByte (quote : Char) (byte : UInt8) : List Char :=
  let code := byte.toNat
  match escapeCommon quote code with
  | some escaped => escaped
  | none =>
    if 0x20 ≤ code && code < 0x7F then [Char.ofNat code]
    else '\\' :: 'x' :: hexDigits 2 code

/-- The quoted literal of a byte string. -/
def bytesLiteral (octets : ByteArray) : String :=
  let bytes := octets.data.toList
  let quote := quoteFor (bytes.contains 39) (bytes.contains 34)
  String.ofList ('b' :: quote :: bytes.flatMap (literalByte quote) ++ [quote])

end TableGateway.Text

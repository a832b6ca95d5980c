import TenPuzzle.Text.Hexadecimal
import TenPuzzle.Text.Printable

/-!
Quoted texts, as they stand in messages: in apostrophes, or in quotation marks when the text has an
apostrophe and no quotation mark.
-/

namespace TenPuzzle.Text

def quoteFor (text : List Char) : Char :=
  if text.contains '\x27' && !text.contains '\x22' then '\x22' else '\x27'

def escape (quote character : Char) : List Char :=
  if character = quote ∨ character = '\x5c' then ['\x5c', character]
  else if character = '\t' then ['\x5c', 't']
  else if character = '\n' then ['\x5c', 'n']
  else if character = '\r' then ['\x5c', 'r']
  else if isPrintable character then [character]
  else
    let code := character.toNat
    if code < 0x100 then '\x5c' :: 'x' :: hexDigits code 2
    else if code < 0x10000 then '\x5c' :: 'u' :: hexDigits code 4
    else '\x5c' :: 'U' :: hexDigits code 8

def quoted (text : String) : String :=
  let quote := quoteFor text.toList
  String.ofList (quote :: text.toList.flatMap (escape quote) ++ [quote])

/-- Bytes as they stand in messages: those of printable ASCII as characters, others by number. -/
def escapeByte (quote : Char) (byte : UInt8) : List Char :=
  if byte < 0x80 then escape quote (Char.ofNat byte.toNat)
  else '\x5c' :: 'x' :: hexDigits byte.toNat 2

def quotedBytes (bytes : List UInt8) : String :=
  let quote := quoteFor (bytes.map fun byte => Char.ofNat byte.toNat)
  String.ofList ('b' :: quote :: bytes.flatMap (escapeByte quote) ++ [quote])

end TenPuzzle.Text

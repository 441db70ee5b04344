import TenantAccess.Number.Digit
import TenantAccess.Text.Printable

/-! # Quoted literals

How a message shows a text so that its ends and its odd characters can be seen. The
quote is `'`, or `"` when the text holds a `'` and no `"`. A backslash and the quote
itself are escaped, and so is every character that cannot be printed.
-/

namespace TenantAccess.Text

/-- A code point written with a marker and a fixed number of hexadecimal digits. -/
def escapeCode (marker : Char) (width : Nat) (code : Nat) : List Char :=
  '\\' :: marker :: padZeros width (digitsIn 16 code)

/-- How one character is written between quotes. -/
def escapeIn (quote : Char) (c : Char) : List Char :=
  if c = quote || c = '\\' then ['\\', c]
  else if c = '\n' then ['\\', 'n']
  else if c = '\r' then ['\\', 'r']
  else if c = '\t' then ['\\', 't']
  else if isPrintable c then [c]
  else if c.toNat < 0x100 then escapeCode 'x' 2 c.toNat
  else if c.toNat < 0x10000 then escapeCode 'u' 4 c.toNat
  else escapeCode 'U' 8 c.toNat

/-- The quote that a text is written between. -/
def quoteFor (cs : List Char) : Char :=
  if cs.contains '\'' && !cs.contains '"' then '"' else '\''

def quoted (text : String) : String :=
  let quote := quoteFor text.toList
  String.ofList (quote :: text.toList.flatMap (escapeIn quote) ++ [quote])

/-- A character with an escape in place of one that is not ASCII. -/
def asciiForm (c : Char) : List Char :=
  if c.toNat < 0x80 then [c]
  else if c.toNat < 0x100 then escapeCode 'x' 2 c.toNat
  else if c.toNat < 0x10000 then escapeCode 'u' 4 c.toNat
  else escapeCode 'U' 8 c.toNat

/-- A text with escapes in place of all characters that are not ASCII. -/
def asciiOnly (text : String) : String := String.ofList (text.toList.flatMap asciiForm)

end TenantAccess.Text

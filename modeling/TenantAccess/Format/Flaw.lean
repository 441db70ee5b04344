import TenantAccess.Number.Digit

/-! # Flaws of formats

Why a format cannot be filled: it breaks off, or it does not go with its arguments.
-/

namespace TenantAccess

open TenantAccess.Text

/-- Why a format cannot be filled. -/
inductive FormatFlaw where
  | tooFewArguments
  | tooManyArguments
  | numberExpected (conversion : Char) (typeName : String)
  | wholeExpected (conversion : Char) (typeName : String)
  | realExpected (typeName : String)
  | characterExpected
  /-- A place takes a character code and gets a number that is none. -/
  | codeTooLarge
  | recordExpected
  | widthExpected
  | infinite
  | notANumber
  | tooLarge
  | amountTooLarge (isWidth : Bool)
  | argumentTooLarge (isWidth : Bool)
  | unfinished
  | unfinishedKey
  | unknownConversion (c : Char) (index : Nat)
  deriving Repr, DecidableEq

namespace FormatFlaw

/-- A character of a message: itself, or a question mark for what cannot be shown. -/
def visible (c : Char) : Char := if 31 ≤ c.toNat && c.toNat ≤ 126 then c else '?'

def message : FormatFlaw → String
  | tooFewArguments => "not enough arguments for format string"
  | tooManyArguments => "not all arguments converted during string formatting"
  | numberExpected conversion typeName =>
    "%" ++ conversion.toString ++ " format: a real number is required, not " ++ typeName
  | wholeExpected conversion typeName =>
    "%" ++ conversion.toString ++ " format: an integer is required, not " ++ typeName
  | realExpected typeName => "must be real number, not " ++ typeName
  | characterExpected => "%c requires int or char"
  | codeTooLarge => "%c arg not in range(0x110000)"
  | recordExpected => "format requires a mapping"
  | widthExpected => "* wants int"
  | infinite => "cannot convert float infinity to integer"
  | notANumber => "cannot convert float NaN to integer"
  | tooLarge => "int too large to convert to float"
  | amountTooLarge isWidth => (if isWidth then "width" else "precision") ++ " too big"
  | argumentTooLarge isWidth =>
    "Python int too large to convert to C " ++ (if isWidth then "ssize_t" else "int")
  | unfinished => "incomplete format"
  | unfinishedKey => "incomplete format key"
  | unknownConversion c index =>
    "unsupported format character '" ++ (visible c).toString ++ "' (0x" ++
      String.ofList (digitsIn 16 c.toNat) ++ ") at index " ++ toString index

end FormatFlaw

end TenantAccess

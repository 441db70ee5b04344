/-! # Blank characters

What separates words, and what is trimmed from the ends of a text. The class is the
Unicode one: besides the ASCII blanks it holds the four separator controls, the next-line
control and every space, line and paragraph separator. The zero-width space and the
byte-order mark are not blank.
-/

namespace TenantAccess.Text

/-- Ranges of blank characters, first and last code point. -/
def blankRanges : List (Nat × Nat) :=
  [(0x09, 0x0d), (0x1c, 0x20), (0x85, 0x85), (0xa0, 0xa0), (0x1680, 0x1680), (0x2000, 0x200a),
    (0x2028, 0x2029), (0x202f, 0x202f), (0x205f, 0x205f), (0x3000, 0x3000)]

/-- Whether a character is blank. -/
def isBlank (c : Char) : Bool :=
  blankRanges.any fun range => range.1 ≤ c.toNat && c.toNat ≤ range.2

def trimStart : List Char → List Char := List.dropWhile isBlank

def trimEnd (cs : List Char) : List Char := (trimStart cs.reverse).reverse

def trimChars (cs : List Char) : List Char := trimEnd (trimStart cs)

/-- Drop the blanks at both ends of a text. -/
def trim (text : String) : String := String.ofList (trimChars text.toList)

/-- Whether a list begins with a character that is not blank. -/
def beginsWord : List Char → Bool
  | [] => false
  | c :: _ => !isBlank c

/-- Put a character in front of the first word. -/
def growFirst (c : Char) : List (List Char) → List (List Char)
  | [] => [[c]]
  | word :: rest => (c :: word) :: rest

/-- The longest runs of characters that are not blank, in order. -/
def words : List Char → List (List Char)
  | [] => []
  | c :: rest =>
    if isBlank c then words rest
    else if beginsWord rest then growFirst c (words rest)
    else [c] :: words rest

/-- The words of a text with one space between them. -/
def collapse (cs : List Char) : List Char := [' '].intercalate (words cs)

end TenantAccess.Text

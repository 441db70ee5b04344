import TenantAccess.Text.Blank

/-! # Shapes

What a secret looks like in a text: a few pieces in a row, each a class of characters. A piece
takes as many characters as it can and never gives one back, so no class may begin what the
piece after it needs. Replacing a shape goes through a text from left to right, and what was
put in is not looked at again.

Letters are looked for whatever their case. A character counts as a small ASCII letter if it is
that letter, its capital, or one of the four characters outside ASCII whose other case is an
ASCII letter: the long s, the Kelvin sign, the dotted capital I and the dotless small i.
-/

namespace TenantAccess.Text

/-- The small ASCII letter that a character counts as; other characters stand for themselves. -/
def foldLetter (c : Char) : Char :=
  if c = '\u017f' then 's'
  else if c = '\u212a' then 'k'
  else if c = '\u0130' then 'i'
  else if c = '\u0131' then 'i'
  else c.toLower

/-- Whether a character counts as an ASCII letter. -/
def isFoldedLetter (c : Char) : Bool :=
  let small := foldLetter c
  'a' ≤ small && small ≤ 'z'

def isAsciiDigit (c : Char) : Bool := '0' ≤ c && c ≤ '9'

/-- Whether a character counts as an ASCII letter or digit. -/
def isFoldedAlphanumeric (c : Char) : Bool := isFoldedLetter c || isAsciiDigit c

/-- Whether a character is a hexadecimal digit of either case. -/
def isHexDigit (c : Char) : Bool :=
  let small := foldLetter c
  ('a' ≤ small && small ≤ 'f') || isAsciiDigit c

end TenantAccess.Text

namespace TenantAccess.Redaction

open TenantAccess.Text

/-- A piece of a shape. -/
inductive Piece where
  | one (isIn : Char → Bool)
  /-- A character of a class, where there is one. -/
  | maybe (isIn : Char → Bool)
  /-- All characters of a class that follow, which must be at least so many. -/
  | run (least : Nat) (isIn : Char → Bool)

namespace Piece

/-- How many characters at the front of a text a piece takes. -/
def size? : Piece → List Char → Option Nat
  | .one _, [] => none
  | .one isIn, c :: _ => if isIn c then some 1 else none
  | .maybe _, [] => some 0
  | .maybe isIn, c :: _ => some (if isIn c then 1 else 0)
  | .run least isIn, cs =>
    let found := (cs.takeWhile isIn).length
    if found < least then none else some found

/-- The letters of a word, whatever their case. -/
def word (text : String) : List Piece := text.toList.map fun c => .one fun d => foldLetter d == c

end Piece

/-- How many characters at the front of a text a row of pieces takes. -/
def sizeOfRow? : List Piece → List Char → Option Nat
  | [], _ => some 0
  | piece :: rest, cs =>
    match piece.size? cs with
    | none => none
    | some n => (sizeOfRow? rest (cs.drop n)).map (n + ·)

/-- A shape: rows of pieces, the first that fits counts. -/
abbrev Shape := List (List Piece)

namespace Shape

/-- How many characters at the front of a text have the shape; at least one. -/
def size? (shape : Shape) (cs : List Char) : Option Nat :=
  match shape.findSome? fun row => sizeOfRow? row cs with
  | some (n + 1) => some (n + 1)
  | _ => none

/-- Replace what has the shape, after passing over the next `skip` characters. -/
def replaceFrom (shape : Shape) (put : List Char → List Char) : Nat → List Char → List Char
  | _, [] => []
  | skip + 1, _ :: cs => replaceFrom shape put skip cs
  | 0, c :: cs =>
    match shape.size? (c :: cs) with
    | some n => put ((c :: cs).take n) ++ replaceFrom shape put (n - 1) cs
    | none => c :: replaceFrom shape put 0 cs

/-- Replace everything in a text that has the shape. -/
def replace (shape : Shape) (put : List Char → List Char) (cs : List Char) : List Char :=
  shape.replaceFrom put 0 cs

end Shape

end TenantAccess.Redaction

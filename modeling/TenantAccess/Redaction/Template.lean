import TenantAccess.Misuse
import TenantAccess.Redaction.Secret
import TenantAccess.Text.Identifier

/-! # Replacement templates

The text that stands in the place of a secret is a template: a backslash begins an escape, a
character code or a reference to what was found. `\g<0>` is all of it; a shape may also have a
group of its own, but no group is common to all shapes, so a template that refers to one is
refused in the end. A template is checked to its end before the first replacement.
-/

namespace TenantAccess.Redaction

open TenantAccess.Number TenantAccess.Text

/-- A part of a template. -/
inductive TemplatePart where
  | literal (c : Char)
  /-- A group of what was found; group zero is all of it. -/
  | group (number : Nat)
  deriving Repr, DecidableEq

/-- What stands in the place of a secret. -/
abbrev Template := List TemplatePart

namespace Template

/-- The text for what was found. -/
def fill (template : Template) (found : List Char) : List Char :=
  template.flatMap fun
    | .literal c => [c]
    | .group 0 => found
    | .group (_ + 1) => []

/-- The characters that letters mean after a backslash. -/
def controlEscape? : Char → Option Char
  | 'a' => some '\x07'
  | 'b' => some '\x08'
  | 'f' => some '\x0c'
  | 'n' => some '\n'
  | 'r' => some '\r'
  | 't' => some '\t'
  | 'v' => some '\x0b'
  | '\\' => some '\\'
  | _ => none

def isAsciiLetter (c : Char) : Bool := ('a' ≤ c && c ≤ 'z') || ('A' ≤ c && c ≤ 'Z')

def isOctalDigit (c : Char) : Bool := '0' ≤ c && c ≤ '7'

/-- The number that digits of a base spell. -/
def numberIn (base : Nat) (digits : List Char) : Nat :=
  digits.foldl (fun n c => base * n + (c.toNat - '0'.toNat)) 0

/-- A template that is being read: the whole of it, and what is left. -/
structure Reading where
  whole : List Char
  rest : List Char

namespace Reading

/-- Where the reading is, less some characters. -/
def position (r : Reading) (back : Nat) : Nat := r.whole.length - r.rest.length - back

def flawed {α : Type} (r : Reading) (flaw : TemplateFlaw) (back : Nat) : Except Misuse α :=
  .error (.template flaw (String.ofList r.whole) (r.position back))

/-- Go on after some characters; a backslash at the end is noticed once it comes next. -/
def after (r : Reading) (count : Nat) : Except Misuse Reading :=
  let next : Reading := ⟨r.whole, r.rest.drop count⟩
  match next.rest with
  | ['\\'] => next.flawed .danglingBackslash 0
  | _ => .ok next

/-- The digits that follow, at most so many. -/
def digits (r : Reading) (isDigit : Char → Bool) (most : Nat) : List Char :=
  (r.rest.take most).takeWhile isDigit

end Reading

/-- A reference to a group, checked against how many groups there are. -/
def group (groups : Nat) (r : Reading) (number back : Nat) : Except Misuse (TemplatePart × Reading) :=
  if groups < number then r.flawed (.referenceUnknown number) back else .ok (.group number, r)

/-- The characters of a name up to its closing bracket, two for an escape. -/
def nameSize : List Char → Nat
  | [] => 0
  | '>' :: _ => 0
  | '\\' :: _ :: rest => nameSize rest + 2
  | _ :: rest => nameSize rest + 1

/-- Go on after so many characters, one at a time or two for an escape. -/
def skip : Nat → Reading → Except Misuse Reading
  | 0, r => .ok r
  | 1, r => r.after 1
  | size + 2, r => do
    if r.rest.head? = some '\\' then skip size (← r.after 2) else skip (size + 1) (← r.after 1)

/-- A reference by name or number, after its letter. -/
def namedGroup (groups : Nat) (r : Reading) : Except Misuse (TemplatePart × Reading) := do
  if r.rest.head? ≠ some '<' then r.flawed .referenceUnopened 0
  let r ← r.after 1
  let size := nameSize r.rest
  let name := r.rest.take size
  let r ← skip size r
  if r.rest.isEmpty then
    r.flawed (if size = 0 then .referenceUnnamed else .referenceUnclosed) size
  let r ← r.after 1
  if size = 0 then r.flawed .referenceUnnamed 1
  else if isIdentifier name then .error (.unknownGroup (String.ofList name))
  else
    match generousInt (String.ofList name) with
    | .ok (.ofNat number) => group groups r number (size + 1)
    | _ => r.flawed (.referenceMisnamed (String.ofList name)) (size + 1)

/-- A digit after a backslash: a code in octal digits, or a reference by number. -/
def numbered (groups : Nat) (first : Char) (r : Reading) :
    Except Misuse (TemplatePart × Reading) := do
  if first = '0' then
    let octal := r.digits isOctalDigit 2
    return (.literal (Char.ofNat (numberIn 8 octal)), ← skip octal.length r)
  let second := r.digits isAsciiDigit 1
  let r ← skip second.length r
  let third := r.digits isOctalDigit 1
  if second.isEmpty then group groups r (numberIn 10 [first]) 1
  else if !third.isEmpty && isOctalDigit first && second.all isOctalDigit then
    let r ← r.after 1
    let code := numberIn 8 (first :: second ++ third)
    if 0o377 < code then r.flawed (.codeTooLarge (String.ofList (first :: second ++ third))) 4
    else return (.literal (Char.ofNat code), r)
  else group groups r (numberIn 10 (first :: second)) 2

/-- What a backslash and the character after it mean; they have been passed. -/
def escape (groups : Nat) (c : Char) (r : Reading) : Except Misuse (Template × Reading) := do
  if c = 'g' then
    let (part, r) ← namedGroup groups r
    return ([part], r)
  else if isAsciiDigit c then
    let (part, r) ← numbered groups c r
    return ([part], r)
  else
    match controlEscape? c with
    | some control => return ([.literal control], r)
    | none =>
      if isAsciiLetter c then r.flawed (.unknownEscape c) 2
      else return ([.literal '\\', .literal c], r)

/-- Read a template to its end; every round takes at least one character. -/
def readAll (groups : Nat) : Nat → Reading → Except Misuse Template
  | 0, _ => .ok []
  | fuel + 1, r => do
    match r.rest with
    | [] => return []
    | '\\' :: c :: _ =>
      let (parts, r) ← escape groups c (← r.after 2)
      return parts ++ (← readAll groups fuel r)
    | c :: _ => return .literal c :: (← readAll groups fuel (← r.after 1))

/-- Read a template for shapes with so many groups. -/
def ofText (groups : Nat) (text : String) : Except Misuse Template := do
  let start : Reading := ⟨text.toList, text.toList⟩
  readAll groups text.length (← start.after 0)

/-- Read a template for all shapes: the first of them has one group, some have none. -/
def ofTextForAll (text : String) : Except Misuse Template := do
  let _ ← ofText 1 text
  ofText 0 text

end Template

/-- Replace all secrets in a text by what a template makes of them. -/
def redactWith (template text : String) : Except Misuse String := do
  let template ← Template.ofTextForAll template
  return String.ofList (replaceSecrets template.fill text.toList)

end TenantAccess.Redaction

import TenantAccess.Number.Digit

/-! # Places of a format

A format is a text with places to be filled. A place begins with a percent sign; it may name a
field, set flags, a width and a precision, and ends in a letter that says what is written.
Reading never fails: a place that breaks off has no letter.
-/

namespace TenantAccess.Format

/-- The field that a place names. -/
inductive Key where
  /-- None; the next argument counts. -/
  | absent
  /-- A field, by its name. -/
  | named (name : String)
  /-- A name that never ends. -/
  | unclosed
  deriving Repr, DecidableEq

/-- A width or a precision. -/
inductive Amount where
  | absent
  | given (n : Nat)
  | fromArgument
  deriving Repr, DecidableEq

/-- A place to be filled. -/
structure Place where
  key : Key
  flags : List Char
  /-- How many characters it has at least. -/
  width : Amount
  /-- How many digits or characters count. -/
  precision : Amount
  /-- The letter that says what is written; none if the format ends before it. -/
  conversion : Option Char
  /-- How many characters it takes after its percent sign. -/
  size : Nat
  deriving Repr

def isFlag (c : Char) : Bool := "-+ #0".toList.contains c

def isDigit (c : Char) : Bool := '0' ≤ c && c ≤ '9'

/-- Whether a character is a mark of size, which means nothing. -/
def isSizeMark (c : Char) : Bool := c == 'h' || c == 'l' || c == 'L'

/-- The length of a text up to the bracket that closes `depth` open ones. -/
def closedAt? (depth : Nat) : List Char → Option Nat
  | [] => none
  | c :: rest =>
    let depth := if c = '(' then depth + 1 else if c = ')' then depth - 1 else depth
    if depth = 0 then some 0 else (closedAt? depth rest).map (· + 1)

/-- The name of a field at the front, and what comes after it. -/
def readKey : List Char → Key × List Char
  | '(' :: rest =>
    match closedAt? 1 rest with
    | some n => (.named (String.ofList (rest.take n)), rest.drop (n + 1))
    | none => (.unclosed, [])
  | cs => (.absent, cs)

def spelled (digits : List Char) : Nat :=
  digits.foldl (fun n c => 10 * n + (c.toNat - '0'.toNat)) 0

/-- An amount at the front, and what comes after it; `standard` if there are no digits. -/
def readAmount (standard : Amount) : List Char → Amount × List Char
  | '*' :: rest => (.fromArgument, rest)
  | cs =>
    match cs.takeWhile isDigit with
    | [] => (standard, cs)
    | digits => (.given (spelled digits), cs.dropWhile isDigit)

/-- A precision at the front, and what comes after it; a bare point is zero. -/
def readPrecision : List Char → Amount × List Char
  | '.' :: rest => readAmount (.given 0) rest
  | cs => (.absent, cs)

/-- Drop one mark of size. -/
def dropSizeMark : List Char → List Char
  | [] => []
  | c :: rest => if isSizeMark c then rest else c :: rest

def readPlace (cs : List Char) : Place :=
  let (key, afterKey) := readKey cs
  let (width, afterWidth) := readAmount .absent (afterKey.dropWhile isFlag)
  let (precision, afterPrecision) := readPrecision afterWidth
  let rest := dropSizeMark afterPrecision
  { key := key
    flags := afterKey.takeWhile isFlag
    width := width
    precision := precision
    conversion := rest.head?
    size := cs.length - rest.tail.length }

/-- A part of a format. -/
inductive Part where
  | literal (c : Char)
  /-- A place, and where its letter stands in the format. -/
  | place (p : Place) (index : Nat)
  deriving Repr

/-- The parts of a format from an index on (two percent signs are one character), after passing over the next `skip` characters. -/
def partsFrom (index : Nat) : Nat → List Char → List Part
  | _, [] => []
  | skip + 1, _ :: rest => partsFrom (index + 1) skip rest
  | 0, c :: rest =>
    if c ≠ '%' then .literal c :: partsFrom (index + 1) 0 rest
    else if rest.head? = some '%' then .literal '%' :: partsFrom (index + 1) 1 rest
    else
      let place := readPlace rest
      .place place (index + place.size) :: partsFrom (index + 1) place.size rest

def parts (format : List Char) : List Part := partsFrom 0 0 format

end TenantAccess.Format

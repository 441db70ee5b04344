import TenantAccess.Number.Literal
import TenantAccess.Value.Basic

/-! # JSON text

Values are written on one line with `, ` between parts and `: ` after names. Only the
quote, the backslash and the control characters are escaped; all other characters stand
for themselves. Reading accepts any blank space between tokens; a repeated name keeps its
first place and its last value.
-/

namespace TenantAccess.Value

open TenantAccess.Text TenantAccess.Number

/-- How one character is written inside a JSON string. -/
def jsonEscape (c : Char) : List Char :=
  if c = '"' then ['\\', '"']
  else if c = '\\' then ['\\', '\\']
  else if c = '\n' then ['\\', 'n']
  else if c = '\r' then ['\\', 'r']
  else if c = '\t' then ['\\', 't']
  else if c.toNat = 8 then ['\\', 'b']
  else if c.toNat = 12 then ['\\', 'f']
  else if c.toNat < 0x20 then escapeCode 'u' 4 c.toNat
  else [c]

def jsonString (s : String) : String :=
  String.ofList ('"' :: s.toList.flatMap jsonEscape ++ ['"'])

/-- A double as JSON text, with names for what is not finite. -/
def jsonFloat (x : Float) : String :=
  match magnitude x with
  | .notANumber => "NaN"
  | .infinite => if signBit x then "-Infinity" else "Infinity"
  | _ => floatText x

mutual

/-- A value as JSON text. -/
def toJson : Value → String
  | .null => "null"
  | .bool true => "true"
  | .bool false => "false"
  | .int n => ofInt n
  | .float x => jsonFloat x
  | .text s => jsonString s
  | .list items => "[" ++ separated (jsonItems items) ++ "]"
  | .record fields => "\x7b" ++ separated (jsonFields fields) ++ "\x7d"

def jsonItems : List Value → List String
  | [] => []
  | v :: rest => toJson v :: jsonItems rest

def jsonFields : List (String × Value) → List String
  | [] => []
  | (name, v) :: rest => (jsonString name ++ ": " ++ toJson v) :: jsonFields rest

end

/-! ## Reading -/

/-- Blank space between tokens. -/
def skipSpace : List Char → List Char :=
  List.dropWhile fun c => c = ' ' || c = '\n' || c = '\r' || c = '\t'

def hexValue? (c : Char) : Option Nat :=
  if c.isDigit then some (c.toNat - 48)
  else if 'a' ≤ c && c ≤ 'f' then some (c.toNat - 87)
  else if 'A' ≤ c && c ≤ 'F' then some (c.toNat - 55)
  else none

/-- Four hexadecimal digits at the front. -/
def fourHex? : List Char → Option (Nat × List Char)
  | a :: b :: c :: d :: rest => do
    let a ← hexValue? a
    let b ← hexValue? b
    let c ← hexValue? c
    let d ← hexValue? d
    return (((a * 16 + b) * 16 + c) * 16 + d, rest)
  | _ => none

/-- The character that a short escape stands for. -/
def shortEscape? : Char → Option Char
  | '"' => some '"'
  | '\\' => some '\\'
  | '/' => some '/'
  | 'b' => some (Char.ofNat 8)
  | 'f' => some (Char.ofNat 12)
  | 'n' => some '\n'
  | 'r' => some '\r'
  | 't' => some '\t'
  | _ => none

/-- One escape after the backslash; a pair of surrogates is one character. -/
def escape? : List Char → Option (Char × List Char)
  | 'u' :: rest => do
    let (high, rest) ← fourHex? rest
    if 0xd800 ≤ high && high < 0xdc00 then
      match rest with
      | '\\' :: 'u' :: rest =>
        let (low, rest) ← fourHex? rest
        if 0xdc00 ≤ low && low < 0xe000 then
          return (Char.ofNat (0x10000 + (high - 0xd800) * 0x400 + (low - 0xdc00)), rest)
        else none
      | _ => none
    else return (Char.ofNat high, rest)
  | c :: rest => (shortEscape? c).map (·, rest)
  | [] => none

/-- The rest of a string after its opening quote; `fuel` bounds its length. -/
def stringTail? : Nat → List Char → List Char → Option (String × List Char)
  | 0, _, _ => none
  | fuel + 1, done, cs =>
    match cs with
    | [] => none
    | '"' :: rest => some (String.ofList done.reverse, rest)
    | '\\' :: rest => do
      let (c, rest) ← escape? rest
      stringTail? fuel (c :: done) rest
    | c :: rest => stringTail? fuel (c :: done) rest

def digitsValue (cs : List Char) : Nat := cs.foldl (fun n c => 10 * n + (c.toNat - 48)) 0

/-- A number at the front: an integer unless it has a fraction or an exponent. -/
def number? (cs : List Char) : Option (Value × List Char) :=
  let (negative, cs) := match cs with
    | '-' :: rest => (true, rest)
    | _ => (false, cs)
  let (whole, rest) := cs.span Char.isDigit
  if whole.isEmpty then none
  else
    let (fraction, afterFraction, isFloat) := match rest with
      | '.' :: more =>
        let (ds, rest) := more.span Char.isDigit
        (ds, rest, true)
      | _ => ([], rest, false)
    let (exponent, rest, isFloat) := match afterFraction with
      | 'e' :: more => scientific more isFloat
      | 'E' :: more => scientific more isFloat
      | _ => (0, afterFraction, isFloat)
    if isFloat then
      let digits := (whole ++ fraction).map fun c => c.toNat - 48
      some (.float (signed negative (scaled digits (exponent - fraction.length))), rest)
    else some (.int (withSign negative (digitsValue whole)), rest)
where
  scientific (more : List Char) (isFloat : Bool) : Int × List Char × Bool :=
    let (negative, cs) := splitSign more
    let (ds, rest) := cs.span Char.isDigit
    if ds.isEmpty then (0, more, isFloat) else (withSign negative (digitsValue ds), rest, true)

/-- Add a field: a repeated name keeps its place and takes the new value. -/
def putField (fields : List (String × Value)) (name : String) (v : Value) :
    List (String × Value) :=
  if fields.any (·.1 == name) then fields.map fun f => if f.1 == name then (name, v) else f
  else fields ++ [(name, v)]

mutual

/-- A value at the front; `fuel` bounds the number of steps. -/
def value? : Nat → List Char → Option (Value × List Char)
  | 0, _ => none
  | fuel + 1, cs =>
    match skipSpace cs with
    | 'n' :: 'u' :: 'l' :: 'l' :: rest => some (.null, rest)
    | 't' :: 'r' :: 'u' :: 'e' :: rest => some (.bool true, rest)
    | 'f' :: 'a' :: 'l' :: 's' :: 'e' :: rest => some (.bool false, rest)
    | '"' :: rest => (stringTail? (rest.length + 1) [] rest).map fun (s, rest) => (.text s, rest)
    | '[' :: rest =>
      match skipSpace rest with
      | ']' :: rest => some (.list [], rest)
      | rest => items? fuel [] rest
    | '\x7b' :: rest =>
      match skipSpace rest with
      | '\x7d' :: rest => some (.record [], rest)
      | rest => fields? fuel [] rest
    | 'N' :: 'a' :: 'N' :: rest => some (.float (0.0 / 0.0), rest)
    | 'I' :: 'n' :: 'f' :: 'i' :: 'n' :: 'i' :: 't' :: 'y' :: rest =>
      some (.float (1.0 / 0.0), rest)
    | '-' :: 'I' :: 'n' :: 'f' :: 'i' :: 'n' :: 'i' :: 't' :: 'y' :: rest =>
      some (.float (-1.0 / 0.0), rest)
    | cs => number? cs

/-- The items of a list up to its closing bracket. -/
def items? : Nat → List Value → List Char → Option (Value × List Char)
  | 0, _, _ => none
  | fuel + 1, done, cs => do
    let (v, rest) ← value? fuel cs
    match skipSpace rest with
    | ',' :: rest => items? fuel (v :: done) rest
    | ']' :: rest => some (.list (v :: done).reverse, rest)
    | _ => none

/-- The fields of a record up to its closing brace. -/
def fields? : Nat → List (String × Value) → List Char → Option (Value × List Char)
  | 0, _, _ => none
  | fuel + 1, done, cs =>
    match skipSpace cs with
    | '"' :: rest => do
      let (name, rest) ← stringTail? (rest.length + 1) [] rest
      match skipSpace rest with
      | ':' :: rest => do
        let (v, rest) ← value? fuel rest
        match skipSpace rest with
        | ',' :: rest => fields? fuel (putField done name v) rest
        | '\x7d' :: rest => some (.record (putField done name v), rest)
        | _ => none
      | _ => none
    | _ => none

end

def ofJson? (text : String) : Option Value := do
  let cs := text.toList
  let (v, rest) ← value? (2 * cs.length + 2) cs
  if (skipSpace rest).isEmpty then some v else none

end TenantAccess.Value

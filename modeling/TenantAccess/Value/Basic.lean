import TenantAccess.Number.Layout
import TenantAccess.Text.Quoted

/-! # Plain data

Settings, compliance records, log fields and format arguments arrive as plain data:
nothing, truth values, numbers, texts, lists and records. Here are the two texts of a
value (as a literal, and as shown to a reader), its truth and its equality.
-/

namespace TenantAccess

open TenantAccess.Text TenantAccess.Number

/-- Plain data. The fields of a record keep their order. -/
inductive Value where
  | null
  | bool (b : Bool)
  | int (n : Int)
  | float (x : Float)
  | text (s : String)
  | list (items : List Value)
  | record (fields : List (String × Value))
  deriving Repr, Inhabited

namespace Value

def field? (v : Value) (name : String) : Option Value :=
  match v with
  | .record fields => (fields.find? fun f => f.1 == name).map (·.2)
  | _ => none

/-- The kind of a value as messages name it. -/
def typeName : Value → String
  | .null => "NoneType"
  | .bool _ => "bool"
  | .int _ => "int"
  | .float _ => "float"
  | .text _ => "str"
  | .list _ => "list"
  | .record _ => "dict"

def ofText? : Option String → Value
  | some s => .text s
  | none => .null

def ofInt? : Option Int → Value
  | some n => .int n
  | none => .null

/-- Whether a value counts as present: not nothing, not false, not zero, not empty. -/
def isPresent : Value → Bool
  | .null => false
  | .bool b => b
  | .int n => n ≠ 0
  | .float x => !(x == 0.0)
  | .text s => s ≠ ""
  | .list items => !items.isEmpty
  | .record fields => !fields.isEmpty

/-- Put a comma and a space between the parts of a listing. -/
def separated (parts : List String) : String := ", ".intercalate parts

mutual

/-- A value as a literal. -/
def literal : Value → String
  | .null => "None"
  | .bool true => "True"
  | .bool false => "False"
  | .int n => ofInt n
  | .float x => floatText x
  | .text s => quoted s
  | .list items => "[" ++ separated (literals items) ++ "]"
  | .record fields => "\x7b" ++ separated (fieldLiterals fields) ++ "\x7d"

def literals : List Value → List String
  | [] => []
  | v :: rest => literal v :: literals rest

def fieldLiterals : List (String × Value) → List String
  | [] => []
  | (name, v) :: rest => (quoted name ++ ": " ++ literal v) :: fieldLiterals rest

end

/-- A value as a reader is shown it: a text is itself, anything else its literal. -/
def shown : Value → String
  | .text s => s
  | v => v.literal

/-- Whether a double is exactly this integer. -/
def isInteger (x : Float) (n : Int) : Bool :=
  match magnitude x with
  | .notANumber => false
  | .infinite => false
  | .zero => n == 0
  | .finite b =>
    (signBit x == decide (n < 0)) && (b.numerator == n.natAbs * b.denominator)

/-- Whether two scalars are the same number, truth values counting as zero and one. -/
def sameNumber : Value → Value → Bool
  | .int a, .int b => a == b
  | .float a, .float b => a == b
  | .int a, .float b => isInteger b a
  | .float a, .int b => isInteger a b
  | .bool a, v => sameNumberInt (if a then 1 else 0) v
  | v, .bool b => sameNumberInt (if b then 1 else 0) v
  | _, _ => false
where
  sameNumberInt (n : Int) : Value → Bool
    | .int b => n == b
    | .float b => isInteger b n
    | .bool b => n == (if b then 1 else 0)
    | _ => false

mutual

/-- Equality of values; the order of record fields does not matter. -/
def alike : Value → Value → Bool
  | .null, .null => true
  | .text a, .text b => a == b
  | .list a, .list b => alikeList a b
  | .record a, .record b => a.length == b.length && alikeFields a b
  | a, b => sameNumber a b

/-- Equality of lists, item by item. -/
def alikeList : List Value → List Value → Bool
  | [], [] => true
  | a :: as, b :: bs => alike a b && alikeList as bs
  | _, _ => false

/-- Whether every field is in the other record with an equal value. -/
def alikeFields : List (String × Value) → List (String × Value) → Bool
  | [], _ => true
  | (name, v) :: rest, others =>
    (match others.find? fun f => f.1 == name with
      | some (_, w) => alike v w
      | none => false) && alikeFields rest others

end

end Value

end TenantAccess

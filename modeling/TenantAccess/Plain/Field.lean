import TenantAccess.Value.Basic

/-! # Fields of plain data

Reading the parts of a record of plain data. A part that is missing reads as no value, and so
does every part of something that is no record.
-/

namespace TenantAccess.Value

/-- A part of a record. -/
def part (v : Value) (name : String) : Value := (v.field? name).getD .null

def hasPart (v : Value) (name : String) : Bool := (v.field? name).isSome

def parts : Value → List (String × Value)
  | .record fields => fields
  | _ => []

def items : Value → List Value
  | .list items => items
  | _ => []

/-- An integer; truth values count as zero and one. -/
def integer? : Value → Option Int
  | .int n => some n
  | .bool b => some (if b then 1 else 0)
  | _ => none

/-- A text part; anything else is shown, and nothing is the empty text. -/
def textAt (v : Value) (name : String) : String :=
  match v.part name with
  | .null => ""
  | w => w.shown

/-- A text part, or what holds where it is missing. -/
def textAtOr (v : Value) (name standard : String) : String :=
  ((v.field? name).map shown).getD standard

/-- A text part, if it is a text. -/
def textAt? (v : Value) (name : String) : Option String :=
  match v.part name with
  | .text s => some s
  | _ => none

/-- An integer part, if it is one. -/
def integerAt? (v : Value) (name : String) : Option Int := (v.part name).integer?

/-- An integer part, or what holds where it is missing. -/
def integerAtOr (v : Value) (name : String) (standard : Int) : Int :=
  (v.integerAt? name).getD standard

/-- Whether a part counts as present, unless it is nothing. -/
def truthAt? (v : Value) (name : String) : Option Bool :=
  match v.part name with
  | .null => none
  | w => some w.isPresent

/-- Whether a part counts as present, or what holds where it is missing. -/
def truthAtOr (v : Value) (name : String) (standard : Bool) : Bool :=
  ((v.field? name).map isPresent).getD standard

def itemsAt (v : Value) (name : String) : List Value := (v.part name).items

def textsAt (v : Value) (name : String) : List String := (v.itemsAt name).map shown

def ofTexts (texts : List String) : Value := .list (texts.map .text)

/-- What is there, written, or nothing. -/
def ofOption {α : Type} (write : α → Value) (a : Option α) : Value := (a.map write).getD .null

end TenantAccess.Value

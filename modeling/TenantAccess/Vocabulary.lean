import TenantAccess.Text.Quoted
import TenantAccess.Value.Basic

/-! # Closed vocabularies

Resources, actions, scopes and the like are finite vocabularies: every member has a name
of its own, and a text denotes a member exactly when it is that name. Callers may hand
over plain data where a member belongs; `Offered` keeps the two apart until a part that
cares has checked.
-/

namespace TenantAccess

open TenantAccess.Text

/-- A finite vocabulary whose members have names. -/
class Vocabulary (α : Type) where
  title : String
  /-- All members, in order. -/
  members : List α
  name : α → String
  complete : ∀ a, a ∈ members
  name_inj : ∀ a b, name a = name b → a = b

namespace Vocabulary

variable {α : Type} [Vocabulary α]

/-- The member that a text names. -/
def ofName? (text : String) : Option α := (members (α := α)).find? fun a => name a == text

/-- A member reads back from its name, and no other text is read as it. -/
theorem ofName?_eq_some_iff (text : String) (a : α) : ofName? text = some a ↔ name a = text := by
  constructor
  · intro h
    simpa using List.find?_some h
  · intro h
    unfold ofName?
    cases hf : (members (α := α)).find? fun a => name a == text with
    | none => exact absurd (List.find?_eq_none.1 hf a (complete a)) (by simp [h])
    | some b =>
      have hb : name b = text := by simpa using List.find?_some hf
      rw [name_inj b a (hb.trans h.symm)]

/-- A member as messages show it: vocabulary, capital name, and name between quotes. -/
def labelled (a : α) : String :=
  "<" ++ title α ++ "." ++ upperName (name a) ++ ": '" ++ name a ++ "'>"
where
  upperName (s : String) : String := String.ofList (s.toList.map Char.toUpper)

end Vocabulary

/-- What a caller handed over where a member of a vocabulary belongs. -/
inductive Offered (α : Type) where
  | member (a : α)
  /-- Plain data, not checked. -/
  | raw (v : Value)
  deriving Repr, Inhabited

namespace Offered

variable {α : Type} [Vocabulary α]

/-- The member, if one was handed over. -/
def member? : Offered α → Option α
  | .member a => some a
  | .raw _ => none

/-- The member that a look-up finds: a member itself, or the one whose name the text is. -/
def denoted? : Offered α → Option α
  | .member a => some a
  | .raw (.text s) => Vocabulary.ofName? s
  | .raw _ => none

def shown : Offered α → String
  | .member a => Vocabulary.labelled a
  | .raw v => v.literal

end Offered

end TenantAccess

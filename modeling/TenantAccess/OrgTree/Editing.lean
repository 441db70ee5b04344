import TenantAccess.OrgTree.Basic

/-! # Edits under way

An edit reads the tree, may be refused, and writes to the tree, in an order of its own. A refusal
takes nothing back: what was written before it stays. That no edit writes before its last refusal
is therefore a property of each edit, and not of the way in which edits are put together.
-/

namespace TenantAccess

/-- A tree edit under way. -/
abbrev Editing (α : Type) : Type := ExceptT Failure (StateM OrgTree) α

namespace Editing

variable {α β : Type}

/-- Read something off the tree. -/
def look (question : OrgTree → α) : Editing α := fun t => (.ok (question t), t)

/-- Go on with what a check finds, unless it refuses. -/
def check (question : OrgTree → Except Failure α) : Editing α := fun t => (question t, t)

def write (change : OrgTree → OrgTree) : Editing Unit := fun t => (.ok (), change t)

/-- What an edit answers on a tree, and the tree that it leaves. -/
def on (x : Editing α) (t : OrgTree) : Except Failure α × OrgTree := x t

/-! ## What each part of an edit does

The proofs in parentheses keep these equations from being used by computation: a kernel that has to
see through a whole edit at once takes long. -/

@[simp] theorem on_pure (a : α) (t : OrgTree) : (pure a : Editing α).on t = (.ok a, t) := rfl

@[simp] theorem on_look_bind (question : OrgTree → α) (rest : α → Editing β) (t : OrgTree) :
    (look question >>= rest).on t = (rest (question t)).on t := (rfl)

@[simp] theorem on_write_bind (change : OrgTree → OrgTree) (rest : Unit → Editing β)
    (t : OrgTree) : (write change >>= rest).on t = (rest ()).on (change t) := (rfl)

theorem on_bind (x : Editing α) (rest : α → Editing β) (t : OrgTree) :
    (x >>= rest).on t =
      match x.on t with
      | (.ok a, next) => (rest a).on next
      | (.error f, next) => (.error f, next) := by
  simp only [on, bind, ExceptT.bind, ExceptT.mk, StateT.bind]
  rcases x t with ⟨answer, next⟩
  cases answer <;> rfl

end Editing

end TenantAccess

import TenantAccess.Fault
import TenantAccess.Hierarchy.Row

/-! # Submitted rules

A writer submits rules by key. Until they are vetted, keys and rules may be anything; a text
counts as the same key as the member it names. Vetting accepts pairs of members with
overrides and nothing else.
-/

namespace TenantAccess

/-- What a writer uses as the key of a rule. -/
inductive RuleKey where
  /-- A resource and an action, handed over. -/
  | pair (r : Offered Resource) (a : Offered Action)
  | other (v : Value)
  deriving Repr, Inhabited

/-- What a writer submits as a rule. -/
inductive OfferedRule where
  | override (o : Override)
  | other (v : Value)
  deriving Repr, Inhabited

namespace RuleKey

def ofPair (p : Pair) : RuleKey := .pair (.member p.resource) (.member p.action)

/-- Whether two keys count as the same. -/
def same : RuleKey → RuleKey → Bool
  | .pair r a, .pair s b => PairKey.ofOffered r a == PairKey.ofOffered s b
  | .other v, .other w => Value.alike v w
  | _, _ => false

def shown : RuleKey → String
  | .pair r a => "(" ++ r.shown ++ ", " ++ a.shown ++ ")"
  | .other v => v.literal

/-- The pair that a key is, if it is one. -/
def pair? : RuleKey → Option Pair
  | .pair r a => (PairKey.ofOffered r a).pair?
  | .other _ => none

end RuleKey

namespace OfferedRule

/-- The rule, unless it is nothing. -/
def given? : OfferedRule → Option OfferedRule
  | .other .null => none
  | rule => some rule

/-- The override, if that is what was submitted. -/
def override? : OfferedRule → Option Override
  | .override o => some o
  | .other _ => none

/-- Whether a rule takes access away; what is no override does not. -/
def isDeny : OfferedRule → Bool
  | .override o => o.isDeny
  | .other _ => false

/-- Whether two rules are equal. -/
def alike : OfferedRule → OfferedRule → Bool
  | .override o, .override p => o == p
  | .other v, .other w => Value.alike v w
  | _, _ => false

end OfferedRule

/-- Rules as a writer submits them. -/
abbrev Submission := List (RuleKey × OfferedRule)

namespace Submission

/-- Submit a rule: in place of one with the same key, else at the end. -/
def put (key : RuleKey) (rule : OfferedRule) : Submission → Submission
  | [] => [(key, rule)]
  | (k, r) :: rest => if k.same key then (k, rule) :: rest else (k, r) :: put key rule rest

def remove (key : RuleKey) (s : Submission) : Submission := s.filter fun row => !row.1.same key

/-- A submission of several rules; a later one replaces an earlier one of the same key. -/
def ofList (rules : List (RuleKey × OfferedRule)) : Submission :=
  rules.foldl (fun s row => put row.1 row.2 s) []

/-- The rule under a key. A key may be there without a rule. -/
def rule? (s : Submission) (key : RuleKey) : Option OfferedRule :=
  (s.find? fun row => row.1.same key).bind fun row => row.2.given?

/-- The overrides that are filed under pairs. -/
def sound (s : Submission) : RuleTable :=
  Table.ofList <| s.filterMap fun row => do return (← row.1.pair?, ← row.2.override?)

/-- Equality of submissions; the order does not matter. -/
def alike (s t : Submission) : Bool :=
  s.length == t.length && s.all fun row =>
    match t.find? fun other => other.1.same row.1 with
    | some other => row.2.alike other.2
    | none => false

/-- The rules of a stored row, submitted again. -/
def ofRules (rules : RuleTable) : Submission :=
  rules.rows.map fun (pair, rule) => (.ofPair pair, .override rule)

/-- Accept one rule; its key is looked at first. -/
def vetRule (key : RuleKey) (rule : OfferedRule) : Except Fault (Pair × Override) :=
  match key with
  | .other _ => .error (.ruleKeyInvalid key.shown)
  | .pair r a =>
    match Pair.ofOffered? r a with
    | none => .error (.ruleKeyInvalid key.shown)
    | some pair =>
      match rule with
      | .override o => .ok (pair, o)
      | .other _ => .error (.ruleInvalid pair)

/-- Accept all rules, or name the first that is out of order. -/
def vet (s : Submission) : Except Fault RuleTable :=
  (s.mapM fun row => vetRule row.1 row.2).map Table.ofList

end Submission

end TenantAccess

import TenantAccess.Proofs.Matrix.Resubmission

/-! # Edits of one rule

A writer may change one rule of a row and leave the others to the store. Edits of different pairs of one row
do not meet: in whatever order they are issued, each on the version that it finds, the same of them are
carried out and the row comes to say the same.
-/

namespace TenantAccess

/-- The rules that a row has; a row that is not there has none. -/
def heldRules (current : Option Row) : RuleTable := (current.map (·.rules)).getD .empty

theorem get?_heldRules (current : Option Row) (p : Pair) :
    (heldRules current).get? p = current.bind (·.ruleFor p) := by
  cases current <;> rfl

namespace RuleWrite

variable {w : RuleWrite} {current : Option Row} {after : RuleTable}

/-- The row that the rule is in. -/
def key (w : RuleWrite) : RowKey := ⟨w.kind, w.entityId, w.role⟩

/-- The key of the rule. -/
def ruleKey (w : RuleWrite) : RuleKey := .pair w.resource w.action

/-- The pair that the rule is for. -/
def pair? (w : RuleWrite) : Option Pair := w.ruleKey.pair?

/-- The rule is taken back, or it is an override for a pair that has a rule already or is handed over by its
members. -/
def Vetted (w : RuleWrite) (current : Option Row) : Prop :=
  ∀ rule, w.rule = some rule → ∃ p o, w.pair? = some p ∧ rule = .override o ∧
    (w.ruleKey = .ofPair p ∨ ∃ old, current.bind (·.ruleFor p) = some old)

theorem vet_editedRules_eq (w : RuleWrite) (current : Option Row) :
    Submission.vet (MatrixStore.editedRules current w.ruleKey w.rule) =
      match w.rule with
      | none => .ok ((heldRules current).filter fun p _ => w.pair? ≠ some p)
      | some rule => Submission.vet (.put w.ruleKey rule (.ofRules (heldRules current))) := by
  have submitted : (current.map fun row => Submission.ofRules row.rules).getD [] =
      Submission.ofRules (heldRules current) := by
    cases current <;> rfl
  simp only [MatrixStore.editedRules, submitted]
  cases w.rule with
  | none => exact Submission.vet_remove _ _
  | some rule => rfl

theorem vetted_iff (w : RuleWrite) (current : Option Row) :
    w.Vetted current ↔
      ∃ after, Submission.vet (MatrixStore.editedRules current w.ruleKey w.rule) = .ok after := by
  rw [vet_editedRules_eq]
  cases given : w.rule with
  | none => simp [Vetted, given]
  | some rule =>
      simp only [Submission.vet_put_eq_ok_iff, get?_heldRules, Vetted, given, Option.some.injEq, pair?]
      constructor
      · intro accepted
        obtain ⟨p, o, named, overrides, there⟩ := accepted rule rfl
        exact ⟨_, p, o, named, overrides, there, rfl⟩
      · rintro ⟨_, p, o, named, overrides, there, -⟩ _ rfl
        exact ⟨p, o, named, overrides, there⟩

/-- The rules once one of them was edited. -/
theorem get?_of_vet (w : RuleWrite) (current : Option Row)
    (done : Submission.vet (MatrixStore.editedRules current w.ruleKey w.rule) = .ok after) (p : Pair) :
    after.get? p =
      if w.pair? = some p then w.rule.bind (·.override?) else current.bind (·.ruleFor p) := by
  rw [vet_editedRules_eq] at done
  cases given : w.rule with
  | none =>
      rw [given] at done
      cases done
      rw [Table.get?_filter, get?_heldRules]
      by_cases named : w.pair? = some p
      · cases current.bind (·.ruleFor p) <;> simp [named]
      · cases current.bind (·.ruleFor p) <;> simp [named]
  | some rule =>
      rw [given] at done
      obtain ⟨q, o, named, rfl, -, rfl⟩ := Submission.vet_put_eq_ok_iff.mp done
      change w.pair? = some q at named
      simp only [Table.get?_put, get?_heldRules, named, Option.some.injEq]
      rfl

/-- The write is in order, and its rule is accepted. -/
structure Acceptable (w : RuleWrite) (current : Option Row) : Prop where
  entity : w.entityId ≠ ""
  organization : w.organizationId ≠ ""
  role : w.role ≠ ""
  own : w.kind = .organization → w.entityId = w.organizationId
  vetted : w.Vetted current

/-- A row with just one rule edited. -/
structure Edits (w : RuleWrite) (openByDefault : Bool) (old : Option Row) (new : Row) : Prop where
  key : new.key = w.key
  organizationId : new.organizationId = w.organizationId
  /-- The rule of the pair is the one that was written, or none. -/
  rule : ∀ p, w.pair? = some p → new.ruleFor p = w.rule.bind (·.override?)
  /-- Every other pair keeps its rule. -/
  others : ∀ p, w.pair? ≠ some p → new.ruleFor p = old.bind (·.ruleFor p)
  /-- A row that was there keeps its word on rules further down, and counts one up. -/
  kept : ∀ held, old = some held →
    new.allowsChildren = held.allowsChildren ∧ new.version = held.version + 1
  /-- A new one leaves that to the default, and starts at one. -/
  created : old = none → new.allowsChildren = openByDefault ∧ new.version = 1

end RuleWrite

namespace MatrixStore

variable {s : MatrixStore} {openByDefault : Bool} {w : RuleWrite} {row : Row}

theorem vetRow_editing :
    w.Acceptable (s.get? w.key) ↔ ∃ row, vetRow openByDefault (s.editing w) = .ok row := by
  have rules := w.vetted_iff (s.get? w.key)
  simp only [vetRow_eq_ok_iff, checkIds_eq_ok_iff]
  constructor
  · rintro ⟨entity, organization, role, own, vetted⟩
    obtain ⟨after, done⟩ := rules.mp vetted
    exact ⟨_, ⟨entity, organization, role, own⟩, after, done, rfl⟩
  · rintro ⟨_, ⟨entity, organization, role, own⟩, after, done, -⟩
    exact ⟨entity, organization, role, own, rules.mpr ⟨after, done⟩⟩

theorem edits_of_vetRow (vetted : vetRow openByDefault (s.editing w) = .ok row)
    (current : s.version w.key = w.expected) :
    w.Edits openByDefault (s.get? w.key) { row with version := w.expected.getD 0 + 1 } := by
  obtain ⟨-, after, done, rfl⟩ := vetRow_eq_ok_iff.mp vetted
  have rules := w.get?_of_vet (s.get? w.key) done
  have flag : (s.editing w).allowsChildren = (s.get? w.key).map (·.allowsChildren) := rfl
  refine ⟨rfl, rfl, fun p named => ?_, fun p other => ?_, fun held found => ?_, fun free => ?_⟩
  · rw [Row.ruleFor, rules, if_pos named]
  · rw [Row.ruleFor, rules, if_neg other]
  · rw [flag, ← current, version_of_get? found, found]
    exact ⟨rfl, rfl⟩
  · have absent : s.version w.key = none := congrArg (Option.map _) free
    rw [flag, ← current, absent, free]
    exact ⟨rfl, rfl⟩

/-- A change of one rule is carried out where it is acceptable and names the version that is stored. -/
theorem setRule_of_acceptable (openByDefault : Bool) (acceptable : w.Acceptable (s.get? w.key))
    (current : s.version w.key = w.expected) :
    ∃ row, w.Edits openByDefault (s.get? w.key) row ∧ s.setRule openByDefault w =
      ⟨.ok row, ⟨s.rows.put w.key row⟩, some w.organizationId, [storedEntry row]⟩ := by
  obtain ⟨row, vetted⟩ := vetRow_editing.mp acceptable
  exact ⟨_, edits_of_vetRow vetted current, upsert_of_current vetted current⟩

theorem setRule_of_not (openByDefault : Bool)
    (refused : ¬ (w.Acceptable (s.get? w.key) ∧ s.version w.key = w.expected)) :
    ∃ f, s.setRule openByDefault w = s.unchanged f := by
  rw [setRule_eq_upsert]
  cases vetted : vetRow openByDefault (s.editing w) with
  | error f => exact ⟨f, by simp only [upsert, vetted]⟩
  | ok row =>
      refine upsert_of_stale vetted fun current => refused ⟨?_, current⟩
      exact vetRow_editing.mpr ⟨row, vetted⟩

theorem setRule_eq_ok_iff :
    (∃ row, (s.setRule openByDefault w).answer = .ok row) ↔
      w.Acceptable (s.get? w.key) ∧ s.version w.key = w.expected := by
  constructor
  · rintro ⟨row, answered⟩
    by_contra refused
    obtain ⟨f, unchanged⟩ := setRule_of_not openByDefault refused
    cases unchanged ▸ answered
  · rintro ⟨acceptable, current⟩
    obtain ⟨row, -, done⟩ := setRule_of_acceptable openByDefault acceptable current
    exact ⟨row, congrArg Written.answer done⟩

theorem edits_of_setRule (answered : (s.setRule openByDefault w).answer = .ok row) :
    w.Edits openByDefault (s.get? w.key) row ∧
      (s.setRule openByDefault w).store = ⟨s.rows.put w.key row⟩ := by
  obtain ⟨acceptable, current⟩ := setRule_eq_ok_iff.mp ⟨row, answered⟩
  obtain ⟨row', edits, done⟩ := setRule_of_acceptable openByDefault acceptable current
  rw [done] at answered ⊢
  cases answered
  exact ⟨edits, rfl⟩

end MatrixStore

/-! ## Edits that do not meet -/

/-- Rows that say the same, whatever the order of their rules. -/
structure Row.Agrees (a b : Row) : Prop where
  key : a.key = b.key
  organizationId : a.organizationId = b.organizationId
  allowsChildren : a.allowsChildren = b.allowsChildren
  version : a.version = b.version
  ruleFor : ∀ p, a.ruleFor p = b.ruleFor p

/-- There is no row, or there are rows that say the same. -/
abbrev Row.Match : Option Row → Option Row → Prop := Option.Rel Row.Agrees

namespace Row

variable {a b c : Row} {x y z : Option Row}

theorem Agrees.rfl : a.Agrees a := ⟨by rfl, by rfl, by rfl, by rfl, fun _ => by rfl⟩

theorem Agrees.trans (first : a.Agrees b) (second : b.Agrees c) : a.Agrees c where
  key := first.key.trans second.key
  organizationId := first.organizationId.trans second.organizationId
  allowsChildren := first.allowsChildren.trans second.allowsChildren
  version := first.version.trans second.version
  ruleFor p := (first.ruleFor p).trans (second.ruleFor p)

theorem Match.rfl : Match x x := by
  cases x with
  | none => exact .none
  | some row => exact .some .rfl

theorem Match.trans (first : Match x y) (second : Match y z) : Match x z := by
  cases first with
  | none => exact second
  | some agrees =>
      cases second with
      | some agrees' => exact .some (Agrees.trans agrees agrees')

theorem Match.bind_ruleFor (same : Match x y) (p : Pair) :
    x.bind (·.ruleFor p) = y.bind (·.ruleFor p) := by
  cases same with
  | none => exact Eq.refl none
  | some agrees => exact agrees.ruleFor p

end Row

namespace RuleWrite

variable {w first second : RuleWrite} {openByDefault : Bool} {old old' : Option Row} {a b c d : Row}

theorem Acceptable.of_ruleFor
    (same : ∀ p, w.pair? = some p → old.bind (·.ruleFor p) = old'.bind (·.ruleFor p))
    (acceptable : w.Acceptable old) : w.Acceptable old' where
  entity := acceptable.entity
  organization := acceptable.organization
  role := acceptable.role
  own := acceptable.own
  vetted rule given := by
    obtain ⟨p, o, named, overrides, there⟩ := acceptable.vetted rule given
    exact ⟨p, o, named, overrides, same p named ▸ there⟩

/-- What an edit makes of the count and of the word on rules further down does not depend on its rule. -/
theorem Edits.counts_alike (edits : first.Edits openByDefault old a)
    (edits' : second.Edits openByDefault old' b) (same : Row.Match old old') :
    a.allowsChildren = b.allowsChildren ∧ a.version = b.version := by
  cases same with
  | none =>
      obtain ⟨open_a, one_a⟩ := edits.created rfl
      obtain ⟨open_b, one_b⟩ := edits'.created rfl
      exact ⟨open_a.trans open_b.symm, one_a.trans one_b.symm⟩
  | some agrees =>
      obtain ⟨open_a, next_a⟩ := edits.kept _ rfl
      obtain ⟨open_b, next_b⟩ := edits'.kept _ rfl
      rw [open_a, open_b, next_a, next_b, agrees.allowsChildren, agrees.version]
      exact ⟨rfl, rfl⟩

/-- An edit makes the same of rows that say the same. -/
theorem Edits.agrees (edits : w.Edits openByDefault old a) (edits' : w.Edits openByDefault old' b)
    (same : Row.Match old old') : a.Agrees b := by
  obtain ⟨allows, version⟩ := edits.counts_alike edits' same
  refine ⟨edits.key.trans edits'.key.symm, edits.organizationId.trans edits'.organizationId.symm,
    allows, version, fun p => ?_⟩
  by_cases named : w.pair? = some p
  · rw [edits.rule p named, edits'.rule p named]
  · rw [edits.others p named, edits'.others p named, same.bind_ruleFor p]

/-- Both are edits of one row, for an organization, and of no common pair. -/
structure Apart (first second : RuleWrite) : Prop where
  key : first.key = second.key
  organizationId : first.organizationId = second.organizationId
  pair : ∀ p, first.pair? = some p → second.pair? ≠ some p

theorem Apart.symm (apart : first.Apart second) : second.Apart first where
  key := apart.key.symm
  organizationId := apart.organizationId.symm
  pair p named named' := apart.pair p named' named

/-- Two edits of different pairs make the same of a row in either order. -/
theorem Apart.agrees (apart : first.Apart second) (one : first.Edits openByDefault old a)
    (then_two : second.Edits openByDefault (some a) b) (two : second.Edits openByDefault old c)
    (then_one : first.Edits openByDefault (some c) d) : b.Agrees d := by
  obtain ⟨open_b, next_b⟩ := then_two.kept a rfl
  obtain ⟨open_d, next_d⟩ := then_one.kept c rfl
  obtain ⟨allows, version⟩ := one.counts_alike two .rfl
  refine ⟨?_, ?_, ?_, ?_, fun p => ?_⟩
  · rw [then_two.key, then_one.key, apart.key]
  · rw [then_two.organizationId, then_one.organizationId, apart.organizationId]
  · rw [open_b, open_d, allows]
  · rw [next_b, next_d, version]
  · by_cases ours : first.pair? = some p
    · have theirs := apart.pair p ours
      rw [then_two.others p theirs, then_one.rule p ours]
      exact one.rule p ours
    · by_cases theirs : second.pair? = some p
      · rw [then_two.rule p theirs, then_one.others p ours]
        exact (two.rule p theirs).symm
      · rw [then_two.others p theirs, then_one.others p ours]
        exact (one.others p ours).trans (two.others p theirs).symm

/-- What becomes of the row of an edit that is issued on the version that it finds. -/
inductive Turns (w : RuleWrite) (openByDefault : Bool) (old : Option Row) : Option Row → Prop where
  | edited {new : Row} (acceptable : w.Acceptable old) (edits : w.Edits openByDefault old new) :
      Turns w openByDefault old (some new)
  | refused (unacceptable : ¬ w.Acceptable old) : Turns w openByDefault old old

variable {x y x' y' : Option Row}

theorem Turns.matches (turns : w.Turns openByDefault x x') (turns' : w.Turns openByDefault y y')
    (same : Row.Match x y) : Row.Match x' y' := by
  have accepted : w.Acceptable x ↔ w.Acceptable y :=
    ⟨.of_ruleFor fun p _ => same.bind_ruleFor p, .of_ruleFor fun p _ => (same.bind_ruleFor p).symm⟩
  cases turns with
  | edited acceptable edits =>
      cases turns' with
      | edited _ edits' => exact .some (edits.agrees edits' same)
      | refused unacceptable => exact absurd (accepted.mp acceptable) unacceptable
  | refused unacceptable =>
      cases turns' with
      | edited acceptable => exact absurd (accepted.mpr acceptable) unacceptable
      | refused => exact same

/-- An edit is accepted after one that does not meet it where it was before. -/
theorem Apart.acceptable_iff (apart : first.Apart second)
    (turns : first.Turns openByDefault x y) : second.Acceptable y ↔ second.Acceptable x := by
  have same (p : Pair) (theirs : second.pair? = some p) :
      y.bind (·.ruleFor p) = x.bind (·.ruleFor p) := by
    cases turns with
    | edited _ edits => exact edits.others p fun ours => apart.pair p ours theirs
    | refused => rfl
  exact ⟨.of_ruleFor same, .of_ruleFor fun p theirs => (same p theirs).symm⟩

theorem Apart.matches (apart : first.Apart second) (one : first.Turns openByDefault old x)
    (then_two : second.Turns openByDefault x x') (two : second.Turns openByDefault old y)
    (then_one : first.Turns openByDefault y y') : Row.Match x' y' := by
  have second_too := apart.acceptable_iff one
  have first_too := apart.symm.acceptable_iff two
  cases one with
  | edited acceptable edits =>
      cases then_two with
      | edited acceptable' then_edits =>
          cases two with
          | edited _ edits' =>
              cases then_one with
              | edited _ then_edits' => exact .some (apart.agrees edits then_edits edits' then_edits')
              | refused unacceptable => exact absurd (first_too.mpr acceptable) unacceptable
          | refused unacceptable => exact absurd (second_too.mp acceptable') unacceptable
      | refused unacceptable =>
          cases two with
          | edited acceptable' => exact absurd (second_too.mpr acceptable') unacceptable
          | refused => exact (Turns.edited acceptable edits).matches then_one .rfl
  | refused unacceptable =>
      cases then_one with
      | edited acceptable => exact absurd (first_too.mp acceptable) unacceptable
      | refused => exact then_two.matches two .rfl

end RuleWrite

namespace MatrixStore

variable {s t : MatrixStore} {openByDefault : Bool} {w first second : RuleWrite}

/-- The write as it is issued to a store: on the version that is stored. -/
def issuing (s : MatrixStore) (w : RuleWrite) : RuleWrite := { w with expected := s.version w.key }

/-- Issue an edit on the version that is stored. -/
def issue (openByDefault : Bool) (s : MatrixStore) (w : RuleWrite) : MatrixStore :=
  (s.setRule openByDefault (s.issuing w)).store

/-- An edit that is issued is carried out. -/
def Takes (openByDefault : Bool) (s : MatrixStore) (w : RuleWrite) : Prop :=
  ∃ row, (s.setRule openByDefault (s.issuing w)).answer = .ok row

theorem acceptable_issuing {current : Option Row} :
    (s.issuing w).Acceptable current ↔ w.Acceptable current :=
  ⟨fun ⟨entity, organization, role, own, vetted⟩ => ⟨entity, organization, role, own, vetted⟩,
    fun ⟨entity, organization, role, own, vetted⟩ => ⟨entity, organization, role, own, vetted⟩⟩

theorem edits_of_issuing {old : Option Row} {new : Row}
    (edits : (s.issuing w).Edits openByDefault old new) : w.Edits openByDefault old new :=
  ⟨edits.key, edits.organizationId, edits.rule, edits.others, edits.kept, edits.created⟩

theorem takes_iff : s.Takes openByDefault w ↔ w.Acceptable (s.get? w.key) := by
  rw [Takes, setRule_eq_ok_iff, acceptable_issuing]
  exact and_iff_left rfl

theorem turns_issue (openByDefault : Bool) (s : MatrixStore) (w : RuleWrite) :
    w.Turns openByDefault (s.get? w.key) ((s.issue openByDefault w).get? w.key) ∧
      ∀ key, w.key ≠ key → (s.issue openByDefault w).get? key = s.get? key := by
  by_cases acceptable : w.Acceptable (s.get? w.key)
  · obtain ⟨row, edits, done⟩ := setRule_of_acceptable openByDefault
      (acceptable_issuing.mpr acceptable) (Eq.refl (s.version w.key))
    have stored : s.issue openByDefault w = ⟨s.rows.put w.key row⟩ := congrArg Written.store done
    refine ⟨?_, fun key elsewhere => ?_⟩
    · rw [stored, get?_put, if_pos rfl]
      exact .edited acceptable (edits_of_issuing edits)
    · rw [stored, get?_put, if_neg elsewhere]
  · obtain ⟨f, refused⟩ := setRule_of_not openByDefault (s := s) (w := s.issuing w)
      fun taken => acceptable (acceptable_issuing.mp taken.1)
    have same : s.issue openByDefault w = s := congrArg Written.store refused
    rw [same]
    exact ⟨.refused acceptable, fun key _ => rfl⟩

theorem get?_issue_of_ne {key : RowKey} (elsewhere : w.key ≠ key) :
    (s.issue openByDefault w).get? key = s.get? key :=
  (turns_issue openByDefault s w).2 key elsewhere

/-- Stores whose rows say the same. -/
def Match (s t : MatrixStore) : Prop := ∀ key, Row.Match (s.get? key) (t.get? key)

theorem Match.issue (same : s.Match t) (openByDefault : Bool) (w : RuleWrite) :
    (s.issue openByDefault w).Match (t.issue openByDefault w) := by
  intro key
  by_cases here : w.key = key
  · subst here
    exact (turns_issue openByDefault s w).1.matches (turns_issue openByDefault t w).1 (same w.key)
  · rw [get?_issue_of_ne here, get?_issue_of_ne here]
    exact same key

/-- Two edits of different pairs of a row lead to the same store in either order. -/
theorem issue_comm (apart : first.Apart second) (openByDefault : Bool) (s : MatrixStore) :
    ((s.issue openByDefault first).issue openByDefault second).Match
      ((s.issue openByDefault second).issue openByDefault first) := by
  intro key
  by_cases here : first.key = key
  · subst here
    have one := (turns_issue openByDefault s first).1
    have two := (turns_issue openByDefault s second).1
    have then_two := (turns_issue openByDefault (s.issue openByDefault first) second).1
    have then_one := (turns_issue openByDefault (s.issue openByDefault second) first).1
    rw [← apart.key] at two then_two
    exact apart.matches one then_two two then_one
  · have here' : second.key ≠ key := apart.key ▸ here
    rw [get?_issue_of_ne here', get?_issue_of_ne here, get?_issue_of_ne here, get?_issue_of_ne here']
    exact .rfl

/-- Issue edits one after another. -/
def issueAll (openByDefault : Bool) (s : MatrixStore) (edits : List RuleWrite) : MatrixStore :=
  edits.foldl (issue openByDefault) s

theorem Match.issueAll (same : s.Match t) (openByDefault : Bool) (edits : List RuleWrite) :
    (s.issueAll openByDefault edits).Match (t.issueAll openByDefault edits) := by
  induction edits generalizing s t with
  | nil => exact same
  | cons w rest ih => exact ih (same.issue openByDefault w)

/-- Any number of edits of different pairs of a row lead to the same store in any order. -/
theorem issueAll_perm {edits edits' : List RuleWrite} (reordered : edits.Perm edits')
    (apart : edits.Pairwise RuleWrite.Apart) (openByDefault : Bool) (s : MatrixStore) :
    (s.issueAll openByDefault edits).Match (s.issueAll openByDefault edits') := by
  induction reordered generalizing s with
  | nil => exact fun key => .rfl
  | cons w _ ih => exact ih (List.pairwise_cons.mp apart).2 (s.issue openByDefault w)
  | swap second first rest =>
      obtain ⟨meets, -⟩ := List.pairwise_cons.mp apart
      exact (issue_comm (meets second List.mem_cons_self) openByDefault s).issueAll openByDefault rest
  | trans earlier later ih ih' =>
      have apart' := earlier.pairwise apart fun {_ _} meets => meets.symm
      exact fun key => Row.Match.trans (ih apart s key) (ih' apart' s key)

/-- A change of one rule is carried out where it is acceptable and names the version that is stored. Then the
one row that it writes is the row that was there with just this rule put in or taken out, or a new row with
at most this rule. Two such changes for different pairs of a row, each issued on the version that it finds,
are each carried out in the one order where they are in the other, and lead to stores whose rows say the
same. -/
theorem setRule_edits_one (openByDefault : Bool) (s : MatrixStore) :
    (∀ w, (∃ row, (s.setRule openByDefault w).answer = .ok row) ↔
      w.Acceptable (s.get? w.key) ∧ s.version w.key = w.expected) ∧
    (∀ w row, (s.setRule openByDefault w).answer = .ok row →
      w.Edits openByDefault (s.get? w.key) row ∧
      (∀ rule, w.rule = some rule →
        ∃ p o, w.pair? = some p ∧ rule = .override o ∧ row.ruleFor p = some o) ∧
      (s.setRule openByDefault w).store = ⟨s.rows.put w.key row⟩) ∧
    ∀ first second : RuleWrite, first.Apart second →
      (s.Takes openByDefault first ↔ (s.issue openByDefault second).Takes openByDefault first) ∧
      (s.Takes openByDefault second ↔ (s.issue openByDefault first).Takes openByDefault second) ∧
      ((s.issue openByDefault first).issue openByDefault second).Match
        ((s.issue openByDefault second).issue openByDefault first) := by
  have taken {first second : RuleWrite} (apart : first.Apart second) :
      s.Takes openByDefault second ↔ (s.issue openByDefault first).Takes openByDefault second := by
    rw [takes_iff, takes_iff, ← apart.key]
    exact (apart.acceptable_iff (turns_issue openByDefault s first).1).symm
  refine ⟨fun w => setRule_eq_ok_iff, fun w row answered => ?_, fun first second apart => ?_⟩
  · obtain ⟨edits, stored⟩ := edits_of_setRule answered
    refine ⟨edits, fun rule given => ?_, stored⟩
    have acceptable := (setRule_eq_ok_iff.mp ⟨row, answered⟩).1
    obtain ⟨p, o, named, overrides, -⟩ := acceptable.vetted rule given
    refine ⟨p, o, named, overrides, ?_⟩
    rw [edits.rule p named, given, overrides]
    rfl
  · exact ⟨taken apart.symm, taken apart, issue_comm apart openByDefault s⟩

end MatrixStore

namespace Sample

/-- At the team, viewers are denied to see tasks. -/
def hide : RuleWrite :=
  ⟨.team, "t-1", "org-1", "viewer", .member .task, .member .view, some (.override .denying), none⟩

/-- At the team, nothing is said any more of viewers deleting tasks, by the names of task and deletion. -/
def takeBack : RuleWrite :=
  ⟨.team, "t-1", "org-1", "viewer", .raw (.text "task"), .raw (.text "delete"), none, none⟩

def hiddenRow : Row :=
  ⟨.team, "t-1", "org-1", "viewer", .ofList [(⟨.task, .view⟩, .denying)], 1, false⟩

end Sample

open Sample in
/-- The first write to a row starts it at version one, and another pair may be edited before it or after. -/
theorem MatrixStore.hide_and_takeBack :
    (empty.setRule false hide).answer = .ok hiddenRow ∧ hide.Edits false none hiddenRow ∧
      hide.Apart takeBack ∧
      ((empty.issue false hide).issue false takeBack).Match
        ((empty.issue false takeBack).issue false hide) := by
  have answered : (empty.setRule false hide).answer = .ok hiddenRow := by rfl
  have apart : hide.Apart takeBack := by
    refine ⟨rfl, rfl, fun p named => ?_⟩
    have same : (⟨.task, .view⟩ : Pair) = p := Option.some.inj named
    subst same
    decide
  obtain ⟨-, edits, commute⟩ := setRule_edits_one false empty
  exact ⟨answered, (edits hide hiddenRow answered).1, apart, (commute hide takeBack apart).2.2⟩

end TenantAccess

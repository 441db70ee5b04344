import TenantAccess.Proofs.Matrix.Outcomes

/-! # Rules submitted again

A row is changed by submitting its rules again with one of them put in or taken out. Vetting accepts what is
an override under the members of a pair, and nothing else; what a row holds is just that, so only the rule
that is new can be refused, and one that comes under the names of a pair only where the row has none for it.
-/

namespace TenantAccess

namespace RuleKey

variable {key : RuleKey} {p : Pair}

theorem ofPair_same_iff : (ofPair p).same key = true ↔ key.pair? = some p := by
  cases key with
  | other v => simp [same, ofPair, pair?]
  | pair r a =>
      have halves : (ofPair p).same (.pair r a) = (PairKey.ofPair p == PairKey.ofOffered r a) := rfl
      rw [halves, beq_iff_eq, pair?]
      constructor
      · intro equal
        rw [← equal, PairKey.pair?_ofPair]
      · exact PairKey.ofPair_of_pair?

@[simp] theorem pair?_ofPair (p : Pair) : (ofPair p).pair? = some p := rfl

theorem ofPair_inj {q : Pair} (same : ofPair p = ofPair q) : p = q :=
  Option.some.inj (congrArg pair? same)

end RuleKey

namespace Submission

variable {key : RuleKey} {rule : OfferedRule} {rules after : RuleTable}

theorem vetRule_eq_ok_iff {found : Pair × Override} :
    vetRule key rule = .ok found ↔ key = .ofPair found.1 ∧ rule = .override found.2 := by
  obtain ⟨p, o⟩ := found
  cases key with
  | other v => simp [vetRule, RuleKey.ofPair]
  | pair r a =>
      cases r with
      | raw v => simp [vetRule, Pair.ofOffered?, Offered.member?, RuleKey.ofPair]
      | member r =>
          cases a with
          | raw v => simp [vetRule, Pair.ofOffered?, Offered.member?, RuleKey.ofPair]
          | member a =>
              obtain ⟨s, b⟩ := p
              cases rule <;> simp [vetRule, Pair.ofOffered?, Offered.member?, RuleKey.ofPair]

/-- Rules as they are submitted where every key is handed over by its members. -/
def inOrder (rows : List (Pair × Override)) : Submission :=
  rows.map fun row => (.ofPair row.1, .override row.2)

@[simp] theorem inOrder_nil : inOrder [] = [] := rfl

@[simp] theorem inOrder_cons (row : Pair × Override) (rest : List (Pair × Override)) :
    inOrder (row :: rest) = (.ofPair row.1, .override row.2) :: inOrder rest := rfl

theorem cons_eq_inOrder_iff {row : RuleKey × OfferedRule} {rest : Submission}
    {rows : List (Pair × Override)} :
    row :: rest = inOrder rows ↔ ∃ found more, vetRule row.1 row.2 = .ok found ∧
      rest = inOrder more ∧ rows = found :: more := by
  obtain ⟨key, rule⟩ := row
  simp only [vetRule_eq_ok_iff]
  constructor
  · intro same
    cases rows with
    | nil => cases same
    | cons found more =>
        cases same
        exact ⟨found, more, ⟨rfl, rfl⟩, rfl, rfl⟩
  · rintro ⟨found, more, ⟨rfl, rfl⟩, rfl, rfl⟩
    rfl

theorem mapM_vetRule_eq_ok_iff {s : Submission} {rows : List (Pair × Override)} :
    s.mapM (fun row => vetRule row.1 row.2) = .ok rows ↔ s = inOrder rows := by
  induction s generalizing rows with
  | nil => cases rows <;> simp [inOrder, pure, Except.pure]
  | cons row rest ih =>
      simp only [List.mapM_cons, bind, Except.bind, pure, Except.pure, cons_eq_inOrder_iff, ← ih]
      cases vetRule row.1 row.2 with
      | error f => simp
      | ok found => cases rest.mapM (fun row => vetRule row.1 row.2) <;> simp [eq_comm]

/-- A submission is accepted where every rule is an override under a key that is handed over by the members
of a pair. -/
theorem vet_eq_ok_iff {s : Submission} {rules : RuleTable} :
    vet s = .ok rules ↔ ∃ rows, s = inOrder rows ∧ rules = Table.ofList rows := by
  simp only [vet, ← mapM_vetRule_eq_ok_iff]
  cases s.mapM fun row => vetRule row.1 row.2 with
  | error f => simp [Except.map]
  | ok rows => simp [Except.map, eq_comm]

theorem inOrder_inj {rows rows' : List (Pair × Override)} (same : inOrder rows = inOrder rows') :
    rows = rows' := by
  have vetted := mapM_vetRule_eq_ok_iff.mpr (Eq.refl (inOrder rows))
  exact Except.ok.inj (vetted.symm.trans (mapM_vetRule_eq_ok_iff.mpr same))

/-- With one rule put in, rules in order stay so where the rule is an override and its key is a pair that is
there already or is handed over by its members. -/
theorem put_eq_inOrder_iff {rows rows' : List (Pair × Override)} :
    put key rule (inOrder rows) = inOrder rows' ↔
      ∃ p o, key.pair? = some p ∧ rule = .override o ∧
        (key = .ofPair p ∨ p ∈ rows.map Prod.fst) ∧ rows' = Table.putRow p o rows := by
  induction rows generalizing rows' with
  | nil =>
      rw [inOrder_nil, put, cons_eq_inOrder_iff]
      simp only [vetRule_eq_ok_iff]
      constructor
      · rintro ⟨⟨p, o⟩, more, ⟨rfl, rfl⟩, ends, rfl⟩
        cases more with
        | nil => exact ⟨p, o, rfl, rfl, .inl rfl, rfl⟩
        | cons => cases ends
      · rintro ⟨p, o, -, rfl, rfl | ⟨⟨⟩⟩, rfl⟩
        exact ⟨(p, o), [], ⟨rfl, rfl⟩, rfl, rfl⟩
  | cons row rest ih =>
      obtain ⟨q, held⟩ := row
      rw [inOrder_cons, put]
      by_cases here : key.pair? = some q
      · rw [if_pos (RuleKey.ofPair_same_iff.mpr here), cons_eq_inOrder_iff]
        simp only [vetRule_eq_ok_iff, here, Option.some.injEq]
        constructor
        · rintro ⟨⟨p, o⟩, more, ⟨same, rfl⟩, later, rfl⟩
          cases RuleKey.ofPair_inj same
          cases inOrder_inj later
          exact ⟨p, o, rfl, rfl, .inr List.mem_cons_self, (if_pos rfl).symm⟩
        · rintro ⟨p, o, rfl, rfl, -, rfl⟩
          exact ⟨(q, o), rest, ⟨rfl, rfl⟩, rfl, if_pos rfl⟩
      · have differs : ¬ (RuleKey.ofPair q).same key = true := fun same =>
          here (RuleKey.ofPair_same_iff.mp same)
        have other {p : Pair} (named : key.pair? = some p) : q ≠ p := by
          rintro rfl
          exact here named
        rw [if_neg differs, cons_eq_inOrder_iff]
        simp only [vetRule_eq_ok_iff]
        constructor
        · rintro ⟨⟨p, o⟩, more, ⟨same, ⟨⟩⟩, later, rfl⟩
          cases RuleKey.ofPair_inj same
          obtain ⟨p, o, named, rfl, there, rfl⟩ := ih.mp later
          refine ⟨p, o, named, rfl, there.imp_right (List.mem_cons_of_mem _), ?_⟩
          rw [Table.putRow, if_neg (other named)]
        · rintro ⟨p, o, named, rfl, there, rfl⟩
          rw [Table.putRow, if_neg (other named)]
          refine ⟨(q, held), _, ⟨rfl, rfl⟩, ih.mpr ⟨p, o, named, rfl, there.imp_right ?_, rfl⟩, rfl⟩
          intro inside
          exact (List.mem_cons.mp inside).resolve_left (other named).symm

theorem remove_inOrder (key : RuleKey) (rows : List (Pair × Override)) :
    remove key (inOrder rows) = inOrder (rows.filter fun row => key.pair? ≠ some row.1) := by
  rw [remove, inOrder, List.filter_map]
  refine congrArg inOrder (List.filter_congr fun row _ => ?_)
  simp [← RuleKey.ofPair_same_iff]

theorem vet_put_eq_ok_iff :
    vet (put key rule (ofRules rules)) = .ok after ↔
      ∃ p o, key.pair? = some p ∧ rule = .override o ∧
        (key = .ofPair p ∨ ∃ old, rules.get? p = some old) ∧ after = rules.put p o := by
  have listed (p : Pair) : (∃ old, rules.get? p = some old) ↔ p ∈ rules.rows.map Prod.fst := by
    rw [← Option.ne_none_iff_exists', ne_eq, Table.get?_eq_none_iff, not_not, Table.keys]
  have filed (p : Pair) (o : Override) :
      Table.ofList (Table.putRow p o rules.rows) = rules.put p o := (rules.put p o).ofList_rows
  change vet (put key rule (inOrder rules.rows)) = .ok after ↔ _
  simp only [vet_eq_ok_iff, put_eq_inOrder_iff, listed]
  constructor
  · rintro ⟨_, ⟨p, o, named, overrides, there, rfl⟩, rfl⟩
    exact ⟨p, o, named, overrides, there, filed p o⟩
  · rintro ⟨p, o, named, overrides, there, rfl⟩
    exact ⟨_, ⟨p, o, named, overrides, there, rfl⟩, (filed p o).symm⟩

theorem vet_remove (key : RuleKey) (rules : RuleTable) :
    vet (remove key (ofRules rules)) = .ok (rules.filter fun p _ => key.pair? ≠ some p) :=
  vet_eq_ok_iff.mpr ⟨_, remove_inOrder key rules.rows, (Table.ofList_rows _).symm⟩

end Submission

end TenantAccess

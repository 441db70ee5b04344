import TenantAccess.Proofs.Moves
import TenantAccess.Proofs.Place
import TenantAccess.Role.Registry

/-! # The life of a role table

A registry is asked, loaded and dropped in any order, and its loader may give other roles each time it is
called. Through all this the registry serves one whole list of roles: the one that was brought in last, by
a load or by a read that found nothing, unless the registry was dropped since. What it answers is what a
scan of that list finds. A list in which an identifier occurs twice is never served.
-/

namespace TenantAccess

open Moves

namespace RoleTable

variable {roles roles' : List Role} {t : RoleTable} {id : String}

/-- The roles have identifiers of their own. -/
def Apart (roles : List Role) : Prop := (roles.map (·.id)).Nodup

/-- The first role whose identifier is taken by an earlier one bears this identifier. -/
def FirstRepeat (roles : List Role) (id : String) : Prop :=
  ∃ earlier role later, roles = earlier ++ role :: later ∧ Apart earlier ∧
    role.id ∈ earlier.map (·.id) ∧ role.id = id

/-- The table files these roles, in their order, each under its own identifier. -/
def Files (t : RoleTable) (roles : List Role) : Prop :=
  t.rows = roles.map fun role => (role.id, role)

theorem Files.unique (h : t.Files roles) (h' : t.Files roles') : roles = roles' := by
  have values (list : List Role) : (list.map fun role => (role.id, role)).map Prod.snd = list := by
    simp [Function.comp_def]
  rw [← values roles, ← values roles', ← h, ← h']

theorem Files.keys (h : t.Files roles) : t.keys = roles.map (·.id) := by
  rw [Table.keys, h, List.map_map]
  rfl

theorem Files.apart (h : t.Files roles) : Apart roles := by
  rw [Apart, ← h.keys]
  exact t.keys_nodup

/-- Looking an identifier up is scanning the roles for it. -/
theorem Files.get?_eq (h : t.Files roles) (id : String) :
    t.get? id = roles.find? (·.id = id) := by
  have scanned (list : List Role) :
      Table.seek id (list.map fun role => (role.id, role)) = list.find? (·.id = id) := by
    induction list with
    | nil => rfl
    | cons role rest ih =>
        by_cases here : role.id = id <;> simp [Table.seek, here, ih]
  rw [Table.get?, h, scanned]

/-- Each identifier has the one role that was filed under it. -/
theorem Files.get?_eq_some_iff (h : t.Files roles) {role : Role} :
    t.get? id = some role ↔ role ∈ roles ∧ role.id = id := by
  constructor
  · intro held
    rw [h.get?_eq] at held
    exact ⟨List.mem_of_find?_eq_some held, by simpa using List.find?_some held⟩
  · rintro ⟨member, rfl⟩
    refine Table.get?_of_mem_rows ?_
    rw [h]
    exact List.mem_map_of_mem member

theorem FirstRepeat.not_apart (h : FirstRepeat roles id) : ¬ Apart roles := by
  obtain ⟨earlier, role, later, rfl, -, taken, rfl⟩ := h
  intro apart
  rw [Apart, List.map_append, List.map_cons] at apart
  exact (List.nodup_append.mp apart).2.2 role.id taken role.id List.mem_cons_self rfl

theorem FirstRepeat.append (h : FirstRepeat roles id) (more : List Role) :
    FirstRepeat (roles ++ more) id := by
  obtain ⟨earlier, role, later, rfl, apart, taken, same⟩ := h
  exact ⟨earlier, role, later ++ more, by simp, apart, taken, same⟩

/-- A list is filed as a whole, or refused for the first identifier that occurs again. -/
theorem build_cases (roles : List Role) :
    (∃ t : RoleTable, RoleTable.build roles = .ok t ∧ t.Files roles) ∨
      ∃ id, RoleTable.build roles = .error (.duplicateRole id) ∧ FirstRepeat roles id := by
  induction roles using List.reverseRecOn with
  | nil => exact .inl ⟨.empty, rfl, rfl⟩
  | append_singleton earlier role ih =>
      have snoc : RoleTable.build (earlier ++ [role]) =
          (RoleTable.build earlier).bind fun t => file t role := by
        rw [RoleTable.build, List.foldlM_append]
        change (RoleTable.build earlier).bind _ = _
        congr 1
        funext t
        simp only [List.foldlM_cons, List.foldlM_nil]
        cases file t role <;> rfl
      rw [snoc]
      rcases ih with ⟨t, built, files⟩ | ⟨id, refused, repeats⟩
      · rw [built]
        cases held : t.get? role.id with
        | some first =>
            obtain ⟨member, same⟩ := files.get?_eq_some_iff.mp held
            refine .inr ⟨role.id, ?_, earlier, role, [], rfl, files.apart, ?_, rfl⟩
            · simp [Except.bind, file, Table.contains, held]
            · exact same ▸ List.mem_map_of_mem member
        | none =>
            refine .inl ⟨t.put role.id role, ?_, ?_⟩
            · simp [Except.bind, file, Table.contains, held]
            · rw [Files, Table.rows_put_of_get?_none role held, files, List.map_append]
              rfl
      · exact .inr ⟨id, by rw [refused]; rfl, repeats.append [role]⟩

end RoleTable

open RoleTable (Apart FirstRepeat)

namespace Registry

/-- What a reader asks. -/
inductive Question where
  | get (roleId : String)
  | levelOf (roleId : String)
  | roleIds
  | lookup (roleId : String) (pair : Pair)

/-- What a caller is told. -/
inductive Reply where
  | role (found : Option Role)
  | level (rank : Option Int)
  | ids (all : List String)
  | grant (given : Option Grant)
  | done

/-- A call on a registry. -/
inductive Call where
  | get (roleId : String)
  | levelOf (roleId : String)
  | roleIds
  | lookup (roleId : String) (r : Offered Resource) (a : Offered Action)
  | load (roles : List Role)
  | invalidate

/-- What a scan of a list of roles answers. -/
def Question.scan (roles : List Role) : Question → Reply
  | get roleId => .role (roles.find? (·.id = roleId))
  | levelOf roleId => .level ((roles.find? (·.id = roleId)).map (·.level))
  | roleIds => .ids (roles.map (·.id))
  | lookup roleId pair => .grant ((roles.find? (·.id = roleId)).bind (·.grantFor pair))

/-- What a table answers. -/
def Question.read (t : RoleTable) : Question → Reply
  | get roleId => .role (t.get? roleId)
  | levelOf roleId => .level (RoleTable.levelOf? t roleId)
  | roleIds => .ids t.keys
  | lookup roleId pair => .grant (RoleTable.grantFor t roleId pair)

namespace Call

/-- The question that a call asks. A look-up for what is no pair asks none. -/
def question? : Call → Option Question
  | get roleId => some (.get roleId)
  | levelOf roleId => some (.levelOf roleId)
  | roleIds => some .roleIds
  | lookup roleId r a =>
    match checkPair r a with
    | .ok pair => some (.lookup roleId pair)
    | .error _ => none
  | load _ | invalidate => none

/-- The step that a call is. -/
def step : Call → Step Registry (Except Misuse Reply)
  | get roleId => return (← Registry.get roleId).map .role
  | levelOf roleId => return (← Registry.levelOf roleId).map .level
  | roleIds => return (← Registry.roleIds).map .ids
  | lookup roleId r a => return (← Registry.lookup roleId r a).map .grant
  | load roles => return (← Registry.load roles).map fun _ => .done
  | invalidate => do
    Registry.invalidate
    return .ok .done

end Call

/-- What a call leaves. -/
def after (r : Registry) (c : Call) : Registry := c.step.next r

/-- What a caller is told. -/
def told (r : Registry) (c : Call) : Except Misuse Reply := c.step.answer r

def afterAll (r : Registry) (calls : List Call) : Registry := calls.foldl after r

/-- The registry holds these roles. -/
def Serves (r : Registry) (roles : List Role) : Prop := ∃ t, r.held = some t ∧ t.Files roles

/-- The call brings these roles in: they are loaded, or a read finds nothing and the loader gives them. -/
inductive BringsIn (r : Registry) (roles : List Role) : Call → Prop where
  | load (apart : Apart roles) : BringsIn r roles (.load roles)
  | read {c : Call} {q : Question} (asks : c.question? = some q) (bare : r.held = none)
      (given : r.source r.loads = roles) (apart : Apart roles) : BringsIn r roles c

/-- The call puts an end to whatever was held. -/
inductive Ends (r : Registry) : Call → Prop where
  | load {roles : List Role} (apart : Apart roles) : Ends r (.load roles)
  | invalidate : Ends r .invalidate

/-- The roles that were brought in last by calls on a new registry, with nothing to end them since. -/
def Current (source : Nat → List Role) (calls : List Call) (roles : List Role) : Prop :=
  let start := ofSource source
  ∃ before c later, calls = before ++ c :: later ∧ BringsIn (start.afterAll before) roles c ∧
    Never after Ends ((start.afterAll before).after c) later

variable {r : Registry} {c : Call} {q : Question} {t : RoleTable} {roles roles' : List Role} {m : Misuse}
  {source : Nat → List Role} {calls : List Call}

theorem Question.read_eq_scan (files : t.Files roles) (q : Question) : q.read t = q.scan roles := by
  cases q <;> simp only [read, scan, RoleTable.levelOf?, RoleTable.grantFor, files.get?_eq, files.keys]

/-! ## One call -/

/-- All that a call can come to, with what the caller is told and what is left. -/
inductive Outcome (r : Registry) (c : Call) : Except Misuse Reply → Registry → Prop where
  | answered {q : Question} {t : RoleTable} (asks : c.question? = some q) (held : r.held = some t) :
      Outcome r c (.ok (q.read t)) r
  | fetched {q : Question} {t : RoleTable} (asks : c.question? = some q) (bare : r.held = none)
      (files : t.Files (r.source r.loads)) :
      Outcome r c (.ok (q.read t)) { r with loads := r.loads + 1, held := some t }
  | failed {q : Question} {id : String} (asks : c.question? = some q) (bare : r.held = none)
      (repeats : FirstRepeat (r.source r.loads) id) :
      Outcome r c (.error (.duplicateRole id)) { r with loads := r.loads + 1 }
  | replaced {roles : List Role} {t : RoleTable} (named : c = .load roles) (files : t.Files roles) :
      Outcome r c (.ok .done) { r with held := some t }
  | refused {roles : List Role} {id : String} (named : c = .load roles)
      (repeats : FirstRepeat roles id) : Outcome r c (.error (.duplicateRole id)) r
  | dropped (named : c = .invalidate) : Outcome r c (.ok .done) { r with held := none }
  /-- A look-up for what is no pair does not touch the table. -/
  | senseless {roleId : String} {resource : Offered Resource} {action : Offered Action} {m : Misuse}
      (named : c = .lookup roleId resource action) (asksNothing : c.question? = none) :
      Outcome r c (.error m) r

theorem told_of_question (asks : c.question? = some q) :
    r.told c = (table.answer r).map q.read ∧ r.after c = table.next r := by
  have reads {α : Type} (answer : RoleTable → α) (reply : α → Reply) :
      ((table.answer r).map answer).map reply = (table.answer r).map fun t => reply (answer t) := by
    cases table.answer r <;> rfl
  cases c with
  | get | levelOf | roleIds =>
      cases asks
      exact ⟨reads .., rfl⟩
  | lookup roleId resource action =>
      cases checked : checkPair resource action with
      | error m => simp [Call.question?, checked] at asks
      | ok pair =>
          simp only [Call.question?, checked, Option.some.injEq] at asks
          subst asks
          simp only [told, after, Call.step, lookup, checked]
          exact ⟨reads .., rfl⟩
  | load | invalidate => cases asks

theorem outcome_of_question (asks : c.question? = some q) : Outcome r c (r.told c) (r.after c) := by
  obtain ⟨told, left⟩ := told_of_question (r := r) asks
  rw [told, left]
  cases held : r.held with
  | some t =>
      simp only [Step.answer, Step.next, table, held]
      exact .answered asks held
  | none =>
      rcases RoleTable.build_cases (r.source r.loads) with ⟨t, built, files⟩ | ⟨id, refused, repeats⟩
      · simp only [Step.answer, Step.next, table, held, built]
        exact .fetched asks held files
      · simp only [Step.answer, Step.next, table, held, refused]
        rw [← held]
        exact .failed asks held repeats

theorem outcome (r : Registry) (c : Call) : Outcome r c (r.told c) (r.after c) := by
  cases asked : c.question? with
  | some q => exact outcome_of_question asked
  | none =>
      cases c with
      | get | levelOf | roleIds => cases asked
      | lookup roleId resource action =>
          cases checked : checkPair resource action with
          | ok pair => simp [Call.question?, checked] at asked
          | error m =>
              simp only [told, after, Call.step, lookup, checked]
              exact .senseless rfl asked
      | load roles =>
          simp only [told, after, Call.step, Step.answer_bind, Step.next_bind, Step.answer_pure,
            Step.next_pure]
          rcases RoleTable.build_cases roles with ⟨t, built, files⟩ | ⟨id, refused, repeats⟩
          · simp only [Step.answer, Step.next, load, built]
            exact .replaced rfl files
          · simp only [Step.answer, Step.next, load, refused]
            exact .refused rfl repeats
      | invalidate => exact .dropped rfl

theorem not_ends_of_question (asks : c.question? = some q) : ¬ Ends r c := by
  rintro (_ | _) <;> cases asks

/-- What a registry serves after a call was brought in by it, or was served before and not ended. -/
theorem serves_after (r : Registry) (c : Call) (roles : List Role) :
    (r.after c).Serves roles ↔ BringsIn r roles c ∨ r.Serves roles ∧ ¬ Ends r c := by
  have outcome := r.outcome c
  generalize r.told c = answer, r.after c = left at outcome ⊢
  cases outcome with
  | answered asks held =>
      have stays := not_ends_of_question (r := r) asks
      constructor
      · exact fun serves => .inr ⟨serves, stays⟩
      · rintro (brought | ⟨serves, -⟩)
        · cases brought with
          | load => cases asks
          | read _ bare => cases bare.symm.trans held
        · exact serves
  | @fetched q t asks bare files =>
      constructor
      · rintro ⟨_, ⟨⟩, files'⟩
        exact .inl (.read asks bare (files.unique files') files'.apart)
      · rintro (brought | ⟨⟨t, held, -⟩, -⟩)
        · cases brought with
          | load => cases asks
          | read _ _ given => exact ⟨t, rfl, given ▸ files⟩
        · cases bare.symm.trans held
  | failed asks bare repeats =>
      have idle : ¬ r.Serves roles := by
        rintro ⟨t, held, -⟩
        cases bare.symm.trans held
      refine iff_of_false idle ?_
      rintro (brought | ⟨serves, -⟩)
      · cases brought with
        | load => cases asks
        | read _ _ given apart => exact repeats.not_apart (given ▸ apart)
      · exact idle serves
  | @replaced loaded t named files =>
      subst named
      constructor
      · rintro ⟨_, ⟨⟩, files'⟩
        rw [files.unique files']
        exact .inl (.load files'.apart)
      · rintro (brought | ⟨-, stays⟩)
        · cases brought with
          | load => exact ⟨t, rfl, files⟩
          | read asks => cases asks
        · exact absurd (.load files.apart) stays
  | refused named repeats =>
      subst named
      constructor
      · intro serves
        refine .inr ⟨serves, ?_⟩
        rintro (apart | _)
        exact repeats.not_apart apart
      · rintro (brought | ⟨serves, -⟩)
        · cases brought with
          | load apart => exact absurd apart repeats.not_apart
          | read asks => cases asks
        · exact serves
  | dropped named =>
      subst named
      refine iff_of_false ?_ ?_
      · rintro ⟨t, held, -⟩
        cases held
      · rintro (brought | ⟨-, stays⟩)
        · cases brought with
          | read asks => cases asks
        · exact stays .invalidate
  | senseless named asksNothing =>
      subst named
      constructor
      · intro serves
        refine .inr ⟨serves, ?_⟩
        rintro ⟨⟩
      · rintro (brought | ⟨serves, -⟩)
        · cases brought with
          | read asks => cases asks.symm.trans asksNothing
        · exact serves

theorem source_after (r : Registry) (c : Call) : (r.after c).source = r.source := by
  have outcome := r.outcome c
  generalize r.told c = answer, r.after c = left at outcome ⊢
  cases outcome <;> rfl

/-- Whatever table is held files some roles. -/
def Sound (r : Registry) : Prop := ∀ t, r.held = some t → ∃ roles, t.Files roles

theorem Sound.after (sound : r.Sound) (c : Call) : (r.after c).Sound := by
  have outcome := r.outcome c
  generalize r.told c = answer, r.after c = left at outcome ⊢
  intro t held
  cases outcome with
  | answered | refused | senseless => exact sound t held
  | failed asks bare => exact sound t held
  | fetched asks bare files | replaced named files =>
      cases held
      exact ⟨_, files⟩
  | dropped => cases held

/-- Reading the table that is held is scanning the roles that are served. -/
theorem scan_iff (sound : r.Sound) (held : r.held = some t) (q : Question) (reply : Reply) :
    q.read t = reply ↔ ∃ roles, r.Serves roles ∧ reply = q.scan roles := by
  constructor
  · rintro rfl
    obtain ⟨roles, files⟩ := sound t held
    exact ⟨roles, ⟨t, held, files⟩, q.read_eq_scan files⟩
  · rintro ⟨roles, ⟨t', held', files⟩, rfl⟩
    cases held.symm.trans held'
    exact q.read_eq_scan files

theorem not_serves_of_bare (bare : r.held = none) : ¬ r.Serves roles := by
  rintro ⟨t, held, -⟩
  cases bare.symm.trans held

/-- A read is answered from what is served once it is made. -/
theorem told_eq_ok_iff (sound : r.Sound) (asks : c.question? = some q) (reply : Reply) :
    r.told c = .ok reply ↔ ∃ roles, (r.after c).Serves roles ∧ reply = q.scan roles := by
  have sound' := sound.after c
  have outcome := r.outcome c
  generalize r.told c = answer, r.after c = left at outcome sound' ⊢
  cases outcome with
  | answered asks' held =>
      cases asks.symm.trans asks'
      simpa using scan_iff sound' held q reply
  | @fetched q' t asks' bare files =>
      cases asks.symm.trans asks'
      simpa using scan_iff (t := t) sound' rfl q reply
  | failed asks' bare repeats =>
      refine iff_of_false nofun ?_
      rintro ⟨roles, serves, -⟩
      exact not_serves_of_bare bare serves
  | replaced named | refused named | dropped named =>
      subst named
      cases asks
  | senseless named asksNothing => cases asks.symm.trans asksNothing

/-- The loader is called by a read that finds nothing, and by no other call. -/
theorem loads_after (r : Registry) (c : Call) :
    (c.question?.isSome ∧ r.held = none → (r.after c).loads = r.loads + 1) ∧
      (¬ (c.question?.isSome ∧ r.held = none) → (r.after c).loads = r.loads) := by
  have outcome := r.outcome c
  generalize r.told c = answer, r.after c = left at outcome ⊢
  cases outcome with
  | answered asks held => simp [held]
  | fetched asks bare | failed asks bare => simp [asks, bare]
  | replaced named | refused named | dropped named => simp [named, Call.question?]
  | senseless named asksNothing => simp [asksNothing]

/-- A read that finds nothing fails where the loader's roles share an identifier. -/
theorem told_of_repeated (asks : c.question? = some q) (bare : r.held = none)
    (repeated : ¬ Apart (r.source r.loads)) :
    (∃ id, FirstRepeat (r.source r.loads) id ∧ r.told c = .error (.duplicateRole id)) ∧
      (r.after c).held = none := by
  have outcome := r.outcome c
  generalize r.told c = answer, r.after c = left at outcome ⊢
  cases outcome with
  | answered _ held => cases bare.symm.trans held
  | fetched _ _ files => exact absurd files.apart repeated
  | failed _ _ repeats => exact ⟨⟨_, repeats, rfl⟩, bare⟩
  | replaced named | refused named | dropped named =>
      subst named
      cases asks
  | senseless _ asksNothing => cases asks.symm.trans asksNothing

theorem told_load (r : Registry) (roles : List Role) :
    (Apart roles → r.told (.load roles) = .ok .done ∧ (r.after (.load roles)).Serves roles) ∧
      (¬ Apart roles →
        (∃ id, FirstRepeat roles id ∧ r.told (.load roles) = .error (.duplicateRole id)) ∧
          r.after (.load roles) = r) := by
  have outcome := r.outcome (.load roles)
  generalize r.told (.load roles) = answer, r.after (.load roles) = left at outcome ⊢
  cases outcome with
  | answered asks | fetched asks | failed asks => cases asks
  | @replaced _ t named files =>
      cases named
      exact ⟨fun _ => ⟨rfl, t, rfl, files⟩, fun repeated => absurd files.apart repeated⟩
  | refused named repeats =>
      cases named
      exact ⟨fun apart => absurd apart repeats.not_apart, fun _ => ⟨⟨_, repeats, rfl⟩, rfl⟩⟩
  | dropped named | senseless named => cases named

theorem told_of_senseless {roleId : String} {resource : Offered Resource} {action : Offered Action}
    (named : c = .lookup roleId resource action) (asksNothing : c.question? = none) :
    (∃ m, r.told c = .error m) ∧ r.after c = r := by
  subst named
  have outcome := r.outcome (.lookup roleId resource action)
  generalize r.told (.lookup roleId resource action) = answer,
    r.after (.lookup roleId resource action) = left at outcome ⊢
  cases outcome with
  | answered asks | fetched asks | failed asks => cases asks.symm.trans asksNothing
  | replaced named | refused named | dropped named => cases named
  | senseless => exact ⟨⟨_, rfl⟩, rfl⟩

/-! ## Calls on a new registry -/

/-- The registry after some calls on a new one. -/
def reached (source : Nat → List Role) (calls : List Call) : Registry :=
  (ofSource source).afterAll calls

theorem source_reached (source : Nat → List Role) (calls : List Call) :
    (reached source calls).source = source := by
  induction calls using List.reverseRecOn with
  | nil => rfl
  | append_singleton calls c ih =>
      rw [reached, afterAll, List.foldl_append]
      exact (source_after _ c).trans ih

theorem reached_snoc (source : Nat → List Role) (calls : List Call) (c : Call) :
    reached source (calls ++ [c]) = (reached source calls).after c := List.foldl_append

theorem sound_reached (source : Nat → List Role) (calls : List Call) :
    (reached source calls).Sound := by
  induction calls using List.reverseRecOn with
  | nil => nofun
  | append_singleton calls c ih => exact reached_snoc source calls c ▸ ih.after c

/-- What is served is what was brought in last. -/
theorem current_iff_serves : Current source calls roles ↔ (reached source calls).Serves roles :=
  (holds_iff_since (Serves · roles) (fun r c => serves_after r c roles)
    (not_serves_of_bare rfl) calls).symm

theorem held_iff_current :
    (reached source calls).held = none ↔ ¬ ∃ roles, Current source calls roles := by
  constructor
  · rintro bare ⟨roles, current⟩
    exact not_serves_of_bare bare (current_iff_serves.mp current)
  · intro nothing
    cases held : (reached source calls).held with
    | none => rfl
    | some t =>
        obtain ⟨roles, files⟩ := sound_reached source calls t held
        exact absurd ⟨roles, current_iff_serves.mpr ⟨t, held, files⟩⟩ nothing

/-- What a call does after others on a new registry. -/
structure Lawful (source : Nat → List Role) (calls : List Call) (c : Call) : Prop where
  /-- A read is answered from all the roles that are current once it is made. -/
  answered : ∀ q, c.question? = some q → ∀ reply, (reached source calls).told c = .ok reply ↔
    ∃ roles, Current source (calls ++ [c]) roles ∧ reply = q.scan roles
  /-- A read that finds nothing current calls the loader, once. -/
  called : c.question?.isSome → (¬ ∃ roles, Current source calls roles) →
    (reached source (calls ++ [c])).loads = (reached source calls).loads + 1
  /-- No other call does. -/
  spared : c.question? = none ∨ (∃ roles, Current source calls roles) →
    (reached source (calls ++ [c])).loads = (reached source calls).loads
  /-- Where the loader's roles share an identifier the read fails, and leaves nothing current. -/
  failed : ∀ q, c.question? = some q → (¬ ∃ roles, Current source calls roles) →
    ¬ Apart (source (reached source calls).loads) →
    (∃ id, FirstRepeat (source (reached source calls).loads) id ∧
      (reached source calls).told c = .error (.duplicateRole id)) ∧
    ¬ ∃ roles, Current source (calls ++ [c]) roles
  /-- Roles with identifiers of their own replace whatever was current. -/
  replaced : ∀ roles, c = .load roles → Apart roles →
    (reached source calls).told c = .ok .done ∧ Current source (calls ++ [c]) roles
  /-- Roles that share an identifier are refused, and change nothing. -/
  refused : ∀ roles, c = .load roles → ¬ Apart roles →
    (∃ id, FirstRepeat roles id ∧ (reached source calls).told c = .error (.duplicateRole id)) ∧
    reached source (calls ++ [c]) = reached source calls
  /-- Dropped, the registry has nothing current. -/
  dropped : c = .invalidate →
    (reached source calls).told c = .ok .done ∧ ¬ ∃ roles, Current source (calls ++ [c]) roles
  /-- A look-up for what is no pair fails, and changes nothing. -/
  senseless : ∀ roleId r a, c = .lookup roleId r a → c.question? = none →
    (∃ m, (reached source calls).told c = .error m) ∧
    reached source (calls ++ [c]) = reached source calls

theorem lawful (source : Nat → List Role) (calls : List Call) (c : Call) : Lawful source calls c where
  answered q asks reply := by
    simp only [current_iff_serves, reached_snoc]
    exact told_eq_ok_iff (sound_reached source calls) asks reply
  called reads nothing := by
    rw [reached_snoc]
    exact (loads_after _ c).1 ⟨reads, held_iff_current.mpr nothing⟩
  spared other := by
    rw [reached_snoc]
    refine (loads_after _ c).2 ?_
    rintro ⟨reads, bare⟩
    rcases other with asksNothing | current
    · simp [asksNothing] at reads
    · exact held_iff_current.mp bare current
  failed q asks nothing repeated := by
    have origin := congrFun (source_reached source calls) (reached source calls).loads
    rw [← held_iff_current, reached_snoc, ← origin]
    exact told_of_repeated asks (held_iff_current.mpr nothing) (origin ▸ repeated)
  replaced roles named apart := by
    subst named
    rw [current_iff_serves, reached_snoc]
    exact (told_load _ roles).1 apart
  refused roles named repeated := by
    subst named
    rw [reached_snoc]
    exact (told_load _ roles).2 repeated
  dropped named := by
    subst named
    rw [← held_iff_current, reached_snoc]
    exact ⟨rfl, rfl⟩
  senseless roleId r a named asksNothing := by
    rw [reached_snoc]
    exact told_of_senseless named asksNothing

/-- After any calls on a new registry, the table that is held is the whole list of roles that is current:
it files each role under an identifier of its own, and finds under an identifier the one role of the list
that bears it. The next call is answered from what is current, calls the loader where nothing is, replaces
it, refuses to, or drops it, as it should. -/
theorem served_current (source : Nat → List Role) (calls : List Call) :
    (∀ roles, Current source calls roles ↔
      ∃ t, (reached source calls).held = some t ∧ t.Files roles) ∧
    (∀ t, (reached source calls).held = some t → ∃ roles, Current source calls roles ∧ Apart roles ∧
      (∀ other, Current source calls other → other = roles) ∧
      ∀ id role, t.get? id = some role ↔ role ∈ roles ∧ role.id = id) ∧
    ∀ c, Lawful source calls c := by
  refine ⟨fun roles => current_iff_serves, fun t held => ?_, lawful source calls⟩
  obtain ⟨roles, files⟩ := sound_reached source calls t held
  refine ⟨roles, current_iff_serves.mpr ⟨t, held, files⟩, files.apart, fun other current => ?_,
    fun id role => files.get?_eq_some_iff⟩
  obtain ⟨t', held', files'⟩ := current_iff_serves.mp current
  cases held.symm.trans held'
  exact files'.unique files

end Registry

namespace Sample

def guest : Role := .ofGrants "guest" "Guest" 5 .empty

/-- A loader that gives a role twice the first time it is called. -/
def hasty (call : Nat) : List Role := if call = 0 then [guest, guest] else [guest]

/-- A read that fails, one that fetches, and a load that is refused. -/
def hastyCalls : List Registry.Call := [.roleIds, .roleIds, .load [guest, guest]]

end Sample

open Sample in
/-- A loader that fails is called again by the next read, and what it brings outlasts a failed load. -/
theorem Registry.served_current_hasty :
    (ofSource hasty).told .roleIds = .error (.duplicateRole "guest") ∧
      Current hasty hastyCalls [guest] ∧
      (reached hasty hastyCalls).told (.get "guest") = .ok (.role (some guest)) ∧
      (reached hasty (hastyCalls ++ [.get "guest"])).loads = 2 := by
  obtain ⟨current, -, lawful⟩ := served_current hasty hastyCalls
  have held : Current hasty hastyCalls [guest] :=
    (current [guest]).mpr ⟨.ofList [("guest", guest)], by rfl, by rfl⟩
  have spared := (lawful (.get "guest")).spared (.inr ⟨_, held⟩)
  exact ⟨by rfl, held, by rfl, spared.trans (by rfl)⟩

end TenantAccess

import TenantAccess.Deployment
import TenantAccess.Proofs.Guard.Answers
import TenantAccess.Proofs.Role.Inheritance

/-! # What becomes of a call

A gate that enforces lets a call through if its path is exempt, or if its method is mapped, its metadata
stands for a user, and the guard allows the pair. Any other call it ends, with a status that says why.
A refusal of the guard ends a call only because it explains itself: without a code and a reason it would
pass for a permission. A gate that warns asks the same and lets the call through, and one that is off
does not ask.

There is one way in which a call is neither let through nor ended: the record of the decision breaks.
-/

namespace TenantAccess

namespace Gate

variable {gate : Gate} {authorize : User → Pair → Step Guard (Except Failure Decision)}
  {caller : Except Fault (Option User)} {path : String} {user : User} {pair : Pair} {d : Decision}
  {s : Sources} {g : Guard} {roles : RoleTable}

/-! ## What a decision means to a gate -/

theorem refusalOf_of_allowed (allowed : d.isAllowed = true) : refusalOf d = none := by
  unfold refusalOf
  cases d.code with
  | none => rfl
  | some code => simp [Decision.isDenied, allowed]

theorem refusalOf_of_denied (explained : d.Explained) (denied : d.isAllowed = false) :
    ∃ code, d.code = some code ∧ d.reason ≠ "" ∧
      refusalOf d = some ⟨d.reason, .ofDenial code, some code⟩ := by
  have refused : d.isDenied = true := by simp [Decision.isDenied, denied]
  obtain ⟨code, coded, reasoned⟩ := explained refused
  refine ⟨code, coded, reasoned, ?_⟩
  simp [refusalOf, coded, refused, reasoned]

/-! ## Receiving a call -/

section

variable (gate authorize caller)

theorem receive_exempt (exempt : isExempt path = true) (g : Guard) :
    (gate.receive authorize caller path).answer g = .ok .through ∧
      (gate.receive authorize caller path).next g = g := by
  rw [receive, if_pos exempt]
  exact ⟨rfl, rfl⟩

theorem receive_off (path : String) (off : gate.mode = .off) (g : Guard) :
    (gate.receive authorize caller path).answer g = .ok .through ∧
      (gate.receive authorize caller path).next g = g := by
  by_cases exempt : isExempt path = true
  · exact gate.receive_exempt authorize caller exempt g
  · rw [receive, if_neg exempt]
    simp only [Step.answer_bind, Step.next_bind, receiveCaller, if_pos off]
    exact ⟨rfl, rfl⟩

/-- A gate that is not off judges a call, and then acts on its judgement. -/
theorem receive_judged (subject : isExempt path = false) (strict : gate.mode ≠ .off) (g : Guard) :
    let judged := gate.judge authorize (methodName path) (gate.callerOf caller).value
    (gate.receive authorize caller path).answer g =
        (judged.answer g).map (fun refusal =>
          (gate.act (methodName path) (gate.callerOf caller).value refusal).value) ∧
      (gate.receive authorize caller path).next g = judged.next g := by
  intro judged
  have asked : ¬ isExempt path = true := by simp [subject]
  rw [receive, if_neg asked]
  simp only [Step.answer_bind, Step.next_bind, Step.next_log, Step.next_logAll, receiveCaller,
    if_neg strict]
  cases (gate.judge authorize (methodName path) (gate.callerOf caller).value).answer g with
  | error f => exact ⟨rfl, rfl⟩
  | ok refusal => exact ⟨rfl, rfl⟩

end

theorem answer_ask (user : User) (pair : Pair) (g : Guard) :
    (ask authorize user pair).answer g =
      match (authorize user pair).answer g with
      | .ok d => .ok (refusalOf d)
      | .error (.misuse m) => .error (.misuse m)
      | .error (.fault f) =>
        if f.isUnavailable then .ok (some (outOfOrder f)) else .error (.fault f) := by
  simp only [ask, Step.answer_bind]
  cases (authorize user pair).answer g with
  | ok d => rfl
  | error f =>
      cases f with
      | misuse m => rfl
      | fault f => rfl

theorem callerOf_nobody (gate : Gate) (nobody : ∀ user, caller ≠ .ok (some user)) :
    (gate.callerOf caller).value = none := by
  cases caller with
  | error f => rfl
  | ok found =>
      cases found with
      | none => rfl
      | some user => exact absurd rfl (nobody user)

/-! ## A gate that enforces -/

/-- The same gate under another mode. -/
def under (gate : Gate) (mode : EnforcementMode) : Gate := { gate with mode }

theorem enforce_strict (gate : Gate) : (gate.under .enforce).mode ≠ .off := by
  simp [under]

/-- What is said to the caller of a call that is ended. -/
def endText (gate : Gate) (path reason : String) : String :=
  gate.service ++ ": " ++ methodName path ++ " denied: " ++ reason

/-- The guard is asked about a call: for this user, and for this pair. -/
structure Asks (gate : Gate) (caller : Except Fault (Option User)) (path : String) (user : User)
    (pair : Pair) : Prop where
  subject : isExempt path = false
  mapped : gate.methods.get? (methodName path) = some pair
  known : caller = .ok (some user)

/-- What becomes of a call under enforcement. -/
inductive Enforced (gate : Gate) (s : Sources) (g : Guard) (caller : Except Fault (Option User))
    (path : String) : Except Failure Passage → Prop
  /-- Nobody asks about an exempt path. -/
  | exempt (exempt : isExempt path = true) : Enforced gate s g caller path (.ok .through)
  /-- The guard gives access. -/
  | allowed {user : User} {pair : Pair} {d : Decision} (asks : gate.Asks caller path user pair)
      (decided : (authorizing s user pair).answer g = .ok d)
      (recordable : ¬ g.Unrecordable pair.action) (allowed : d.isAllowed = true) :
      Enforced gate s g caller path (.ok .through)
  /-- The method is not mapped. -/
  | unmapped (subject : isExempt path = false)
      (unmapped : gate.methods.get? (methodName path) = none) :
      Enforced gate s g caller path (.ok (.ended
        ⟨.permissionDenied, gate.endText path "RPC not mapped to a permission", []⟩))
  /-- The metadata stands for nobody. -/
  | anonymous {pair : Pair} (subject : isExempt path = false)
      (mapped : gate.methods.get? (methodName path) = some pair)
      (nobody : ∀ user, caller ≠ .ok (some user)) :
      Enforced gate s g caller path (.ok (.ended
        ⟨.unauthenticated, gate.endText path "no valid identity", []⟩))
  /-- The guard refuses; its code says how, and is sent along. -/
  | denied {user : User} {pair : Pair} {d : Decision} {code : DenialCode}
      (asks : gate.Asks caller path user pair)
      (decided : (authorizing s user pair).answer g = .ok d)
      (recordable : ¬ g.Unrecordable pair.action) (denied : d.isAllowed = false)
      (coded : d.code = some code) (reasoned : d.reason ≠ "") :
      Enforced gate s g caller path (.ok (.ended
        ⟨.ofDenial code, gate.endText path d.reason, [("denial-code", code.name)]⟩))
  /-- The decision is on a change and cannot be recorded. -/
  | unrecorded {user : User} {pair : Pair} (asks : gate.Asks caller path user pair)
      (failed : (authorizing s user pair).answer g = .error (.fault .auditUnavailable))
      (unrecordable : g.Unrecordable pair.action) :
      Enforced gate s g caller path (.ok (.ended
        ⟨.unavailable, gate.endText path "Audit sink unavailable", []⟩))
  /-- The record of the decision breaks, and so does the call. -/
  | overran {user : User} {pair : Pair} (asks : gate.Asks caller path user pair)
      (failed : (authorizing s user pair).answer g = .error (.misuse .waitTooLong))
      (overruns : g.Overruns pair.action) :
      Enforced gate s g caller path (.error (.misuse .waitTooLong))

/-- Where the guard is asked, what becomes of the call is up to its answer. -/
theorem answer_of_asks (asks : gate.Asks caller path user pair)
    (authorize : User → Pair → Step Guard (Except Failure Decision)) (g : Guard) :
    ((gate.under .enforce).receive authorize caller path).answer g =
      match (authorize user pair).answer g with
      | .ok d =>
        match refusalOf d with
        | none => .ok .through
        | some r => .ok (.ended (gate.callEnd (methodName path) r))
      | .error (.misuse m) => .error (.misuse m)
      | .error (.fault f) =>
        if f.isUnavailable then .ok (.ended (gate.callEnd (methodName path) (outOfOrder f)))
        else .error (.fault f) := by
  have judge : (gate.under .enforce).judge authorize (methodName path)
      ((gate.under .enforce).callerOf caller).value = ask authorize user pair := by
    rw [asks.known]
    simp only [Gate.judge, under, asks.mapped]
    rfl
  rw [(receive_judged _ _ caller asks.subject gate.enforce_strict g).1, judge, answer_ask]
  cases (authorize user pair).answer g with
  | ok d =>
      simp only [Except.map]
      cases refusalOf d <;> rfl
  | error f =>
      cases f with
      | misuse m => rfl
      | fault f =>
          simp only
          split <;> rfl

/-- Where the guard is not asked although the path is not exempt, the call ends. -/
theorem answer_of_not_asks (subject : isExempt path = false)
    (notAsked : ∀ user pair, ¬ gate.Asks caller path user pair)
    (authorize : User → Pair → Step Guard (Except Failure Decision)) (g : Guard) :
    let answer := ((gate.under .enforce).receive authorize caller path).answer g
    (gate.methods.get? (methodName path) = none ∧
        answer = .ok (.ended (gate.callEnd (methodName path) notMapped))) ∨
      ∃ pair, gate.methods.get? (methodName path) = some pair ∧
        (∀ user, caller ≠ .ok (some user)) ∧
        answer = .ok (.ended (gate.callEnd (methodName path) noIdentity)) := by
  intro answer
  have judged := (receive_judged (gate.under .enforce) authorize caller subject gate.enforce_strict g).1
  cases mapped : gate.methods.get? (methodName path) with
  | none =>
      apply Or.inl
      refine ⟨rfl, judged.trans ?_⟩
      simp only [Gate.judge, under, mapped]
      rfl
  | some pair =>
      have nobody : ∀ user, caller ≠ .ok (some user) :=
        fun user known => notAsked user pair ⟨subject, mapped, known⟩
      refine .inr ⟨pair, rfl, nobody, judged.trans ?_⟩
      simp only [Gate.judge, callerOf_nobody _ nobody, under, mapped]
      rfl

section

variable (loaded : Registry.table.answer g.roles = .ok roles)
  (isOpen : ∀ t, g.trail = some t → t.isClosed = false)

include loaded isOpen

theorem enforced_of_asks (asks : gate.Asks caller path user pair) :
    gate.Enforced s g caller path
      (((gate.under .enforce).receive (authorizing s) caller path).answer g) := by
  have answers : g.Answers pair.action ((authorizing s user pair).answer g) :=
    Guard.answers_authorize loaded isOpen s ⟨user, pair, none, none⟩
  rw [answer_of_asks asks]
  generalize answered : (authorizing s user pair).answer g = answer at answers
  cases answers with
  | @decided d explained recordable =>
      cases allowed : d.isAllowed with
      | true =>
          simp only [refusalOf_of_allowed allowed]
          exact .allowed asks answered recordable allowed
      | false =>
          obtain ⟨code, coded, reasoned, refused⟩ := refusalOf_of_denied explained allowed
          simp only [refused]
          exact .denied asks answered recordable allowed coded reasoned
  | unrecorded unrecordable => exact .unrecorded asks answered unrecordable
  | overran overruns => exact .overran asks answered overruns

theorem enforced_receive (gate : Gate) (s : Sources) (caller : Except Fault (Option User))
    (path : String) :
    gate.Enforced s g caller path
      (((gate.under .enforce).receive (authorizing s) caller path).answer g) := by
  cases subject : isExempt path with
  | true =>
      rw [(receive_exempt _ _ caller subject g).1]
      exact .exempt subject
  | false =>
      by_cases asked : ∃ user pair, gate.Asks caller path user pair
      · obtain ⟨user, pair, asks⟩ := asked
        exact enforced_of_asks loaded isOpen asks
      · have notAsked : ∀ user pair, ¬ gate.Asks caller path user pair :=
          fun user pair asks => asked ⟨user, pair, asks⟩
        cases answer_of_not_asks subject notAsked (authorizing s) g with
        | inl unmapped =>
            rw [unmapped.2]
            exact .unmapped subject unmapped.1
        | inr anonymous =>
            obtain ⟨pair, mapped, nobody, ended⟩ := anonymous
            rw [ended]
            exact .anonymous subject mapped nobody

theorem through_iff :
    ((gate.under .enforce).receive (authorizing s) caller path).answer g = .ok .through ↔
      isExempt path = true ∨ ∃ user pair d, gate.Asks caller path user pair ∧
        (authorizing s user pair).answer g = .ok d ∧ d.isAllowed = true := by
  constructor
  · intro passed
    have enforced := enforced_receive loaded isOpen gate s caller path
    rw [passed] at enforced
    cases enforced with
    | exempt exempt => exact .inl exempt
    | allowed asks decided _ allowed => exact .inr ⟨_, _, _, asks, decided, allowed⟩
  · intro either
    cases either with
    | inl exempt => exact (receive_exempt _ _ caller exempt g).1
    | inr asked =>
        obtain ⟨user, pair, d, asks, decided, allowed⟩ := asked
        rw [answer_of_asks asks, decided]
        simp only [refusalOf_of_allowed allowed]

theorem broken_iff (f : Failure) :
    ((gate.under .enforce).receive (authorizing s) caller path).answer g = .error f ↔
      f = .misuse .waitTooLong ∧
        ∃ user pair, gate.Asks caller path user pair ∧ g.Overruns pair.action := by
  constructor
  · intro broke
    have enforced := enforced_receive loaded isOpen gate s caller path
    rw [broke] at enforced
    cases enforced with
    | overran asks failed overruns => exact ⟨rfl, _, _, asks, overruns⟩
  · intro broke
    obtain ⟨rfl, user, pair, asks, overruns⟩ := broke
    have answers : g.Answers pair.action ((authorizing s user pair).answer g) :=
      Guard.answers_authorize loaded isOpen s ⟨user, pair, none, none⟩
    rw [answer_of_asks asks]
    generalize (authorizing s user pair).answer g = answer at answers
    cases answers with
    | decided _ _ inTime => exact absurd overruns inTime
    | unrecorded unrecordable => exact absurd unrecordable overruns.not_unrecordable
    | overran => rfl

end

/-! ## A gate that warns -/

/-- A gate that warns does to the guard what one that enforces does, and lets through what that one
lets through or ends. -/
theorem receive_warned (gate : Gate) (authorize : User → Pair → Step Guard (Except Failure Decision))
    (caller : Except Fault (Option User)) (path : String) (g : Guard) :
    ((gate.under .warn).receive authorize caller path).next g =
        ((gate.under .enforce).receive authorize caller path).next g ∧
      ((gate.under .warn).receive authorize caller path).answer g =
        (((gate.under .enforce).receive authorize caller path).answer g).map fun _ => .through := by
  cases subject : isExempt path with
  | true =>
      obtain ⟨answer, next⟩ := receive_exempt (gate.under .enforce) authorize caller subject g
      obtain ⟨answer', next'⟩ := receive_exempt (gate.under .warn) authorize caller subject g
      rw [answer, answer', next, next']
      exact ⟨rfl, rfl⟩
  | false =>
      have strict : (gate.under .warn).mode ≠ .off := by simp [under]
      obtain ⟨answer, next⟩ :=
        receive_judged (gate.under .enforce) authorize caller subject gate.enforce_strict g
      obtain ⟨answer', next'⟩ := receive_judged (gate.under .warn) authorize caller subject strict g
      -- What is asked, and of whom, is no matter of the mode.
      have known : ((gate.under .warn).callerOf caller).value =
          ((gate.under .enforce).callerOf caller).value := by
        cases caller <;> rfl
      have judge (user : Option User) : (gate.under .warn).judge authorize (methodName path) user =
          (gate.under .enforce).judge authorize (methodName path) user := rfl
      rw [answer, answer', next, next', known, judge]
      refine ⟨rfl, ?_⟩
      generalize ((gate.under .enforce).judge authorize (methodName path)
        ((gate.under .enforce).callerOf caller).value).answer g = judged
      cases judged with
      | error f => rfl
      | ok refusal => cases refusal <;> rfl

end Gate

namespace Deployment

/-- What a deployment makes of a call, whatever its method, its metadata and the state of the parts. -/
theorem receive_guarded (gate : Gate) (d : Deployment) (m : Metadata) (path : String)
    {roles : RoleTable} (loaded : Registry.table.answer d.guard.roles = .ok roles)
    (isOpen : ∀ t, d.guard.trail = some t → t.isClosed = false) :
    let caller := d.authenticate m
    let enforced := receive (gate.under .enforce) m path
    let warned := receive (gate.under .warn) m path
    let off := receive (gate.under .off) m path
    gate.Enforced d.sources d.guard caller path (enforced.answer d) ∧
      (enforced.answer d = .ok .through ↔ Gate.isExempt path = true ∨
        ∃ user pair decision, gate.Asks caller path user pair ∧
          (Gate.authorizing d.sources user pair).answer d.guard = .ok decision ∧
          decision.isAllowed = true) ∧
      (∀ f, enforced.answer d = .error f ↔ f = .misuse .waitTooLong ∧
        ∃ user pair, gate.Asks caller path user pair ∧ d.guard.Overruns pair.action) ∧
      (∀ q decision, (authorize q).answer d = .ok decision → decision.Explained) ∧
      (warned.next d = enforced.next d ∧
        warned.answer d = (enforced.answer d).map fun _ => .through) ∧
      (off.next d = d ∧ off.answer d = .ok .through) := by
  intro caller enforced warned off
  refine ⟨?_, ?_, ?_, ?_, ?_, ?_⟩
  · exact Gate.enforced_receive loaded isOpen gate d.sources caller path
  · exact Gate.through_iff loaded isOpen
  · exact Gate.broken_iff loaded isOpen
  · intro q decision decided
    have answers := Guard.answers_authorize loaded isOpen d.sources q
    have answered : (Guard.authorize d.sources q).answer d.guard = .ok decision := decided
    rw [answered] at answers
    cases answers with
    | decided explained => exact explained
  · obtain ⟨next, answer⟩ :=
      Gate.receive_warned gate (Gate.authorizing d.sources) caller path d.guard
    exact ⟨congrArg (fun guard => { d with guard }) next, answer⟩
  · obtain ⟨answer, next⟩ :=
      Gate.receive_off (gate.under .off) (Gate.authorizing d.sources) caller path rfl d.guard
    exact ⟨congrArg (fun guard => { d with guard }) next, answer⟩

end Deployment

theorem Registry.loads_standard : ∃ roles, Registry.table.answer Registry.standard = .ok roles :=
  ⟨RoleTable.standard, RoleTable.answer_standard⟩

namespace Sample

def tasksGate : Gate := ⟨"Tasks", .enforce, .ofList [("DeleteTask", ⟨.task, .delete⟩)]⟩

def deleteTask : String := "/tasks.Tasks/DeleteTask"

def rootMetadata : Metadata := .ofList [("x-access-token", "r")]

/-- A deployment that knows the system administrator, and whose guard has recorded a read. -/
def served (settings : AuditSettings) (isStuck : Bool) : Deployment :=
  .assemble (Guard.looked settings isStuck) .empty .empty
    (Credentials.empty.register "r" Guard.deletion.user) true

def onlooker : User := ⟨"u-3", "viewer", .pro, []⟩

/-- Somebody who is in no team deletes what a team shares. -/
def strangersDeletion : AccessRequest :=
  { Guard.sharedDeletion with user := ⟨"u-4", "member", .pro, []⟩ }

def unseen : Decision := .deny .outOfScope "Target is not visible to the requester"

/-- Members of the team may delete what the team shares. -/
def deletingRow : Row :=
  ⟨.team, "t-1", "org-1", "member", .ofList [(⟨.task, .delete⟩, ⟨.allow, some .team, none⟩)], 1, true⟩

/-- The deployment knows a member of a team and a viewer who is in no team. -/
def staffed : Deployment :=
  { served .standard false with
    directory :=
      ⟨.ofList [("org-1", { OrgTree.empty ⟨"org-1", "Org"⟩ 3 with
          teams := .ofList [("t-1", ⟨"t-1", "org-1", none⟩)] })],
        ⟨.ofList [(deletingRow.key, deletingRow)]⟩⟩
    roll := Roll.empty.add ⟨"u-2", .team, "t-1", "member"⟩
    credentials :=
      (Credentials.empty.register "m" Guard.sharedDeletion.user).register "v" onlooker }

def memberMetadata : Metadata := .ofList [("x-access-token", "m")]

def viewerMetadata : Metadata := .ofList [("authorization", "Bearer v")]

theorem asks_deleteTask (settings : AuditSettings) (isStuck : Bool) :
    tasksGate.Asks ((served settings isStuck).authenticate rootMetadata) deleteTask
      Guard.deletion.user ⟨.task, .delete⟩ := by
  refine ⟨?_, ?_, ?_⟩
  · decide +kernel
  · decide +kernel
  · rfl

theorem asks_member :
    tasksGate.Asks (staffed.authenticate memberMetadata) deleteTask Guard.sharedDeletion.user
      ⟨.task, .delete⟩ := by
  refine ⟨?_, ?_, ?_⟩
  · decide +kernel
  · decide +kernel
  · rfl

theorem open_served (settings : AuditSettings) (isStuck : Bool) :
    ∀ t, (served settings isStuck).guard.trail = some t → t.isClosed = false := by
  intro t attached
  cases attached
  rfl

end Sample

open Sample in
theorem Deployment.ended_viewer :
    (receive (tasksGate.under .enforce) viewerMetadata deleteTask).answer staffed =
      .ok (.ended ⟨.permissionDenied, "Tasks: DeleteTask denied: Role viewer may not delete task",
        [("denial-code", "insufficient_role")]⟩) := by
  rfl

open Sample in
theorem Deployment.answer_stranger : (authorize strangersDeletion).answer staffed = .ok unseen := by
  rfl

open Sample in
/-- The system administrator's call goes through, and so does that of a member. A viewer's call is ended
by a gate that enforces and let through by one that warns. Asked for a task of the team, the guard looks
up memberships and the team's row: it allows the member, and tells others why not. -/
theorem Deployment.receive_guarded_deleteTask :
    let d := served .standard false
    ((∃ roles, Registry.table.answer d.guard.roles = .ok roles) ∧
      (∀ t, d.guard.trail = some t → t.isClosed = false) ∧
      (receive (tasksGate.under .enforce) rootMetadata deleteTask).answer d = .ok .through) ∧
    (receive (tasksGate.under .enforce) memberMetadata deleteTask).answer staffed = .ok .through ∧
    (receive (tasksGate.under .enforce) viewerMetadata deleteTask).answer staffed =
      .ok (.ended ⟨.permissionDenied, "Tasks: DeleteTask denied: Role viewer may not delete task",
        [("denial-code", "insufficient_role")]⟩) ∧
    (receive (tasksGate.under .warn) viewerMetadata deleteTask).answer staffed = .ok .through ∧
    (∃ privilege,
      (authorize Guard.sharedDeletion).answer staffed = .ok (.allow .team privilege)) ∧
    (authorize strangersDeletion).answer staffed = .ok unseen ∧ unseen.Explained := by
  intro d
  obtain ⟨roles, loaded⟩ := Registry.loads_standard
  have isOpen := open_served .standard false
  obtain ⟨-, through, -⟩ := receive_guarded tasksGate d rootMetadata deleteTask loaded isOpen
  have root : (receive (tasksGate.under .enforce) rootMetadata deleteTask).answer d = .ok .through :=
    through.mpr (.inr ⟨_, _, .allow .global .unrestricted, asks_deleteTask .standard false, rfl, rfl⟩)
  -- The other deployment has the guard of the first one.
  obtain ⟨-, through, -⟩ := receive_guarded tasksGate staffed memberMetadata deleteTask loaded isOpen
  obtain ⟨-, -, -, explained, ⟨-, warned⟩, -⟩ :=
    receive_guarded tasksGate staffed viewerMetadata deleteTask loaded isOpen
  refine ⟨⟨⟨roles, loaded⟩, isOpen, root⟩, ?_, ?_, ?_, ?_, ?_⟩
  · exact through.mpr (.inr ⟨_, _, _, asks_member, by rfl, by rfl⟩)
  · exact ended_viewer
  · rw [warned, ended_viewer]
    rfl
  · exact ⟨_, by rfl⟩
  · exact ⟨answer_stranger, explained _ _ answer_stranger⟩

open Sample in
/-- Where the time that a change waits for the reads before it is none that can be measured, a call is
neither let through nor ended, by a gate that enforces and by one that warns. -/
theorem Deployment.boundless_flush_stops_call :
    let settings : AuditSettings := ⟨1.0 / 0.0⟩
    let d := served settings true
    AuditSettings.check [("flush_timeout_seconds", .float (1.0 / 0.0))] = .ok settings ∧
      (receive (tasksGate.under .enforce) rootMetadata deleteTask).answer d =
        .error (.misuse .waitTooLong) ∧
      (receive (tasksGate.under .warn) rootMetadata deleteTask).answer d =
        .error (.misuse .waitTooLong) := by
  intro settings d
  obtain ⟨roles, loaded⟩ := Registry.loads_standard
  have isOpen := open_served settings true
  have untimed : settings.isTimed = false := by decide +kernel
  have overruns : d.guard.Overruns .delete := ⟨rfl, _, rfl, ⟨rfl, nofun⟩, untimed⟩
  have broke : (receive (tasksGate.under .enforce) rootMetadata deleteTask).answer d =
      .error (.misuse .waitTooLong) :=
    (Gate.broken_iff loaded isOpen _).mpr ⟨rfl, _, _, asks_deleteTask settings true, overruns⟩
  have warned := (Gate.receive_warned tasksGate (Gate.authorizing d.sources)
    (d.authenticate rootMetadata) deleteTask d.guard).2
  refine ⟨rfl, broke, warned.trans ?_⟩
  exact congrArg (Except.map fun _ => Passage.through) broke

end TenantAccess

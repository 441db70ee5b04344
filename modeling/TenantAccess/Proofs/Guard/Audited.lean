import TenantAccess.Proofs.Audit.Interleaving
import TenantAccess.Proofs.Guard.Resolution

/-! # What a guard hands out

A guard records a decision before it hands it out. A decision on a change is handed out only if the sink
has taken its event; otherwise the caller is told so, and the sink has taken nothing. This is so when
nothing else happens on the trail, and whatever else happens on it.
-/

namespace TenantAccess

open Relation

namespace Guard

variable {g : Guard} {s : Sources} {q : AccessRequest} {roles : RoleTable} {t : Trail}
  {e : AuditEvent}

/-! ## Recording a change -/

theorem settle_of_idle (idle : t.pace = 0) : Trail.settle.next t = t := by
  change (Trail.work t.pace).next t = t
  rw [idle]
  rfl

theorem recordOn_of_drained (change : e.isMutating = true) (drains : t.queue.length ≤ t.pace) :
    (recordOn e).next t = { t with
      queue := []
      sink := { t.sink with offers := t.sink.offers ++
        (t.queue.map fun e => ⟨e, t.sink.refusal⟩) ++ [⟨e, t.sink.refusal⟩] } } ∧
    (recordOn e).answer t = (Trail.writeThrough e).answer t := by
  obtain ⟨next, answer⟩ := Trail.record_of_change change t
  obtain ⟨written, told⟩ := Trail.write_of_drained drains e
  have worked : (Trail.work t.pace).next t = { t with
      queue := []
      sink := { t.sink with offers := t.sink.offers ++ t.queue.map fun e => ⟨e, t.sink.refusal⟩ } } := by
    rw [Trail.work_next, List.drop_of_length_le drains, List.take_of_length_le drains]
  constructor
  · simp only [recordOn, Step.next_bind, Step.next_pure, next, written, worked,
      Trail.writeThrough_next, Sink.offer]
    apply settle_of_idle
    simp [Trail.pace]
  · simp only [recordOn, Step.answer_bind, Step.answer_pure, answer, told, worked,
      Trail.writeThrough_answer]

theorem recordOn_of_undrained (change : e.isMutating = true) (undrained : t.pace < t.queue.length) :
    (recordOn e).next t = t ∧ (recordOn e).answer t = .error t.expiry := by
  have idle : t.pace = 0 := by
    unfold Trail.pace at undrained ⊢
    split
    · rfl
    · next free =>
        rw [if_neg free] at undrained
        omega
  obtain ⟨next, answer⟩ := Trail.record_of_change change t
  obtain ⟨left, told⟩ := Trail.write_of_undrained undrained e
  have same : (Trail.work t.pace).next t = t := by
    rw [idle]
    rfl
  constructor
  · simp only [recordOn, Step.next_bind, Step.next_pure, next, left, same]
    exact settle_of_idle idle
  · simp only [recordOn, Step.answer_bind, Step.answer_pure, answer, told]

theorem events_append (s : Sink) (offers : List Offer) :
    ({ s with offers := s.offers ++ offers } : Sink).events =
      s.events ++ (offers.filter (·.refusal.isNone)).map (·.event) := by
  simp [Sink.events]

/-- A change that is recorded reaches the sink after the reads that wait, and one that fails does not
reach it. -/
theorem recordOn_change (change : e.isMutating = true) (t : Trail) :
    (∀ receipt, (recordOn e).answer t = .ok receipt →
      ((recordOn e).next t).sink.events = t.sink.events ++ t.queue ++ [e]) ∧
    (∀ f, (recordOn e).answer t = .error f →
      ((recordOn e).next t).sink.events = t.sink.events ∧
      (f = .fault .auditUnavailable ∨ f = .misuse .waitTooLong ∧ t.settings.isTimed = false ∧
        t.sink.isStuck = true ∧ t.queue ≠ [])) := by
  rcases Nat.lt_or_ge t.pace t.queue.length with undrained | drains
  · obtain ⟨next, answer⟩ := recordOn_of_undrained change undrained
    rw [next, answer]
    refine ⟨fun receipt ok => (by cases ok), ?_⟩
    intro f failed
    cases failed
    have stuck : t.sink.isStuck = true := by
      by_contra free
      rw [Trail.pace, if_neg free] at undrained
      exact Nat.lt_irrefl _ undrained
    have waits : t.queue ≠ [] := by
      intro empty
      simp [empty] at undrained
    refine ⟨rfl, ?_⟩
    rcases t.expiry_cases with told | ⟨told, untimed⟩
    · exact .inl told
    · exact .inr ⟨told, untimed, stuck, waits⟩
  · obtain ⟨next, answer⟩ := recordOn_of_drained change drains
    rw [next, answer, Trail.writeThrough_answer]
    simp only [List.append_assoc, events_append]
    cases t.sink.refusal with
    | none =>
        refine ⟨fun _ _ => ?_, fun f failed => (by cases failed)⟩
        simp [List.filter_map, Function.comp_def]
    | some refusal =>
        refine ⟨fun receipt ok => (by cases ok), ?_⟩
        intro f failed
        cases failed
        exact ⟨by simp [List.filter_map, Function.comp_def], .inl rfl⟩

/-! ## Answering a request -/

variable {d : Decision}

/-- What a caller is told whose decision was recorded with this answer. -/
def told (d : Decision) (a : Except Failure Receipt) : Except Failure Decision := a.map fun _ => d

theorem answer_record (g : Guard) (q : AccessRequest) (d : Decision) :
    (record q d).answer g =
      match g.trail with
      | none => .ok ()
      | some t => ((recordOn (event q d)).answer t).map fun _ => () := by
  simp only [Step.answer, record]
  cases g.trail <;> rfl

theorem trail_record (g : Guard) (q : AccessRequest) (d : Decision) :
    ((record q d).next g).trail = g.trail.map (recordOn (event q d)).next := by
  simp only [Step.next, record]
  cases held : g.trail with
  | none => exact held
  | some t => rfl

/-- A request is resolved, and then its decision is recorded. -/
theorem authorize_of_resolved (resolved : (resolve s q).answer g = .ok d) :
    (authorize s q).answer g = ((record q d).answer ((resolve s q).next g)).map (fun _ => d) ∧
      (authorize s q).next g = (record q d).next ((resolve s q).next g) := by
  simp only [authorize, Step.answer_bind, Step.next_bind, resolved]
  cases d.isDenied <;> exact ⟨rfl, rfl⟩

theorem answer_authorize (resolved : (resolve s q).answer g = .ok d) :
    (authorize s q).answer g =
      match g.trail with
      | none => .ok d
      | some t => told d ((recordOn (event q d)).answer t) := by
  rw [(authorize_of_resolved resolved).1, answer_record, trail_resolve]
  cases g.trail with
  | none => rfl
  | some t =>
      simp only [told]
      cases (recordOn (event q d)).answer t <;> rfl

theorem trail_authorize (resolved : (resolve s q).answer g = .ok d) :
    ((authorize s q).next g).trail = g.trail.map (recordOn (event q d)).next := by
  rw [(authorize_of_resolved resolved).2, trail_record, trail_resolve]

theorem answer_require (s : Sources) (q : AccessRequest) (g : Guard) :
    (require s q).answer g =
      match (authorize s q).answer g with
      | .error f => .error f
      | .ok d => if d.isDenied then .error (.fault (.refused d none [])) else .ok d := by
  simp only [require, Step.answer_bind]
  cases (authorize s q).answer g <;> rfl

theorem told_eq_ok {a : Except Failure Receipt} {d' : Decision} (handed : told d a = .ok d') :
    (∃ receipt, a = .ok receipt) ∧ d' = d := by
  cases a with
  | error f => cases handed
  | ok receipt =>
      cases handed
      exact ⟨⟨receipt, rfl⟩, rfl⟩

theorem told_eq_error {a : Except Failure Receipt} {f : Failure} (failed : told d a = .error f) :
    a = .error f := by
  cases a with
  | error f' =>
      cases failed
      rfl
  | ok receipt => cases failed

/-- What is handed out is the decision. -/
theorem eq_of_authorize {d' : Decision} (resolved : (resolve s q).answer g = .ok d)
    (handed : (authorize s q).answer g = .ok d') : d' = d := by
  rw [answer_authorize resolved] at handed
  split at handed
  · cases handed
    rfl
  · exact (told_eq_ok handed).2

theorem authorize_change {t : Trail} (resolved : (resolve s q).answer g = .ok d)
    (attached : g.trail = some t) (change : q.pair.action.isMutating = true) :
    ∃ t', ((authorize s q).next g).trail = some t' ∧
      (∀ d', (authorize s q).answer g = .ok d' → d' = d ∧
        t'.sink.events = t.sink.events ++ t.queue ++ [event q d]) ∧
      (∀ f, (authorize s q).answer g = .error f → t'.sink.events = t.sink.events ∧
        (f = .fault .auditUnavailable ∨ f = .misuse .waitTooLong ∧ t.settings.isTimed = false ∧
          t.sink.isStuck = true ∧ t.queue ≠ [])) := by
  have answer := answer_authorize resolved
  obtain ⟨accepted, failed⟩ := recordOn_change (e := event q d) change t
  rw [trail_authorize resolved, attached]
  rw [attached] at answer
  refine ⟨_, rfl, ?_, ?_⟩
  · intro d' handed
    rw [answer] at handed
    obtain ⟨⟨receipt, ok⟩, same⟩ := told_eq_ok handed
    exact ⟨same, accepted receipt ok⟩
  · intro f refused
    rw [answer] at refused
    exact failed f (told_eq_error refused)

theorem require_allowed {d' : Decision} (resolved : (resolve s q).answer g = .ok d)
    (handed : (require s q).answer g = .ok d') : d' = d ∧ d'.isAllowed = true := by
  rw [answer_require] at handed
  split at handed
  · cases handed
  · next d'' authorized =>
      split at handed
      · cases handed
      · next admitted =>
          cases handed
          refine ⟨eq_of_authorize resolved authorized, ?_⟩
          simpa [Decision.isDenied] using admitted

/-- Whatever else happens on a trail, a decision on a change is handed out only once the sink has
taken its event. -/
theorem told_of_answered {settings : AuditSettings} {r : SharedTrail} {i : Nat}
    {a : Except Failure Receipt} (reached : ReflTransGen SharedTrail.Move (.empty settings) r)
    (change : q.pair.action.isMutating = true) (recorded : r.recorded[i]? = some (event q d))
    (answered : (i, a) ∈ r.answers) :
    (∀ d', told d a = .ok d' → d' = d ∧ r.offered.count i = 1 ∧
      ∃ o, r.Met i o ∧ o.event = event q d ∧ o.refusal = none) ∧
    (∀ f, told d a = .error f →
      (f = .fault .auditUnavailable ∨ f = .misuse .waitTooLong ∧ settings.isTimed = false) ∧
      ∀ later, ReflTransGen SharedTrail.Move r later → ∀ o, later.Met i o → o.refusal ≠ none) := by
  have sound := SharedTrail.sound_of_reached reached
  cases a with
  | ok receipt =>
      refine ⟨?_, fun f failed => (by cases failed)⟩
      intro d' same
      cases same
      obtain ⟨o, met, same, taken⟩ := SharedTrail.accepted_of_ok sound recorded change answered
      exact ⟨rfl, SharedTrail.count_of_met sound.toInLine met, o, met, same, taken⟩
  | error f =>
      refine ⟨fun d' same => (by cases same), ?_⟩
      intro f' same
      cases same
      have bears := (sound.answers i _ answered).2
      have settings : r.trail.settings = settings := SharedTrail.settings_kept reached
      refine ⟨?_, SharedTrail.unaccepted_of_error reached answered⟩
      rcases bears.2 _ recorded change with failed | expired
      · exact .inl failed
      · rw [expired, ← settings]
        exact r.trail.expiry_cases

/-- A guard whose role table loads decides a request from what its caches answer. On a change it hands
the decision out once the sink has taken its event, and fails otherwise; this is so as well where the
record of the decision is one of many calls on a shared trail. -/
theorem authorize_audited (loaded : Registry.table.answer g.roles = .ok roles) (s : Sources)
    (q : AccessRequest) :
    ∃ d, g.Decides roles s q d ∧
      (g.trail = none → (authorize s q).answer g = .ok d) ∧
      (∀ t, g.trail = some t →
        (authorize s q).answer g = told d ((recordOn (event q d)).answer t)) ∧
      (∀ t, g.trail = some t → q.pair.action.isMutating = true →
        ∃ t', ((authorize s q).next g).trail = some t' ∧
          (∀ d', (authorize s q).answer g = .ok d' → d' = d ∧
            t'.sink.events = t.sink.events ++ t.queue ++ [event q d]) ∧
          (∀ f, (authorize s q).answer g = .error f → t'.sink.events = t.sink.events ∧
            (f = .fault .auditUnavailable ∨ f = .misuse .waitTooLong ∧ t.settings.isTimed = false ∧
              t.sink.isStuck = true ∧ t.queue ≠ []))) ∧
      (∀ settings r i a, ReflTransGen SharedTrail.Move (.empty settings) r →
        q.pair.action.isMutating = true → r.recorded[i]? = some (event q d) → (i, a) ∈ r.answers →
        (∀ d', told d a = .ok d' → d' = d ∧ r.offered.count i = 1 ∧
          ∃ o, r.Met i o ∧ o.event = event q d ∧ o.refusal = none) ∧
        (∀ f, told d a = .error f →
          (f = .fault .auditUnavailable ∨ f = .misuse .waitTooLong ∧ settings.isTimed = false) ∧
          ∀ later, ReflTransGen SharedTrail.Move r later → ∀ o, later.Met i o → o.refusal ≠ none)) ∧
      (∀ d', (require s q).answer g = .ok d' → d' = d ∧ d'.isAllowed = true) := by
  obtain ⟨d, resolved, decides⟩ := decides_resolve loaded s q
  refine ⟨d, decides, ?_, ?_, ?_, ?_, ?_⟩
  · intro detached
    rw [answer_authorize resolved, detached]
  · intro t attached
    rw [answer_authorize resolved, attached]
  · intro t attached change
    exact authorize_change resolved attached change
  · intro settings r i a reached change recorded answered
    exact told_of_answered reached change recorded answered
  · intro d' handed
    exact require_allowed resolved handed

/-- A read by somebody else. -/
def look : AuditEvent := ⟨"u-1", .task, .view, .deny .outOfScope "no", none⟩

/-- The system administrator deletes something. -/
def deletion : AccessRequest :=
  ⟨⟨"root", Role.systemAdminId, .free, []⟩, ⟨.task, .delete⟩, none, none⟩

/-- A member deletes a colleague's task that their team shares. -/
def sharedDeletion : AccessRequest :=
  ⟨⟨"u-2", "member", .pro, []⟩, ⟨.task, .delete⟩,
    some ⟨"u-1", .team, some "t-1", some "org-1"⟩, none⟩

/-- Nothing is on record. -/
def nowhere : Sources where
  memberships _ := ⟨.prompt, .ok []⟩
  snapshot organizationId := ⟨.prompt, .error (.fault (.organizationNotFound organizationId))⟩

/-- What a row of the team leaves of the plan. -/
def fewTasks : Quota := ⟨some 5, some 20, .ofList ["batch_operations"]⟩

/-- The member is in the team, and a row of the team lets its members delete what it shares. -/
def onRecord : Sources where
  memberships _ := ⟨.prompt, .ok [⟨"u-2", .team, "t-1", "member"⟩]⟩
  snapshot _ := ⟨.prompt, .ok (.gather ⟨"org-1", "Org"⟩ [] [⟨"t-1", "org-1", none⟩]
    [⟨.team, "t-1", "org-1", "member",
      .ofList [(⟨.task, .delete⟩, ⟨.allow, some .team, some fewTasks⟩)], 1, true⟩])⟩

/-- A guard that has recorded a read. -/
def looked (settings : AuditSettings) (isStuck : Bool) : Guard :=
  { Guard.empty .standard .standard .standard true with
    trail := some ⟨settings, [look], false, { Sink.empty with isStuck }⟩ }

theorem answer_onRecord : (authorize onRecord sharedDeletion).answer (looked .standard false) =
    .ok (.allow .team ⟨"pro_task_delete", .pro, some fewTasks⟩) := by rfl

theorem answer_nowhere : (authorize nowhere sharedDeletion).answer (looked .standard false) =
    .ok Engine.notResolved := by rfl

/-- The decision on a deletion is handed out when the sink has its event, after the read: that of the
system administrator, and that of a member, which rests on the memberships and the row that were looked
up. Where nothing is on record the member is refused, and the sink has the refusal. -/
theorem authorize_audited_deletion :
    let g := looked .standard false
    let recorded := fun (s : Sources) (q : AccessRequest) (d : Decision) =>
      (authorize s q).answer g = .ok d ∧
        ∃ t', ((authorize s q).next g).trail = some t' ∧ t'.sink.events = [look, event q d]
    recorded nowhere deletion (.allow .global .unrestricted) ∧
      recorded onRecord sharedDeletion
        (.allow .team ⟨"pro_task_delete", .pro, some fewTasks⟩) ∧
      recorded nowhere sharedDeletion Engine.notResolved := by
  intro g recorded
  have loads : (Registry.table.answer g.roles).isOk = true := by decide +kernel
  cases loaded : Registry.table.answer g.roles with
  | error m =>
      rw [loaded] at loads
      cases loads
  | ok roles =>
      have audited (s : Sources) (q : AccessRequest) (d : Decision)
          (change : q.pair.action.isMutating = true) (answer : (authorize s q).answer g = .ok d) :
          recorded s q d := by
        obtain ⟨d', -, -, -, audited, -, -⟩ := authorize_audited loaded s q
        obtain ⟨t', left, handed, -⟩ := audited _ rfl change
        obtain ⟨same, events⟩ := handed d answer
        cases same
        exact ⟨answer, t', left, events⟩
      refine ⟨?_, ?_, ?_⟩
      · exact audited _ _ _ rfl rfl
      · exact audited _ _ _ rfl answer_onRecord
      · exact audited _ _ _ rfl answer_nowhere

/-- A time to wait that is not a time is accepted. A decision on a change is then neither handed out
nor refused as out of reach: the guard fails in a way that its callers are not told of. -/
theorem boundless_flush_breaks :
    let settings : AuditSettings := ⟨1.0 / 0.0⟩
    AuditSettings.check [("flush_timeout_seconds", .float (1.0 / 0.0))] = .ok settings ∧
      (authorize nowhere deletion).answer (looked settings true) = .error (.misuse .waitTooLong) := by
  intro settings
  have untimed : settings.isTimed = false := by decide +kernel
  have resolved : (resolve nowhere deletion).answer (looked settings true) =
      .ok (.allow .global .unrestricted) := rfl
  have change : (event deletion (.allow .global .unrestricted)).isMutating = true := rfl
  have undrained := recordOn_of_undrained
    (t := ⟨settings, [look], false, { Sink.empty with isStuck := true }⟩) change (by decide)
  refine ⟨rfl, ?_⟩
  rw [answer_authorize resolved]
  simp only [looked, undrained.2, Trail.expiry, untimed, told]
  rfl

end Guard

end TenantAccess

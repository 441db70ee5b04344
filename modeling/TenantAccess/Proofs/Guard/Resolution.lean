import TenantAccess.Guard
import TenantAccess.Proofs.Cache.Freshness
import TenantAccess.Proofs.Decision.Vetted

/-! # What a guard decides

A guard asks its cache of memberships and its cache of snapshots, in this order. Where one of them has
no answer the request is refused, in words that tell a thing that does not exist from a thing out of
reach. Otherwise the decision is the engine's, on the memberships and the snapshot that the caches gave.
-/

namespace TenantAccess

namespace Clocked

theorem now_fetch {ν : Type} (s : Clocked ν) (key : String) (l : Loading ν) :
    ((fetch key (pure l)).next s).now = s.now := by
  simp only [Step.next, fetch]
  split <;> rfl

theorem now_get {ν : Type} (s : Clocked ν) (key : String) (l : Loading ν) :
    ((get key (pure l)).next s).now = s.now := by
  simp only [Step.next, get]
  split
  · rfl
  · exact s.now_fetch key l

/-- A read that fails says that there is nothing, or that nothing can be reached. -/
theorem known_of_get {ν : Type} {s : Clocked ν} {key : String} {l : Loading ν} {f : Fault}
    (failed : (get key (pure l)).answer s = .error f) :
    f.isNotFound = true ∨ f.isUnavailable = true := by
  have exit := s.exit_get key none l
  simp only [fetching, failed] at exit
  rcases exit.of_error with unavailable | ⟨missing, -⟩
  · exact .inr unavailable
  · exact .inl missing

end Clocked

namespace Guard

variable {g : Guard} {s : Sources} {q : AccessRequest} {roles : RoleTable}

/-- What the cache of memberships answers. -/
def askMemberships (g : Guard) (s : Sources) (userId : String) : Except Fault (List Membership) :=
  (Clocked.get userId (pure (s.memberships userId))).answer g.clockedMemberships

/-- What the cache of snapshots answers, where a target asks for one. -/
def askSnapshot (g : Guard) (s : Sources) (target : Option Target) : Except Fault (Option Snapshot) :=
  match target.bind fun t => given? t.organizationId with
  | none => .ok none
  | some organizationId =>
    ((Clocked.get organizationId (pure (s.snapshot organizationId))).answer g.clockedSnapshots).map some

/-- Looking things up changes the caches only. -/
inductive LookedUp (g : Guard) : Guard → Prop
  | caches (memberships : Cache (List Membership)) (snapshots : Cache Snapshot) :
      LookedUp g { g with memberships, snapshots }

theorem next_lookUpMemberships (g : Guard) (s : Sources) (userId : String) :
    ∃ memberships, (lookUpMemberships s userId).next g = { g with memberships } := by
  refine ⟨((Clocked.get userId (pure (s.memberships userId))).next g.clockedMemberships).cache, ?_⟩
  have now := Clocked.now_get g.clockedMemberships userId (s.memberships userId)
  simp only [lookUpMemberships, onMemberships, Step.next_within, now]
  rfl

theorem answer_lookUpSnapshot (g : Guard) (s : Sources) (target : Option Target) :
    (lookUpSnapshot s target).answer g = g.askSnapshot s target := by
  unfold lookUpSnapshot askSnapshot
  cases target.bind fun t => given? t.organizationId <;> rfl

theorem next_lookUpSnapshot (g : Guard) (s : Sources) (target : Option Target) :
    ∃ snapshots, (lookUpSnapshot s target).next g = { g with snapshots } := by
  unfold lookUpSnapshot
  cases target.bind fun t => given? t.organizationId with
  | none => exact ⟨g.snapshots, rfl⟩
  | some organizationId =>
      have now := Clocked.now_get g.clockedSnapshots organizationId (s.snapshot organizationId)
      refine ⟨((Clocked.get organizationId (pure (s.snapshot organizationId))).next
        g.clockedSnapshots).cache, ?_⟩
      simp only [Step.next_bind, Step.next_pure, onSnapshots, Step.next_within, now]
      rfl

theorem answer_materialize (g : Guard) (s : Sources) (q : AccessRequest) :
    (materialize s q).answer g =
      match g.askMemberships s q.user.id with
      | .error f => .error f
      | .ok memberships => (g.askSnapshot s q.target).map fun snapshot =>
          (q.user.withMemberships memberships, snapshot) := by
  obtain ⟨memberships, left⟩ := g.next_lookUpMemberships s q.user.id
  have asked : (lookUpMemberships s q.user.id).answer g = g.askMemberships s q.user.id := rfl
  simp only [materialize, Step.answer_bind, asked, left]
  cases g.askMemberships s q.user.id with
  | error f => rfl
  | ok found => simp only [Step.answer_bind, Step.answer_pure, answer_lookUpSnapshot]; rfl

theorem lookedUp_materialize (g : Guard) (s : Sources) (q : AccessRequest) :
    g.LookedUp ((materialize s q).next g) := by
  obtain ⟨memberships, left⟩ := g.next_lookUpMemberships s q.user.id
  simp only [materialize, Step.next_bind, left]
  cases (lookUpMemberships s q.user.id).answer g with
  | error f => exact .caches memberships g.snapshots
  | ok found =>
      obtain ⟨snapshots, left⟩ := next_lookUpSnapshot { g with memberships } s q.target
      simp only [Step.next_bind, Step.next_pure, left]
      exact .caches memberships snapshots

/-- All that a refusal says of what could not be looked up. -/
def reasonFor (f : Fault) : String :=
  if f.isNotFound then "Target could not be resolved"
  else "Authorization data is temporarily unavailable"

theorem refusalFor_eq (f : Fault) : refusalFor f = .deny .resolutionError (reasonFor f) := by
  unfold refusalFor reasonFor
  split <;> rfl

/-- How a request is decided. -/
inductive Decides (g : Guard) (roles : RoleTable) (s : Sources) (q : AccessRequest) : Decision → Prop
  | systemAdmin (admin : q.user.role = Role.systemAdminId) :
      Decides g roles s q ((g.policy.engine roles).decide q.user q.pair q.target none)
  | withoutMemberships {f : Fault} (ordinary : q.user.role ≠ Role.systemAdminId)
      (failed : g.askMemberships s q.user.id = .error f)
      (known : f.isNotFound = true ∨ f.isUnavailable = true) :
      Decides g roles s q (.deny .resolutionError (reasonFor f))
  | withoutSnapshot {f : Fault} {memberships : List Membership}
      (ordinary : q.user.role ≠ Role.systemAdminId)
      (found : g.askMemberships s q.user.id = .ok memberships)
      (failed : g.askSnapshot s q.target = .error f)
      (known : f.isNotFound = true ∨ f.isUnavailable = true) :
      Decides g roles s q (.deny .resolutionError (reasonFor f))
  | resolved {memberships : List Membership} {snapshot : Option Snapshot}
      (ordinary : q.user.role ≠ Role.systemAdminId)
      (found : g.askMemberships s q.user.id = .ok memberships)
      (seen : g.askSnapshot s q.target = .ok snapshot) :
      Decides g roles s q ((g.policy.engine roles).decide (q.user.withMemberships memberships) q.pair
        q.target snapshot)

theorem known_of_askSnapshot {f : Fault} {target : Option Target}
    (failed : g.askSnapshot s target = .error f) : f.isNotFound = true ∨ f.isUnavailable = true := by
  unfold askSnapshot at failed
  split at failed
  · cases failed
  · next organizationId named =>
      cases answered : (Clocked.get organizationId (pure (s.snapshot organizationId))).answer
          g.clockedSnapshots with
      | ok snapshot =>
          rw [answered] at failed
          cases failed
      | error f' =>
          rw [answered] at failed
          cases failed
          exact Clocked.known_of_get answered

theorem answer_decideWith (loaded : Registry.table.answer g.roles = .ok roles) (user : User)
    (snapshot : Option Snapshot) :
    (decideWith q user snapshot).answer g =
      .ok ((g.policy.engine roles).decide user q.pair q.target snapshot) := by
  simp only [decideWith, Step.answer_bind, Step.answer_get, Step.next_get, onRoles, Step.answer_within]
  exact g.policy.answer_decidePair user q.pair q.target snapshot loaded

/-- Deciding leaves the trail as it is. -/
theorem trail_resolve (g : Guard) (s : Sources) (q : AccessRequest) :
    ((resolve s q).next g).trail = g.trail := by
  unfold resolve
  split
  · rfl
  · have looked := g.lookedUp_materialize s q
    simp only [Step.next_bind]
    generalize (materialize s q).next g = left at looked
    obtain ⟨memberships, snapshots⟩ := looked
    split
    · rfl
    · rfl

theorem decides_resolve (loaded : Registry.table.answer g.roles = .ok roles) (s : Sources)
    (q : AccessRequest) : ∃ d, (resolve s q).answer g = .ok d ∧ g.Decides roles s q d := by
  unfold resolve
  by_cases admin : q.user.role = Role.systemAdminId
  · rw [if_pos admin]
    exact ⟨_, answer_decideWith loaded q.user none, .systemAdmin admin⟩
  · have looked := g.lookedUp_materialize s q
    rw [if_neg admin]
    simp only [Step.answer_bind, answer_materialize]
    generalize (materialize s q).next g = left at looked
    obtain ⟨memberships, snapshots⟩ := looked
    cases found : g.askMemberships s q.user.id with
    | error f =>
        refine ⟨_, congrArg Except.ok (refusalFor_eq f), ?_⟩
        exact .withoutMemberships admin found (Clocked.known_of_get found)
    | ok given =>
        cases seen : g.askSnapshot s q.target with
        | error f =>
            refine ⟨_, congrArg Except.ok (refusalFor_eq f), ?_⟩
            exact .withoutSnapshot admin found seen (known_of_askSnapshot seen)
        | ok snapshot =>
            refine ⟨_, ?_, .resolved admin found seen⟩
            exact answer_decideWith (g := { g with memberships, snapshots }) loaded _ snapshot

end Guard

end TenantAccess

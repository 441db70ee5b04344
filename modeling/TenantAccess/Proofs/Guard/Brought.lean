import TenantAccess.Guard

/-! # Memberships that callers bring

A request may come from a user who already has memberships attached. The guard puts those on record in
their place before anything is decided, and where nothing is looked up, for the system administrator,
memberships are not asked about. What is noted of a request, and what is recorded, names the user only.
So requests that differ in the memberships that are brought cannot be told apart: not by the decision,
not by the event, and not by anything that the guard keeps.
-/

namespace TenantAccess

/-- The same request from a user who brings other memberships. -/
def AccessRequest.bringing (q : AccessRequest) (memberships : List Membership) : AccessRequest :=
  { q with user := q.user.withMemberships memberships }

theorem User.withMemberships_again (u : User) (brought memberships : List Membership) :
    (u.withMemberships brought).withMemberships memberships = u.withMemberships memberships := rfl

/-- The system administrator is let through without a look at memberships. -/
theorem Policy.decidePair_of_systemAdmin (p : Policy) {user : User}
    (admin : user.role = Role.systemAdminId) (brought : List Membership) (pair : Pair)
    (target : Option Target) (snapshot : Option Snapshot) :
    p.decidePair (user.withMemberships brought) pair target snapshot =
      p.decidePair user pair target snapshot := by
  have roles : rolesFor (user.withMemberships brought) = rolesFor user := rfl
  have passed (roles : RoleTable) :
      (p.engine roles).deliberate (user.withMemberships brought) pair target snapshot =
        (p.engine roles).deliberate user pair target snapshot := by
    rw [Engine.deliberate, Engine.deliberate, if_pos admin]
    exact if_pos admin
  have noted (d : Deliberation) :
      report (user.withMemberships brought) pair d = report user pair d := rfl
  simp only [decidePair, roles, passed, noted]

namespace Guard

/-- What is looked up goes by the user's identifier and the target, and replaces what was brought. -/
theorem materialize_bringing (s : Sources) (q : AccessRequest) (brought : List Membership) :
    materialize s (q.bringing brought) = materialize s q := by
  have asked : lookUpMemberships s (q.bringing brought).user.id = lookUpMemberships s q.user.id := rfl
  have replaced (memberships : List Membership) :
      (q.bringing brought).user.withMemberships memberships = q.user.withMemberships memberships :=
    q.user.withMemberships_again brought memberships
  have target : (q.bringing brought).target = q.target := rfl
  simp only [materialize, asked, replaced, target]

theorem decideWith_bringing (q : AccessRequest) (brought : List Membership) (user : User)
    (snapshot : Option Snapshot) :
    decideWith (q.bringing brought) user snapshot = decideWith q user snapshot := rfl

theorem refusalEntries_bringing (q : AccessRequest) (brought : List Membership) (f : Fault) :
    refusalEntries (q.bringing brought) f = refusalEntries q f := rfl

theorem resolve_bringing (s : Sources) (q : AccessRequest) (brought : List Membership) :
    resolve s (q.bringing brought) = resolve s q := by
  have role : (q.bringing brought).user.role = q.user.role := rfl
  unfold resolve
  rw [role]
  by_cases admin : q.user.role = Role.systemAdminId
  · rw [if_pos admin, if_pos admin]
    have decided (g : Guard) :
        g.policy.decidePair (q.bringing brought).user q.pair q.target none =
          g.policy.decidePair q.user q.pair q.target none :=
      g.policy.decidePair_of_systemAdmin admin brought q.pair q.target none
    rw [decideWith_bringing]
    simp only [decideWith, decided]
  · rw [if_neg admin, if_neg admin]
    simp only [materialize_bringing, decideWith_bringing, refusalEntries_bringing]

theorem event_bringing (q : AccessRequest) (brought : List Membership) (d : Decision) :
    event (q.bringing brought) d = event q d := rfl

theorem deniedEntry_bringing (q : AccessRequest) (brought : List Membership) (d : Decision) :
    deniedEntry (q.bringing brought) d = deniedEntry q d := rfl

theorem record_bringing (q : AccessRequest) (brought : List Membership) (d : Decision) :
    record (q.bringing brought) d = record q d := by
  unfold record
  rw [event_bringing]

theorem authorize_bringing (s : Sources) (q : AccessRequest) (brought : List Membership) :
    authorize s (q.bringing brought) = authorize s q := by
  unfold authorize
  simp only [resolve_bringing, deniedEntry_bringing, record_bringing]

/-- Two users who differ in their memberships alone are answered alike, leave the guard alike, with its
caches and its trail, have the same noted of them, and are recorded with the same event. -/
theorem brought_unseen (s : Sources) (q : AccessRequest) (brought brought' : List Membership)
    (g : Guard) :
    (authorize s (q.bringing brought)).answer g = (authorize s (q.bringing brought')).answer g ∧
      (authorize s (q.bringing brought)).next g = (authorize s (q.bringing brought')).next g ∧
      (authorize s (q.bringing brought)).written g = (authorize s (q.bringing brought')).written g ∧
      (∀ d, event (q.bringing brought) d = event (q.bringing brought') d) ∧
      require s (q.bringing brought) = require s (q.bringing brought') := by
  have same : authorize s (q.bringing brought) = authorize s (q.bringing brought') :=
    (authorize_bringing s q brought).trans (authorize_bringing s q brought').symm
  have recorded (d : Decision) : event (q.bringing brought) d = event (q.bringing brought') d :=
    (event_bringing q brought d).trans (event_bringing q brought' d).symm
  refine ⟨?_, ?_, ?_, recorded, ?_⟩
  · rw [same]
  · rw [same]
  · rw [same]
  · simp only [require, same]

end Guard

end TenantAccess

import TenantAccess.Proofs.Decision.Passage
import TenantAccess.Proofs.Hierarchy.Differences
import TenantAccess.Proofs.Hierarchy.Levels

/-! # Rows that cannot matter

There are five reasons why a row has no influence on a decision: it stands off the way, its role does
not bind the user, it says nothing of the pair, it gives access to others, or it stands below a level
that is closed with it and without it. `decide_of_irrelevant` puts in and takes out rows of all five
kinds at once.
-/

namespace TenantAccess

namespace Engine

/-- Levels down to the first that is closed, in two snapshots. -/
structure ClosedFirst (e : Engine) (user : User) (pair : Pair) (s s' : Snapshot)
    (outer : List Level) (level : Level) : Prop where
  above : ∀ l ∈ outer, Resolution.closes (e.speaker user pair s) l = false ∧
    Resolution.closes (e.speaker user pair s') l = false
  closed : Resolution.closes (e.speaker user pair s) level = true ∧
    Resolution.closes (e.speaker user pair s') level = true

/-- Why a row that one of two snapshots lists and the other does not cannot matter for a request. -/
inductive Irrelevant (e : Engine) (user : User) (pair : Pair) (target : Option Target)
    (s s' : Snapshot) (row : Row) : Prop where
  /-- It is about nothing that the request passes through. -/
  | outside (away : ∀ t levels, target = some t → e.Passes s t levels →
      ∀ level ∈ levels, row.standsAt level = false)
  /-- It is for another role, which is not above the user's. -/
  | unranked (other : row.role ≠ user.role)
      (notAbove : ∀ rank roleLevel, RoleTable.levelOf? e.roles row.role = some rank →
        RoleTable.levelOf? e.roles user.role = some roleLevel → rank ≤ roleLevel)
  /-- It has no rule for the pair. -/
  | silent (none_ : row.ruleFor pair = none)
  /-- It gives access, and to another role. -/
  | allows {rule : Override} (other : row.role ≠ user.role) (holds : row.ruleFor pair = some rule)
      (allowed : rule.effect = .allow)
  /-- It stands only below a level that is the first closed one in both snapshots. -/
  | below {t : Target} {outer inner : List Level} {level : Level} (named : target = some t)
      (passes : e.Passes s t (outer ++ level :: inner))
      (first : e.ClosedFirst user pair s s' outer level)
      (under : ∀ l ∈ outer ++ [level], row.standsAt l = false)

variable {e : Engine} {user : User} {pair : Pair} {target : Option Target} {s s' : Snapshot}

theorem Passes.unique {t : Target} {levels levels' : List Level} (h : e.Passes s t levels)
    (h' : e.Passes s t levels') : levels = levels' := by
  obtain ⟨named, found⟩ := h
  obtain ⟨named', found'⟩ := h'
  cases named.symm.trans named'
  exact Except.ok.inj (found.symm.trans found')

/-- A level above which nothing is closed lies outside of what a closed level shuts off. -/
theorem ClosedFirst.covers {outer inner outer' inner' : List Level} {level level' : Level}
    (first : e.ClosedFirst user pair s s' outer level)
    (open_ : ∀ l ∈ outer', Resolution.closes (e.speaker user pair s) l = false)
    (split : outer ++ level :: inner = outer' ++ level' :: inner') :
    level' ∈ outer ++ [level] := by
  rcases List.append_eq_append_iff.mp split with ⟨gap, rfl, tail⟩ | ⟨gap, rfl, tail⟩
  · cases gap with
    | nil => simp [(List.cons.inj tail).1]
    | cons l gap =>
        obtain ⟨rfl, -⟩ := List.cons.inj tail
        have shut := first.closed.1
        rw [open_ level (by simp)] at shut
        cases shut
  · cases gap with
    | nil => simp [(List.cons.inj tail).1]
    | cons l gap =>
        obtain ⟨rfl, -⟩ := List.cons.inj tail
        simp

/-- On the way down to the first closed level, a row that cannot matter is mute. -/
theorem Irrelevant.muteAt {row : Row} (h : e.Irrelevant user pair target s s' row) {t : Target}
    {outer inner : List Level} {level : Level} (named : target = some t)
    (passes : e.Passes s t (outer ++ level :: inner))
    (open_ : ∀ l ∈ outer, Resolution.closes (e.speaker user pair s) l = false) :
    Snapshot.MuteAt e.roles user.role (.ofPair pair) level row := by
  intro here
  have noDenial {roleLevel : Int}
      (h : ∀ rank rule, RoleTable.levelOf? e.roles row.role = some rank → roleLevel < rank →
        row.ruleFor pair = some rule → rule.isDeny = true → False) :
      Snapshot.higherDenial? e.roles user.role roleLevel (.ofPair pair) row = none := by
    refine Option.eq_none_iff_forall_ne_some.mpr fun d denial => ?_
    obtain ⟨-, ranked, above, holds, denies, -⟩ := (Snapshot.higherDenial?_eq_some_iff ..).mp denial
    exact h d.rank d.rule ranked above holds denies
  cases h with
  | outside away =>
      rw [away t _ named passes level (by simp)] at here
      cases here
  | unranked other notAbove =>
      refine ⟨fun own => absurd own other, fun roleLevel userRank => noDenial ?_⟩
      intro rank rule ranked above holds denies
      have low := notAbove rank roleLevel ranked userRank
      omega
  | silent none_ =>
      refine ⟨fun own => none_, fun roleLevel userRank => noDenial ?_⟩
      intro rank rule ranked above holds denies
      rw [none_] at holds
      cases holds
  | @allows allowing other holds allowed =>
      refine ⟨fun own => absurd own other, fun roleLevel userRank => noDenial ?_⟩
      intro rank rule ranked above held denies
      cases holds.symm.trans held
      rw [isDeny_iff, allowed] at denies
      cases denies
  | @below t' outer' inner' level' named' passes' first under =>
      cases named.symm.trans named'
      have covered := first.covers open_ (passes'.unique passes)
      rw [under level covered] at here
      cases here

/-- A decision does not depend on rows that cannot matter: whichever of them are put in or taken out,
and wherever they stand among the others, it stays the same. -/
theorem decide_of_irrelevant (e : Engine) (user : User) (pair : Pair) (target : Option Target)
    {s s' : Snapshot} (organization : s'.organization = s.organization)
    (departments : s'.departments = s.departments) (teams : s'.teams = s.teams)
    (filed : ∀ key row, s.rows.get? key = some row → row.key = key)
    (filed' : ∀ key row, s'.rows.get? key = some row → row.key = key)
    (differ : DifferIn (e.Irrelevant user pair target s s') s.rows.values s'.rows.values) :
    e.decide user pair target (some s') = e.decide user pair target (some s) := by
  have levels (organizationId : String) (teamId : Option String) :
      s'.levels e.maxDepth organizationId none teamId =
        s.levels e.maxDepth organizationId none teamId :=
    Snapshot.levels_congr organization (fun _ => by rw [departments]) (fun _ => by rw [teams]) ..
  rcases decide_eq_or_passes user pair target levels with
    same | ⟨t, way, rfl, ordinary, valid, passes⟩
  · exact same
  · have passes' := (passes_congr levels).mpr passes
    rw [decide_of_passes pair ordinary valid passes, decide_of_passes pair ordinary valid passes']
    refine congrArg (e.decideGiven user pair (some t)) (Resolution.override_of_heard ?_ none)
    rintro outer level inner rfl heard
    have mute := differ.imp fun row irrelevant =>
      irrelevant.muteAt rfl passes fun l member => (heard l member).1
    exact Snapshot.governing?_of_differ filed filed' mute

end Engine

namespace Sample

/-- Nobody has ranked guests. -/
def guestRule : Row := row .organization "org-1" "guest" .denying false

def otherTeamRule : Row := row .team "t-2" "viewer" .denying false

def memberAllowance : Row := row .department "d-1" "member" (.allowing none none) false

def silentRow : Row := ⟨.department, "d-1", "org-1", "viewer", .empty, 4, false⟩

def crowded : Snapshot :=
  snapshot [otherTeamRule, guestRule, orgRule, memberAllowance, silentRow]

end Sample

open Sample in
/-- Four rows of no interest come in, and the team's rule, which comes too late, is left out. -/
theorem Engine.decide_of_irrelevant_crowded :
    DifferIn (engine.Irrelevant viewer deletion (some teamTask) (snapshot [orgRule, teamRule])
        crowded) (snapshot [orgRule, teamRule]).rows.values crowded.rows.values ∧
      engine.decide viewer deletion (some teamTask) (some crowded) =
        engine.decide viewer deletion (some teamTask) (some (snapshot [orgRule, teamRule])) := by
  have way : engine.Passes (snapshot [orgRule, teamRule]) teamTask
      [⟨.organization, "org-1"⟩, ⟨.department, "d-1"⟩, ⟨.team, "t-1"⟩] := .through rfl rfl
  have first : engine.Passes (snapshot [orgRule, teamRule]) teamTask
      ([] ++ ⟨.organization, "org-1"⟩ :: [⟨.department, "d-1"⟩, ⟨.team, "t-1"⟩]) := way
  have late : engine.Irrelevant viewer deletion (some teamTask) (snapshot [orgRule, teamRule])
      crowded teamRule := .below rfl first ⟨nofun, by decide, by decide⟩ (by decide)
  have away : engine.Irrelevant viewer deletion (some teamTask) (snapshot [orgRule, teamRule])
      crowded otherTeamRule := by
    refine .outside ?_
    rintro t levels ⟨⟩ passes
    rw [passes.unique way]
    decide
  have unranked : RoleTable.levelOf? engine.roles guestRule.role = none := by decide
  have differ : DifferIn (engine.Irrelevant viewer deletion (some teamTask)
      (snapshot [orgRule, teamRule]) crowded) [orgRule, teamRule]
      [otherTeamRule, guestRule, orgRule, memberAllowance, silentRow] := by
    refine .second away (.second (.unranked (by decide) ?_) (.both (.first late
      (.second (.allows (by decide) rfl rfl) (.second (.silent rfl) .nil)))))
    intro rank roleLevel ranked
    rw [unranked] at ranked
    cases ranked
  exact ⟨differ, decide_of_irrelevant _ _ _ _ rfl rfl rfl (Snapshot.filed_gather ..).row
    (Snapshot.filed_gather ..).row differ⟩

end TenantAccess

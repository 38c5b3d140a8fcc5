import Webhookery.Store.Database

/-!
# Explained authorization decisions

`ExplainAuthorization` asks for a baseline role, then for one role binding of the user, then for one role
binding of the user's groups, and lets one access policy rule overrule the outcome. Each query looks at one
row only, and the query for groups does not look at the group. A query that fails counts like one without rows.
-/

namespace Webhookery.Identity

open Go Relational Store

/-! ## Roles -/

inductive Role where
  | owner | admin | developer | operator | security | auditor | support
  | other (name : String)
  deriving DecidableEq, Repr

def roleAllows (role : Role) (scope : String) : Bool :=
  match role with
  | .owner => true
  | .admin => scope != "events:raw" && scope != "security:write"
  | .developer =>
    ["sources:read", "sources:write", "endpoints:read", "endpoints:write", "subscriptions:read",
      "subscriptions:write", "routes:read", "routes:write", "schemas:read", "schemas:write", "events:read",
      "events:write", "deliveries:read", "deliveries:retry", "replay:read", "replay:write",
      "incidents:read", "incidents:write"].contains scope
  | .operator =>
    ["sources:read", "endpoints:read", "subscriptions:read", "routes:read", "schemas:read", "events:read",
      "events:write", "deliveries:read", "deliveries:retry", "replay:read", "replay:write",
      "incidents:read", "incidents:write", "ops:read", "ops:write"].contains scope
  | .security =>
    ["security:read", "security:write", "audit:read", "events:read", "events:raw", "incidents:read",
      "incidents:write"].contains scope
  | .auditor =>
    ["audit:read", "events:read", "events:raw", "deliveries:read", "replay:read", "security:read",
      "incidents:read"].contains scope
  | .support => ["events:read", "deliveries:read", "replay:read", "incidents:read"].contains scope
  | .other _ => false

structure Actor where
  (id tenantID : String)
  role : Role
  scopes : List String

/-- `Can`: an actor without scopes has those of the role. -/
def can (actor : Actor) (scope resourceTenantID : String) : Bool :=
  if actor.tenantID = "" ∨ resourceTenantID = "" ∨ actor.tenantID ≠ resourceTenantID then false
  else if !roleAllows actor.role scope then false
  else actor.scopes.isEmpty || actor.scopes.any fun s ↦ s == scope || s == "*"

/-! ## Tables -/

structure TenantMembership where
  (id tenantID userID : String)
  role : Role
  state : String

structure RoleBinding where
  (id tenantID principalType principalID : String)
  role : Role
  (resourceFamily resourceID environment state : String)
  createdAt : Time

structure SCIMGroup where
  (id tenantID state : String)

structure SCIMGroupMembership where
  (tenantID groupID userID : String)

structure AccessPolicyRule where
  (id tenantID action effect resourceFamily environment state : String)
  createdAt : Time

structure AuthzDecisionLog where
  (id tenantID actorID action resourceFamily resourceID environment : String)
  allowed : Bool
  (matchedRoleBindingID matchedPolicyRuleID reason : String)

structure IdentityDB where
  memberships : Table TenantMembership (·.id) (fun m ↦ some (m.tenantID, m.userID))
  roleBindings : Table RoleBinding (·.id) noIndex
  scimGroups : Table SCIMGroup (·.id) noIndex
  scimGroupMemberships : List SCIMGroupMembership
  accessPolicyRules : Table AccessPolicyRule (·.id) noIndex
  authzDecisionLogs : Table AuthzDecisionLog (·.id) noIndex

/-! ## Decisions -/

/-- The tenant and the actor of a call, with its `AuthzExplainRequest`. -/
structure Inquiry where
  (tenantID actorID action resourceFamily resourceID environment : String)
  attributes : List (String × String)

structure Resource where
  (tenantID family id environment : String)
  attributes : List (String × String)

structure Decision where
  allowed : Bool
  action : String
  resource : Resource
  reason : String
  matchedRole : Option Role
  (matchedRoleBindingID matchedPolicyRuleID : String)

def defaultWildcard (value : String) : String :=
  if trimSpace value = "" then "*" else trimSpace value

/-- A column that is a wildcard or the value. -/
def admits (column value : String) : Bool := column == "*" || column == value

/-- The statements of a decision. -/
inductive Query where
  | membership | userBinding | groupBinding | policyRule | decisionLog

/-- The orders in which the queries of a decision meet rows that were created at the same time. -/
structure Scans where
  bindings : Scan RoleBinding
  rules : Scan AccessPolicyRule

/-- The row that a query gives: an error is not told from no row. -/
def answer {α : Type} (failed : Query → Bool) (query : Query) (row : Option α) : Option α :=
  if failed query then none else row

section Queries

variable (scans : Scans) (failed : Query → Bool) (q : Inquiry) (db : IdentityDB)

/-- An active binding of the tenant for the resource. -/
def RoleBinding.covers (b : RoleBinding) : Bool :=
  b.tenantID == q.tenantID && b.state == "active" && admits b.resourceFamily q.resourceFamily &&
    admits b.resourceID (defaultWildcard q.resourceID) &&
    admits b.environment (defaultWildcard q.environment)

def RoleBinding.ofUser (b : RoleBinding) : Bool := b.principalType == "user" && b.principalID == q.actorID

/-- The join with `scim_group_memberships`. -/
def RoleBinding.ofMember (b : RoleBinding) : Bool :=
  b.principalType == "group" && db.scimGroupMemberships.any fun gm ↦
    gm.tenantID == b.tenantID && gm.groupID == b.principalID && gm.userID == q.actorID

/-- An active rule of the tenant for the request. -/
def AccessPolicyRule.covers (rule : AccessPolicyRule) : Bool :=
  rule.tenantID == q.tenantID && rule.state == "active" && admits rule.action q.action &&
    admits rule.resourceFamily q.resourceFamily && admits rule.environment (defaultWildcard q.environment)

/-- `ORDER BY CASE effect WHEN 'deny' THEN 0 ELSE 1 END, created_at DESC`. -/
def AccessPolicyRule.before (rule rule' : AccessPolicyRule) : Bool :=
  if (rule.effect == "deny") = (rule'.effect == "deny") then rule.createdAt > rule'.createdAt
  else rule.effect == "deny"

def membership : Option TenantMembership :=
  db.memberships.find? fun m ↦ m.tenantID == q.tenantID && m.userID == q.actorID && m.state == "active"

def userBinding : Option RoleBinding :=
  db.roleBindings.firstIn scans.bindings (fun b ↦ b.covers q && b.ofUser q) fun b b' ↦ b.createdAt > b'.createdAt

def groupBinding : Option RoleBinding :=
  db.roleBindings.firstIn scans.bindings (fun b ↦ b.covers q && b.ofMember q db) fun b b' ↦ b.createdAt > b'.createdAt

def policyRule : Option AccessPolicyRule :=
  db.accessPolicyRules.firstIn scans.rules (AccessPolicyRule.covers q) AccessPolicyRule.before

/-- The role permits the action. -/
def permits (role : Role) : Bool := can ⟨q.actorID, q.tenantID, role, []⟩ q.action q.tenantID

/-- The decision by roles. -/
def decideByRole : Decision :=
  let decision : Decision :=
    ⟨false, q.action, ⟨q.tenantID, q.resourceFamily, q.resourceID, q.environment, q.attributes⟩,
      "no matching role binding or baseline role", none, "", ""⟩
  match (answer failed .membership (membership q db)).filter fun m ↦ permits q m.role with
  | some m => { decision with
      allowed := true, matchedRole := m.role, reason := "allowed by baseline role" }
  | none =>
    match (answer failed .userBinding (userBinding scans q db)).filter fun b ↦ permits q b.role with
    | some b => { decision with
        allowed := true, matchedRole := b.role, matchedRoleBindingID := b.id
        reason := "allowed by resource role binding" }
    | none =>
      match (answer failed .groupBinding (groupBinding scans q db)).filter fun b ↦ permits q b.role with
      | some b => { decision with
          allowed := true, matchedRole := b.role, matchedRoleBindingID := b.id
          reason := "allowed by group role binding" }
      | none => decision

/-- The decision after the access policy rules. -/
def explain : Decision :=
  let decision := decideByRole scans failed q db
  match answer failed .policyRule (policyRule scans q db) with
  | none => decision
  | some rule =>
    let matched := { decision with matchedPolicyRuleID := rule.id }
    if rule.effect = "deny" then { matched with allowed := false, reason := "denied by access policy" }
    else if rule.effect = "allow" then
      { matched with allowed := true, reason := "allowed by access policy" }
    else matched

/-- `ExplainAuthorization` when some statements fail: it never returns an error. -/
def explainAuthorizationWith (logID : String) : Decision × IdentityDB :=
  let d := explain scans failed q db
  let logged := answer failed .decisionLog (db.authzDecisionLogs.insert?
    ⟨logID, q.tenantID, q.actorID, q.action, q.resourceFamily, q.resourceID, q.environment, d.allowed,
      d.matchedRoleBindingID, d.matchedPolicyRuleID, d.reason⟩)
  (d, { db with authzDecisionLogs := logged.getD db.authzDecisionLogs })

def explainAuthorization (logID : String) : Decision × IdentityDB :=
  explainAuthorizationWith scans (fun _ ↦ false) q db logID

/-! ## What a decision stands for -/

/-- A rule with the effect covers the request. -/
def Ruled (effect : String) : Prop :=
  ∃ rule ∈ db.accessPolicyRules, rule.covers q = true ∧ rule.effect = effect

/-- The role of the user's active membership permits the action. -/
def PermittedByMembership : Prop :=
  ∃ m ∈ db.memberships, m.tenantID = q.tenantID ∧ m.userID = q.actorID ∧ m.state = "active" ∧
    permits q m.role = true

/-- A binding of the user, or of an active group with the user as a member, permits the action. -/
def PermittedByBinding : Prop :=
  ∃ b ∈ db.roleBindings, b.covers q = true ∧ permits q b.role = true ∧
    (b.ofUser q = true ∨ b.ofMember q db = true ∧
      ∃ g ∈ db.scimGroups, g.tenantID = q.tenantID ∧ g.id = b.principalID ∧ g.state = "active")

def Permitted : Prop :=
  ¬Ruled q db "deny" ∧ (Ruled q db "allow" ∨ PermittedByMembership q db ∨ PermittedByBinding q db)

/-- The newest binding of the user permits the action, or the newest one of any group of the user. -/
def NewestPermits : Prop :=
  ∃ b, (userBinding scans q db = some b ∨ groupBinding scans q db = some b) ∧ permits q b.role = true

/-- A query that did not fail gives a role that permits the action. -/
def PermittedByRole : Prop :=
  failed .membership = false ∧ PermittedByMembership q db ∨
    ∃ b, (failed .userBinding = false ∧ userBinding scans q db = some b ∨
      failed .groupBinding = false ∧ groupBinding scans q db = some b) ∧ permits q b.role = true

/-- It is left to the newest bindings to decide, and they do not stand for the others: they permit the action,
as bindings of groups that are not active, and nothing else does; or they hide an allow rule or a binding that does. -/
def Misjudged : Prop :=
  ¬Ruled q db "deny" ∧ ¬(∃ rule, policyRule scans q db = some rule ∧ rule.effect = "allow") ∧
    ¬PermittedByMembership q db ∧
    (NewestPermits scans q db ∧ ¬Ruled q db "allow" ∧ ¬PermittedByBinding q db ∨
      ¬NewestPermits scans q db ∧ (Ruled q db "allow" ∨ PermittedByBinding q db))

end Queries

variable {scans : Scans} {failed : Query → Bool} {q : Inquiry} {db : IdentityDB}

theorem membership_permits_iff :
    (∃ m, membership q db = some m ∧ permits q m.role = true) ↔ PermittedByMembership q db := by
  have hone : ∀ m ∈ db.memberships, ∀ m' ∈ db.memberships,
      (m.tenantID == q.tenantID && m.userID == q.actorID && m.state == "active") = true →
      (m'.tenantID == q.tenantID && m'.userID == q.actorID && m'.state == "active") = true → m = m' := by
    intro m hm m' hm' h h'
    simp only [Bool.and_eq_true, beq_iff_eq] at h h'
    exact Table.eq_of_index_eq hm hm' (by rw [h.1.1, h.1.2]) (by rw [h'.1.1, h'.1.2])
  rw [membership, Table.exists_find?_iff hone]
  simp only [PermittedByMembership, Bool.and_eq_true, beq_iff_eq, and_assoc]

theorem isSome_filter_iff {α : Type} {o : Option α} {p : α → Bool} :
    (o.filter p).isSome = true ↔ ∃ a, o = some a ∧ p a = true := by
  cases o <;> simp [Option.isSome_filter]

theorem answer_eq_some {α : Type} {query : Query} {row : Option α} {a : α} :
    answer failed query row = some a ↔ failed query = false ∧ row = some a := by
  cases h : failed query <;> simp [answer, h]

theorem decideByRole_allowed_iff : (decideByRole scans failed q db).allowed = true ↔ PermittedByRole scans failed q db := by
  rw [PermittedByRole, ← membership_permits_iff, ← exists_and_left]
  simp only [← and_assoc, ← answer_eq_some, or_and_right, exists_or, ← isSome_filter_iff]
  unfold decideByRole
  generalize (answer failed .membership (membership q db)).filter _ = m,
    (answer failed .userBinding (userBinding scans q db)).filter _ = b,
    (answer failed .groupBinding (groupBinding scans q db)).filter _ = b'
  cases m <;> cases b <;> cases b' <;> simp

/-- A rule that denies comes first. -/
theorem ruled_deny_iff : Ruled q db "deny" ↔ ∃ rule, policyRule scans q db = some rule ∧ rule.effect = "deny" := by
  constructor
  · rintro ⟨rule, hrule, hcovers, hdeny⟩
    have hsome : (policyRule scans q db).isSome = true := Table.isSome_firstIn.mpr ⟨rule, hrule, hcovers⟩
    obtain ⟨first, hfirst⟩ := Option.isSome_iff_exists.mp hsome
    have hkind (a b : AccessPolicyRule) (ha : a.effect = "deny") (hb : ¬b.effect = "deny") :
        a.before b = true ∧ b.before a = false := by
      simp [AccessPolicyRule.before, ha, hb]
    have hdenies := Table.firstIn_kind hkind hfirst hrule hcovers hdeny
    exact ⟨first, hfirst, hdenies⟩
  · rintro ⟨rule, hrule, hdeny⟩
    obtain ⟨hmem, hcovers⟩ := Table.mem_of_firstIn hrule
    exact ⟨rule, hmem, hcovers, hdeny⟩

theorem explain_allowed_iff :
    (explain scans failed q db).allowed = true ↔ ¬(failed .policyRule = false ∧ Ruled q db "deny") ∧
      (failed .policyRule = false ∧ (∃ rule, policyRule scans q db = some rule ∧ rule.effect = "allow") ∨
        PermittedByRole scans failed q db) := by
  rw [ruled_deny_iff, ← decideByRole_allowed_iff]
  simp only [← exists_and_left, ← and_assoc, ← answer_eq_some]
  unfold explain
  cases answer failed .policyRule (policyRule scans q db) with
  | none => simp
  | some rule =>
    by_cases hdeny : rule.effect = "deny"
    · simp [hdeny]
    · by_cases hallow : rule.effect = "allow" <;> simp [hdeny, hallow]

/-- A deny rule is passed over exactly when its query fails and a role is found that permits the action. -/
theorem deny_rule_bypassed_iff (logID : String) :
    Ruled q db "deny" ∧ (explainAuthorizationWith scans failed q db logID).1.allowed = true ↔
      Ruled q db "deny" ∧ failed .policyRule = true ∧ PermittedByRole scans failed q db := by
  rw [show (explainAuthorizationWith scans failed q db logID).1 = explain scans failed q db from rfl, explain_allowed_iff]
  cases failed .policyRule with
  | false => simp +contextual
  | true => simp

/-- The query for the rules fails, and an owner passes over the rule that denies. -/
theorem deny_rule_bypassed :
    ∃ (failed : Query → Bool) (q : Inquiry) (db : IdentityDB), Ruled q db "deny" ∧
      (explainAuthorizationWith ⟨.sequential, .sequential⟩ failed q db "adl_1").1.allowed = true := by
  let rule : AccessPolicyRule := ⟨"apr_1", "ten_1", "replay:write", "deny", "*", "*", "active", 0⟩
  let db : IdentityDB :=
    { memberships := ⟨[⟨"mem_1", "ten_1", "usr_1", .owner, "active"⟩], by decide, by decide⟩
      roleBindings := .empty
      scimGroups := .empty
      scimGroupMemberships := []
      accessPolicyRules := ⟨[rule], by decide, by decide⟩
      authzDecisionLogs := .empty }
  refine ⟨fun | .policyRule => true | _ => false, ⟨"ten_1", "usr_1", "replay:write", "replay", "", "", []⟩, db,
    ⟨rule, List.mem_singleton_self _, by decide +kernel, rfl⟩, by decide +kernel⟩

/-- The decision is the one the rules and roles ask for, unless it is left to the newest bindings and they
do not stand for the others. -/
theorem explainAuthorization_allowed_iff (logID : String) :
    ((explainAuthorization scans q db logID).1.allowed = true ↔ Permitted q db) ↔ ¬Misjudged scans q db := by
  have hroles : PermittedByRole scans (fun _ ↦ false) q db ↔ PermittedByMembership q db ∨ NewestPermits scans q db := by
    simp [PermittedByRole, NewestPermits]
  rw [show (explainAuthorization scans q db logID).1 = explain scans (fun _ ↦ false) q db from rfl, explain_allowed_iff, hroles]
  have hallow (h : ∃ rule, policyRule scans q db = some rule ∧ rule.effect = "allow") : Ruled q db "allow" := by
    obtain ⟨rule, hrule, heffect⟩ := h
    obtain ⟨hmem, hcovers⟩ := Table.mem_of_firstIn hrule
    exact ⟨rule, hmem, hcovers, heffect⟩
  rw [Permitted, Misjudged]
  by_cases hfirst : ∃ rule, policyRule scans q db = some rule ∧ rule.effect = "allow"
  · simp [hfirst, hallow hfirst]
  · by_cases hdeny : Ruled q db "deny" <;> by_cases hrole : PermittedByMembership q db <;>
      simp only [hfirst, hdeny, hrole] <;> tauto

/-- A binding of a group that was deactivated still counts. -/
theorem explainAuthorization_deactivated_group :
    ∃ (q : Inquiry) (db : IdentityDB),
      (explainAuthorization ⟨.sequential, .sequential⟩ q db "adl_1").1.allowed = true ∧ ¬Permitted q db := by
  let binding : RoleBinding := ⟨"rbn_1", "ten_1", "group", "grp_1", .admin, "*", "*", "*", "active", 0⟩
  refine ⟨⟨"ten_1", "usr_1", "endpoints:write", "endpoint", "", "", []⟩,
    { memberships := .empty
      roleBindings := ⟨[binding], by decide, by decide⟩
      scimGroups := ⟨[⟨"grp_1", "ten_1", "disabled"⟩], by decide, by decide⟩
      scimGroupMemberships := [⟨"ten_1", "grp_1", "usr_1"⟩]
      accessPolicyRules := .empty
      authzDecisionLogs := .empty }, by decide +kernel, ?_⟩
  rintro ⟨-, ⟨_, hrule, -⟩ | ⟨_, hm, -⟩ | ⟨b, hb, -, -, huser | ⟨-, g, hg, -, -, hactive⟩⟩⟩
  · cases hrule
  · cases hm
  · obtain rfl := List.mem_singleton.mp hb
    exact absurd huser (by decide)
  · obtain rfl := List.mem_singleton.mp hg
    exact absurd hactive (by decide)

end Webhookery.Identity

import Webhookery.Identity.Authorization

/-!
# Authenticated actors

An API key or a session acts for a member of a tenant, with the role that the membership has when it is used,
and `Authorize` looks the role up again. The bootstrap key is an owner by configuration; the store knows nothing
of it.
-/

namespace Webhookery.Identity

open Go Relational Store

structure User where
  (id email name state : String)
  deriving DecidableEq

structure APIKey where
  (id tenantID userID name keyHash : String)
  scopes : List String
  state : String
  expiresAt : Option Time

structure IdentityProvider where
  (id tenantID state : String)
  allowedEmailDomains : List String

structure ExternalIdentity where
  (id tenantID userID identityProviderID externalSubject email : String)
  emailVerified : Bool
  (displayName state : String)

structure AuthSession where
  (id tenantID userID externalIdentityID sessionHash state : String)
  expiresAt : Time

/-- The identity tables with the accounts. The users are those of all tenants. -/
structure AccountsDB extends IdentityDB where
  users : Table User (·.id) (fun u ↦ if u.email = "" then none else some (toLower u.email))
  apiKeys : Table APIKey (·.id) (fun k ↦ some k.keyHash)
  identityProviders : Table IdentityProvider (·.id) noIndex
  externalIdentities : Table ExternalIdentity (·.id)
    (fun e ↦ some (e.tenantID, e.identityProviderID, e.externalSubject))
  authSessions : Table AuthSession (·.id) (fun s ↦ some s.sessionHash)

/-- Why a service did not do what it was asked for. -/
inductive IdentityError where
  | forbidden | unauthorized | notFound | failed
  | invalidInput (message : String)

def check (p : Prop) [Decidable p] (e : IdentityError) : Except IdentityError Unit :=
  if p then .ok () else .error e

/-- A statement that may fail, also by a constraint that is not modelled. -/
def statement (env : Env) : Except IdentityError Unit := check (env.connectionFails = false) .failed

/-! ## Authentication -/

/-- The actor for a member: the join with the active membership. -/
def memberActor (tenantID userID : String) (scopes : List String) (db : IdentityDB) : Option Actor :=
  (db.memberships.find? fun m ↦ m.tenantID == tenantID && m.userID == userID && m.state == "active").map
    fun m ↦ ⟨userID, tenantID, m.role, scopes⟩

def authenticateAPIKey (now : Time) (keyHash : String) (db : AccountsDB) : Option Actor := do
  let k ← db.apiKeys.find? fun k ↦ k.keyHash == keyHash && k.state == "active" && k.expiresAt.all (now < ·)
  memberActor k.tenantID k.userID k.scopes db.toIdentityDB

/-- The external identity of a session and its provider, where there are such rows, are active. -/
def AuthSession.linked (s : AuthSession) (db : AccountsDB) : Bool :=
  (db.externalIdentities.find? (·.id == s.externalIdentityID)).all fun e ↦ e.state == "active" &&
    (db.identityProviders.find? (·.id == e.identityProviderID)).all (·.state == "active")

def authenticateSession (now : Time) (sessionHash : String) (db : AccountsDB) : Option Actor := do
  let s ← db.authSessions.find? fun s ↦ s.sessionHash == sessionHash && s.state == "active" &&
    now < s.expiresAt && s.linked db
  memberActor s.tenantID s.userID [] db.toIdentityDB

structure Config where
  (bootstrapAPIKeyHash bootstrapTenantID : String)

/-- The actor of the bootstrap key. -/
def Config.bootstrap (cfg : Config) : Actor := ⟨"bootstrap", cfg.bootstrapTenantID, .owner, ["*"]⟩

/-- `HashToken`. -/
def hashToken (crypto : Crypto) (rawToken : String) : String := "sha256:" ++ hexEncode (crypto.sha256 (bytesOf rawToken))

section Tokens

variable (crypto : Crypto) (cfg : Config) (now : Time) (token : String) (db : AccountsDB)

/-- `runtimeAuth`: the key of the database, and else the bootstrap key. -/
def runtimeAuth : Option Actor :=
  if token = "" then none
  else (authenticateAPIKey now (hashToken crypto token) db).or
    (if cfg.bootstrapAPIKeyHash ≠ "" ∧ hashToken crypto token = cfg.bootstrapAPIKeyHash then some cfg.bootstrap else none)

/-- `SessionAuthenticator`. -/
def sessionAuth : Option Actor := if token = "" then none else authenticateSession now (hashToken crypto token) db

/-- An actor that an authenticator of the runtime returns. -/
def Authenticated (actor : Actor) : Prop :=
  runtimeAuth crypto cfg now token db = some actor ∨ sessionAuth crypto now token db = some actor

end Tokens

/-! ## Authorization -/

structure AuthorizationRequest where
  actor : Actor
  (tenantID action resourceFamily resourceID environment : String)

def actorScopesAllow (actor : Actor) (action : String) : Bool :=
  actor.scopes.isEmpty || actor.scopes.any fun scope ↦ scope == "*" || scope == action

/-- The question that is put to the store. -/
def AuthorizationRequest.inquiry (req : AuthorizationRequest) : Inquiry :=
  ⟨trimSpace req.tenantID, req.actor.id, trimSpace req.action, trimSpace req.resourceFamily,
    trimSpace req.resourceID, trimSpace req.environment, []⟩

/-- `Authorize`: the store never answers with an error, so that its fallback is not reached; what it logs is
left out. -/
def authorize (scans : Scans) (req : AuthorizationRequest) (db : IdentityDB) : Decision :=
  let q := req.inquiry
  let decision : Decision := ⟨false, q.action,
    ⟨q.tenantID, q.resourceFamily, q.resourceID, q.environment, []⟩, "authorization context is incomplete",
    none, "", ""⟩
  if req.actor.id = "" ∨ req.actor.tenantID = "" ∨ q.tenantID = "" ∨ q.action = "" ∨ q.resourceFamily = "" then
    decision
  else if req.actor.tenantID ≠ q.tenantID then
    { decision with reason := "actor tenant does not match resource tenant" }
  else
    let explained := (explainAuthorization scans q db "").1
    if explained.allowed && !actorScopesAllow req.actor q.action then
      { explained with allowed := false, reason := "actor scope does not allow action" }
    else explained

/-- `authorized`, for a resource of the actor's tenant. -/
def authorized (scans : Scans) (actor : Actor) (action resourceFamily resourceID environment : String) (db : IdentityDB) : Bool :=
  (authorize scans ⟨actor, actor.tenantID, action, resourceFamily, resourceID, environment⟩ db).allowed

/-- The request names an actor, an action and a family, and its tenant is the actor's. -/
structure AuthorizationRequest.Complete (req : AuthorizationRequest) : Prop where
  actor : req.actor.id ≠ ""
  tenant : req.actor.tenantID ≠ ""
  action : trimSpace req.action ≠ ""
  family : trimSpace req.resourceFamily ≠ ""
  same : req.actor.tenantID = trimSpace req.tenantID

variable {scans : Scans} {crypto : Crypto} {cfg : Config} {now : Time} {token : String} {req : AuthorizationRequest}

theorem authorize_allowed_iff :
    (authorize scans req db).allowed = true ↔ req.Complete ∧ actorScopesAllow req.actor req.inquiry.action = true ∧
      (explain scans (fun _ ↦ false) req.inquiry db).allowed = true := by
  have hexplain : (explainAuthorization scans req.inquiry db "").1 = explain scans (fun _ ↦ false) req.inquiry db := rfl
  unfold authorize
  simp only [hexplain]
  split
  case isTrue hfields =>
    refine ⟨nofun, fun ⟨hcomplete, _⟩ ↦ ?_⟩
    simp [AuthorizationRequest.inquiry, ← hcomplete.same, hcomplete.actor, hcomplete.tenant, hcomplete.action,
      hcomplete.family] at hfields
  case isFalse hfields =>
    push Not at hfields
    obtain ⟨hactor, htenant, -, haction, hfamily⟩ := hfields
    split
    case isTrue hsame => exact ⟨nofun, fun ⟨hcomplete, _⟩ ↦ absurd hcomplete.same hsame⟩
    case isFalse hsame =>
      have hcomplete : req.Complete := ⟨hactor, htenant, haction, hfamily, not_not.mp hsame⟩
      cases hallowed : (explain scans (fun _ ↦ false) req.inquiry db).allowed <;>
        cases hscopes : actorScopesAllow req.actor req.inquiry.action <;> simp [hallowed, hcomplete]

theorem membership_of_memberActor (h : memberActor tenantID userID scopes db = some actor) :
    ∃ m ∈ db.memberships, m.tenantID = actor.tenantID ∧ m.userID = actor.id ∧ m.state = "active" ∧
      m.role = actor.role := by
  obtain ⟨m, hfind, rfl⟩ := Option.map_eq_some_iff.mp h
  have hmatch := List.find?_some hfind
  simp only [Bool.and_eq_true, beq_iff_eq] at hmatch
  exact ⟨m, List.mem_of_find?_eq_some hfind, hmatch.1.1, hmatch.1.2, hmatch.2, rfl⟩

variable {db : AccountsDB} {actor : Actor}

/-- The role of an actor is the one of the active membership, but for the bootstrap key. -/
theorem Authenticated.membership (h : Authenticated crypto cfg now token db actor) :
    actor = cfg.bootstrap ∨ ∃ m ∈ db.memberships, m.tenantID = actor.tenantID ∧ m.userID = actor.id ∧
      m.state = "active" ∧ m.role = actor.role := by
  rcases h with h | h
  · unfold runtimeAuth at h
    split at h
    · cases h
    · rcases Option.or_eq_some_iff.mp h with h | ⟨-, h⟩
      · obtain ⟨_, -, h⟩ := Option.bind_eq_some_iff.mp h
        exact .inr (membership_of_memberActor h)
      · split at h
        · exact .inl (Option.some.inj h).symm
        · cases h
  · unfold sessionAuth at h
    split at h
    · cases h
    · obtain ⟨_, -, h⟩ := Option.bind_eq_some_iff.mp h
      exact .inr (membership_of_memberActor h)

theorem actorScopesAllow_of_can (h : can actor action tenantID = true) :
    roleAllows actor.role action = true ∧ actorScopesAllow actor action = true := by
  unfold can at h
  split at h
  · cases h
  · split at h
    · cases h
    · refine ⟨by simpa using ‹¬(!roleAllows actor.role action) = true›, ?_⟩
      simpa only [actorScopesAllow, Bool.or_comm (_ == "*")] using h

/-- An actor is allowed what the role and the scopes permit, unless it is the bootstrap key and the stored
roles do not permit it. -/
theorem authorize_authenticated_iff (hactor : Authenticated crypto cfg now token db req.actor)
    (hrules : ∀ rule ∈ db.accessPolicyRules, rule.covers req.inquiry = false)
    (hcan : can req.actor (trimSpace req.action) req.tenantID = true) :
    (authorize scans req db.toIdentityDB).allowed = true ↔ req.Complete ∧
      (req.actor = cfg.bootstrap → PermittedByRole scans (fun _ ↦ false) req.inquiry db.toIdentityDB) := by
  obtain ⟨hrole, hscopes⟩ := actorScopesAllow_of_can hcan
  have hruled (effect : String) : ¬Ruled req.inquiry db.toIdentityDB effect := by
    rintro ⟨rule, hmem, hcovers, -⟩
    exact absurd hcovers (by simp [hrules rule hmem])
  have hfirst (rule : AccessPolicyRule) : policyRule scans req.inquiry db.toIdentityDB ≠ some rule := by
    intro hrule
    obtain ⟨hmem, hcovers⟩ := Table.mem_of_firstIn hrule
    exact absurd hcovers (by simp [hrules rule hmem])
  have hinquiry : req.inquiry.action = trimSpace req.action := rfl
  rw [authorize_allowed_iff, explain_allowed_iff]
  simp only [hruled, hfirst, hinquiry, hscopes, true_and, and_false, false_and, exists_false, not_false_eq_true,
    false_or]
  refine and_congr_right fun hcomplete ↦ ⟨fun h _ ↦ h, fun h ↦ ?_⟩
  rcases hactor.membership with hboot | ⟨m, hm, htenant, huser, hactive, hmrole⟩
  · exact h hboot
  · have hne : trimSpace req.tenantID ≠ "" := hcomplete.same ▸ hcomplete.tenant
    refine .inl ⟨rfl, m, hm, htenant.trans hcomplete.same, huser, hactive, ?_⟩
    simp [permits, can, AuthorizationRequest.inquiry, hne, hmrole, hrole]

/-- Accounts of the members that are given. -/
def accountsOf (users : Table User (·.id) (fun u ↦ if u.email = "" then none else some (toLower u.email)))
    (memberships : Table TenantMembership (·.id) (fun m ↦ some (m.tenantID, m.userID))) : AccountsDB :=
  { users, memberships, roleBindings := .empty, scimGroups := .empty, scimGroupMemberships := []
    accessPolicyRules := .empty, authzDecisionLogs := .empty, apiKeys := .empty, identityProviders := .empty
    externalIdentities := .empty, authSessions := .empty }

/-- A tenant with one member. -/
def tenantOf (userID : String) (role : Role) : AccountsDB :=
  accountsOf ⟨[⟨userID, "", "", "active"⟩], by simp, by simp⟩
    ⟨[⟨"mem_1", "ten_1", userID, role, "active"⟩], by simp, by simp⟩

theorem authenticated_bootstrap (hhash : cfg.bootstrapAPIKeyHash = hashToken crypto token) (htoken : token ≠ "")
    (hkeys : db.apiKeys.rows = []) : Authenticated crypto cfg now token db cfg.bootstrap := by
  have hne : hashToken crypto token ≠ "" := by
    intro h
    have hlength := congrArg String.length h
    simp [hashToken, String.length_append] at hlength
  left
  simp [runtimeAuth, authenticateAPIKey, Table.find?, hhash, htoken, hkeys, hne]

def setUpConfig : Config := ⟨hashToken .standard "bootstrap-secret", "ten_1"⟩

def setUpRequest : AuthorizationRequest := ⟨setUpConfig.bootstrap, "ten_1", "endpoints:write", "endpoint", "", ""⟩

/-- The bootstrap key is allowed as an owner once its user is a member. -/
theorem bootstrap_member_allowed :
    (authorize ⟨.sequential, .sequential⟩ setUpRequest (tenantOf "bootstrap" .owner).toIdentityDB).allowed = true := by
  have hactor : Authenticated .standard setUpConfig 0 "bootstrap-secret" (tenantOf "bootstrap" .owner)
      setUpRequest.actor := authenticated_bootstrap rfl (by decide) rfl
  refine (authorize_authenticated_iff hactor (fun rule h ↦ absurd h (Table.not_mem_empty rule))
    (by decide +kernel)).mpr ⟨⟨by decide, by decide, by decide +kernel, by decide +kernel, by decide +kernel⟩, ?_⟩
  exact fun _ ↦ .inl ⟨rfl, _, List.mem_singleton_self _, by decide +kernel⟩

/-- The owner key of a tenant without members is refused what its role permits. -/
theorem bootstrap_key_denied :
    Authenticated .standard setUpConfig 0 "bootstrap-secret" (accountsOf .empty .empty) setUpRequest.actor ∧
      can setUpRequest.actor "endpoints:write" "ten_1" = true ∧
      (authorize ⟨.sequential, .sequential⟩ setUpRequest (accountsOf .empty .empty).toIdentityDB).allowed = false :=
  ⟨authenticated_bootstrap rfl (by decide) rfl, by decide +kernel, by decide +kernel⟩

end Webhookery.Identity

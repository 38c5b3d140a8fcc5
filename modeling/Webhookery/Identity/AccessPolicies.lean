import Webhookery.Identity.Accounts

/-!
# Access policies

The guard against rules that lock everybody out of security administration looks for the family `security`, while
changes of the access policy are decided on the family `access_policy`; and an update is guarded by the fields that
it names, whatever the rule has in the others.
-/

namespace Webhookery.Identity

open Go Relational Store

/-! ## Calls -/

structure CreateAccessPolicyRuleRequest where
  (name action effect resourceFamily environment : String)
  conditions : Bytes
  reason : String

/-- The name and the conditions, which are written as they come, are left out. -/
structure UpdateAccessPolicyRuleRequest where
  (action effect resourceFamily environment state : Option String)
  reason : String

def identityWildcard (value : String) : String := defaultWildcard value

def wouldDenySecurityWrite (effect action resourceFamily environment : String) : Bool :=
  equalFold (trimSpace effect) "deny" && (trimSpace action == "security:write" || trimSpace action == "*") &&
    (identityWildcard resourceFamily == "*" || equalFold (trimSpace resourceFamily) "security") &&
    identityWildcard environment == "*"

def validateAccessPolicy (req : CreateAccessPolicyRuleRequest) : Except IdentityError Unit := do
  check (trimSpace req.name ≠ "" ∧ trimSpace req.action ≠ "" ∧ trimSpace req.resourceFamily ≠ "" ∧
    trimSpace req.environment ≠ "") (.invalidInput "name, action, resource_family, and environment are required")
  check (req.effect = "allow" ∨ req.effect = "deny") (.invalidInput "effect must be allow or deny")
  check (trimSpace req.reason ≠ "") (.invalidInput "reason is required")
  check (req.conditions = [] ∨ (Json.parse (decodeFrom 0 req.conditions)).isSome)
    (.invalidInput "conditions must be valid JSON")

def lockOutRefused : IdentityError := .invalidInput "refusing policy that can lock out security administration"

section Calls

variable (scans : Scans) (actor : Actor) (env : Env) (db : IdentityDB)

def createAccessPolicyRule (req : CreateAccessPolicyRuleRequest) : Except IdentityError IdentityDB := do
  check (authorized scans actor "security:write" "access_policy" "" "" db) .forbidden
  validateAccessPolicy req
  check (wouldDenySecurityWrite req.effect req.action req.resourceFamily req.environment = false) lockOutRefused
  statement env
  match db.accessPolicyRules.insert? ⟨env.mustID "apr" 0, actor.tenantID, trimSpace req.action,
    trimSpace req.effect, defaultWildcard req.resourceFamily, defaultWildcard req.environment, "active",
    timestamptz env.now⟩ with
  | some accessPolicyRules => .ok { db with accessPolicyRules }
  | none => .error .failed

/-- `UpdateAccessPolicyRule` of the store: what the request leaves out is written back as it was read. -/
def storeAccessPolicyRule (policyID : String) (req : UpdateAccessPolicyRuleRequest) : Except IdentityError IdentityDB :=
  match db.accessPolicyRules.find? fun r ↦ r.tenantID == actor.tenantID && r.id == policyID with
  | none => .error .notFound
  | some current => do
    statement env
    let accessPolicyRules := db.accessPolicyRules.modify
      (fun r ↦ if r.tenantID = actor.tenantID ∧ r.id = policyID then { r with
        action := (req.action.map trimSpace).getD current.action
        effect := (req.effect.map trimSpace).getD current.effect
        resourceFamily := (req.resourceFamily.map defaultWildcard).getD current.resourceFamily
        environment := (req.environment.map defaultWildcard).getD current.environment
        state := req.state.getD current.state } else r)
      (fun r ↦ by split <;> rfl) (fun _ ↦ rfl)
    return { db with accessPolicyRules }

/-- The guard of an update, with nothing for the fields that it does not name. -/
def UpdateAccessPolicyRuleRequest.refused (req : UpdateAccessPolicyRuleRequest) : Bool :=
  (req.effect.isSome || req.action.isSome || req.resourceFamily.isSome || req.environment.isSome) &&
    wouldDenySecurityWrite (req.effect.getD "") (req.action.getD "") (req.resourceFamily.getD "")
      (req.environment.getD "")

def updateAccessPolicyRule (policyID : String) (req : UpdateAccessPolicyRuleRequest) :
    Except IdentityError IdentityDB := do
  check (authorized scans actor "security:write" "access_policy" policyID "" db) .forbidden
  check (trimSpace req.reason ≠ "") (.invalidInput "reason is required")
  check (req.refused = false) lockOutRefused
  storeAccessPolicyRule actor env db policyID req

def disableAccessPolicyRule (policyID reason : String) : Except IdentityError IdentityDB := do
  check (authorized scans actor "security:write" "access_policy" policyID "" db) .forbidden
  check (trimSpace reason ≠ "") (.invalidInput "reason is required")
  storeAccessPolicyRule actor env db policyID ⟨none, none, none, none, some "disabled", reason⟩

end Calls

inductive PolicyCall where
  | create (actor : Actor) (req : CreateAccessPolicyRuleRequest)
  | update (actor : Actor) (policyID : String) (req : UpdateAccessPolicyRuleRequest)
  | disable (actor : Actor) (policyID reason : String)

def PolicyCall.run (scans : Scans) (env : Env) (db : IdentityDB) : PolicyCall → Except IdentityError IdentityDB
  | .create actor req => createAccessPolicyRule scans actor env db req
  | .update actor policyID req => updateAccessPolicyRule scans actor env db policyID req
  | .disable actor policyID reason => disableAccessPolicyRule scans actor env db policyID reason

/-! ## Locked out -/

/-- The rule denies changes of the access policy of its tenant in every environment. -/
def AccessPolicyRule.LocksOut (rule : AccessPolicyRule) : Prop :=
  rule.effect = "deny" ∧ ∀ q : Inquiry, q.tenantID = rule.tenantID → q.action = "security:write" →
    q.resourceFamily = "access_policy" → rule.covers q = true

/-- The columns of such a rule. -/
def Locking (state effect action resourceFamily environment : String) : Prop :=
  state = "active" ∧ effect = "deny" ∧ (action = "*" ∨ action = "security:write") ∧
    (resourceFamily = "*" ∨ resourceFamily = "access_policy") ∧ environment = "*"

def Repairable (db : IdentityDB) : Prop := ∀ rule ∈ db.accessPolicyRules, ¬rule.LocksOut

/-- The call does not ask for the columns of a rule that locks out; what it leaves out is as the rule has it. -/
def PolicyCall.Harmless (db : IdentityDB) : PolicyCall → Prop
  | .create _ req => ¬Locking "active" (trimSpace req.effect) (trimSpace req.action)
      (defaultWildcard req.resourceFamily) (defaultWildcard req.environment)
  | .update actor policyID req => ∀ rule ∈ db.accessPolicyRules, rule.tenantID = actor.tenantID → rule.id = policyID →
      ¬Locking (req.state.getD rule.state) ((req.effect.map trimSpace).getD rule.effect)
        ((req.action.map trimSpace).getD rule.action)
        ((req.resourceFamily.map defaultWildcard).getD rule.resourceFamily)
        ((req.environment.map defaultWildcard).getD rule.environment)
  | .disable _ _ _ => True

/-- A harmless call commits. -/
def PolicyStep (db db' : IdentityDB) : Prop :=
  ∃ scans env call, PolicyCall.run scans env db call = .ok db' ∧ call.Harmless db

/-- An owner whose credentials are good for security administration. -/
structure OwnerOf (actor : Actor) (db : IdentityDB) : Prop where
  id : actor.id ≠ ""
  tenantID : actor.tenantID ≠ "" ∧ trimSpace actor.tenantID = actor.tenantID
  scopes : actorScopesAllow actor "security:write" = true
  member : ∃ m ∈ db.memberships, m.tenantID = actor.tenantID ∧ m.userID = actor.id ∧ m.state = "active" ∧
    m.role = .owner

section Repair

variable {scans : Scans} {env : Env} {db db' : IdentityDB} {actor : Actor} {policyID : String}

/-- A rule covers the calls that change the access policy exactly if it locks them out. -/
theorem locking_of_covers {rule : AccessPolicyRule} {q : Inquiry} (heffect : rule.effect = "deny")
    (haction : q.action = "security:write") (hfamily : q.resourceFamily = "access_policy")
    (henvironment : defaultWildcard q.environment = "*") (hcovers : rule.covers q = true) :
    Locking rule.state rule.effect rule.action rule.resourceFamily rule.environment := by
  simp only [AccessPolicyRule.covers, admits, haction, hfamily, henvironment, Bool.and_eq_true, Bool.or_eq_true,
    beq_iff_eq, or_self] at hcovers
  exact ⟨hcovers.1.1.1.2, heffect, hcovers.1.1.2, hcovers.1.2, hcovers.2⟩

theorem locksOut_iff {rule : AccessPolicyRule} :
    rule.LocksOut ↔ Locking rule.state rule.effect rule.action rule.resourceFamily rule.environment := by
  constructor
  · rintro ⟨heffect, hcovers⟩
    have hblank : defaultWildcard "" = "*" := by decide +kernel
    refine locking_of_covers heffect ?_ ?_ ?_
      (hcovers ⟨rule.tenantID, "", "security:write", "access_policy", "", "", []⟩ rfl rfl rfl)
    exacts [rfl, rfl, hblank]
  · rintro ⟨hstate, heffect, haction, hfamily, henvironment⟩
    refine ⟨heffect, fun q htenant hqaction hqfamily ↦ ?_⟩
    simp [AccessPolicyRule.covers, admits, htenant, hqaction, hqfamily, hstate, haction, hfamily, henvironment]

theorem repairable_storeAccessPolicyRule_iff {req : UpdateAccessPolicyRuleRequest} (hdb : Repairable db)
    (h : storeAccessPolicyRule actor env db policyID req = .ok db') :
    Repairable db' ↔ (PolicyCall.update actor policyID req).Harmless db := by
  unfold storeAccessPolicyRule at h
  split at h
  · cases h
  case h_2 current hfind =>
    obtain ⟨_, -, h⟩ := bind_eq_ok.mp h
    cases h
    have hcurrent {rule : AccessPolicyRule} (hrule : rule ∈ db.accessPolicyRules) (hid : rule.id = policyID) :
        rule = current := by
      have hmatch := List.find?_some hfind
      rw [Bool.and_eq_true, beq_iff_eq, beq_iff_eq] at hmatch
      exact Table.eq_of_key_eq hrule (List.mem_of_find?_eq_some hfind) (hid.trans hmatch.2.symm)
    constructor
    · intro hall rule hrule htenant hid hlocking
      refine hall _ (List.mem_map_of_mem hrule) (locksOut_iff.mpr ?_)
      rw [if_pos ⟨htenant, hid⟩, ← hcurrent hrule hid]
      exact hlocking
    · intro hall rule' hrule' hlocks
      obtain ⟨rule, hrule, rfl⟩ := List.mem_map.mp hrule'
      split at hlocks
      case isTrue hof =>
        rw [← hcurrent hrule hof.2] at hlocks
        exact hall rule hrule hof.1 hof.2 (locksOut_iff.mp hlocks)
      case isFalse => exact hdb rule hrule hlocks

/-- A call that commits keeps the policy repairable exactly if it is harmless. -/
theorem repairable_run_iff {call : PolicyCall} (hdb : Repairable db) (h : call.run scans env db = .ok db') :
    Repairable db' ↔ call.Harmless db := by
  cases call <;> obtain ⟨_, -, h⟩ := bind_eq_ok.mp h <;> obtain ⟨_, -, h⟩ := bind_eq_ok.mp h
  case create =>
    obtain ⟨_, -, h⟩ := bind_eq_ok.mp h
    obtain ⟨_, -, h⟩ := bind_eq_ok.mp h
    split at h
    case h_2 => cases h
    case h_1 hinsert =>
      cases h
      have hmem (rule : AccessPolicyRule) := Table.mem_of_rows_append (r := rule) (Table.rows_insert? hinsert)
      constructor
      · intro hall hlocking
        refine hall _ ((hmem _).mpr (.inr rfl)) (locksOut_iff.mpr ?_)
        dsimp only
        exact hlocking
      · intro hharmless rule hrule hlocks
        rcases (hmem rule).mp hrule with hold | rfl
        · exact hdb rule hold hlocks
        · have hlocking := locksOut_iff.mp hlocks
          dsimp only at hlocking
          exact hharmless hlocking
  case update =>
    obtain ⟨_, -, h⟩ := bind_eq_ok.mp h
    exact repairable_storeAccessPolicyRule_iff hdb h
  case disable =>
    rw [repairable_storeAccessPolicyRule_iff hdb h]
    exact iff_of_true (fun _ _ _ _ hlocking ↦ absurd hlocking.1 (by simp)) trivial

theorem authorized_of_repairable (hdb : Repairable db) (howner : OwnerOf actor db) :
    authorized scans actor "security:write" "access_policy" policyID "" db = true := by
  have haction : trimSpace "security:write" = "security:write" := by decide +kernel
  have hfamily : trimSpace "access_policy" = "access_policy" := by decide +kernel
  have hblank : defaultWildcard (trimSpace "") = "*" := by decide +kernel
  obtain ⟨m, hm, htenant, huser, hactive, hrole⟩ := howner.member
  rw [authorized, authorize_allowed_iff, explain_allowed_iff]
  refine ⟨⟨howner.id, howner.tenantID.1, by simp [haction], by simp [hfamily], howner.tenantID.2.symm⟩, ?_, ?_,
    .inr (.inl ⟨rfl, m, hm, htenant.trans howner.tenantID.2.symm, huser, hactive, ?_⟩)⟩
  · rw [AuthorizationRequest.inquiry, haction]
    exact howner.scopes
  · rintro ⟨-, rule, hrule, hcovers, heffect⟩
    refine hdb rule hrule (locksOut_iff.mpr (locking_of_covers heffect ?_ ?_ ?_ hcovers))
    exacts [haction, hfamily, hblank]
  · simp [permits, can, AuthorizationRequest.inquiry, howner.tenantID.2, howner.tenantID.1, hrole, roleAllows]

/-- After any number of harmless calls no rule locks out, so that every owner may change the policy; and of the
calls that commit then, the harmless ones are those that keep it so. -/
theorem policy_repairable (hinit : Repairable db) (hrun : Relation.ReflTransGen PolicyStep db db') :
    Repairable db' ∧
      (∀ scans actor policyID, OwnerOf actor db' →
        authorized scans actor "security:write" "access_policy" policyID "" db' = true) ∧
      ∀ scans env call db'', PolicyCall.run scans env db' call = .ok db'' → (Repairable db'' ↔ call.Harmless db') := by
  have hdb' : Repairable db' := by
    induction hrun with
    | refl => exact hinit
    | tail _ hstep ih =>
      obtain ⟨_, _, _, hcommit, hharmless⟩ := hstep
      exact (repairable_run_iff ih hcommit).mpr hharmless
  exact ⟨hdb', fun _ _ _ ↦ authorized_of_repairable hdb', fun _ _ _ _ ↦ repairable_run_iff hdb'⟩

end Repair

/-- An owner denies an action on a family. -/
def denyCall (action resourceFamily : String) : PolicyCall :=
  .create ⟨"usr_1", "ten_1", .owner, []⟩ ⟨"rule", action, "deny", resourceFamily, "*", [], "review"⟩

/-- What comes of it. -/
def denied (action resourceFamily : String) : Except IdentityError IdentityDB :=
  (denyCall action resourceFamily).run ⟨.sequential, .sequential⟩ ⟨0, fun _ _ ↦ "1", false, fun _ _ _ ↦ none⟩
    (tenantOf "usr_1" .owner).toIdentityDB

theorem repairable_tenantOf : Repairable (tenantOf "usr_1" .owner).toIdentityDB :=
  fun rule h ↦ absurd h (Table.not_mem_empty rule)

/-- A rule for replays leaves the policy repairable. -/
theorem denied_replays_repairable : ∃ db, denied "replay:write" "*" = .ok db ∧ Repairable db := by
  have hcommits : (denied "replay:write" "*").isOk = true := by decide +kernel
  cases hrun : denied "replay:write" "*" with
  | error => simp [hrun, Except.isOk, Except.toBool] at hcommits
  | ok db =>
    have hharmless : (denyCall "replay:write" "*").Harmless (tenantOf "usr_1" .owner).toIdentityDB :=
      fun hlocking ↦ absurd hlocking.2.2.1 (by decide +kernel)
    exact ⟨db, rfl, (policy_repairable repairable_tenantOf (.single ⟨_, _, _, hrun, hharmless⟩)).1⟩

/-- The guard lets a rule pass that locks the owner out. -/
theorem denied_policy_locks_out :
    ((denied "security:write" "access_policy").toOption.any fun db ↦
      !authorized ⟨.sequential, .sequential⟩ ⟨"usr_1", "ten_1", .owner, []⟩ "security:write" "access_policy" "apr_1" "" db) = true ∧
    ∀ db, denied "security:write" "access_policy" = .ok db → ¬Repairable db := by
  refine ⟨by decide +kernel, fun db hrun ↦ ?_⟩
  rw [repairable_run_iff repairable_tenantOf hrun]
  exact fun hharmless ↦ hharmless ⟨rfl, by decide +kernel, by decide +kernel, by decide +kernel, by decide +kernel⟩

end Webhookery.Identity

import Webhookery.Store.Replays
import Webhookery.Store.Acceptance

/-!
# The approval policy of a replay

`CreateReplay` resolves the event and the delivery of a request to routes and one source before it
looks up policies. Run alone, the lookup is a function of the state. A request that names an event
of one source and a delivery of another loses the source of the delivery.
-/

namespace Webhookery.Replay

open Go Store Relational Concurrency
open Program (Runs Reads reads_pure)

/-! ## The lookup as a function -/

section

variable (tenantID : String) (req : ReplayRequest) (db : DB)

/-- The event that a request names. -/
def namedEvent : Option Event :=
  if req.eventID = "" then none
  else db.events.find? fun e ↦ e.tenantID == tenantID && e.id == req.eventID

/-- The route of the delivery that a request names, and the source of its event. -/
def namedDelivery : Option (String × String) :=
  if req.deliveryID = "" then none else deliveryRouteSource tenantID req.deliveryID db

/-- The source that policies are looked up for. -/
def scopeSource : String :=
  ((namedEvent tenantID req db).map Event.sourceID).getD
    (((namedDelivery tenantID req db).map Prod.snd).getD "")

/-- The routes that policies are looked up for. -/
def scopeRoutes : List String :=
  (((namedDelivery tenantID req db).map Prod.fst).filter (· ≠ "")).toList ++
    if req.eventID = "" then []
    else
      (if scopeSource tenantID req db = "" then []
        else activeRouteIDs tenantID (scopeSource tenantID req db)
          (((namedEvent tenantID req db).map Event.type).getD "") db) ++
      if req.configMode = some .original then originalRouteIDs tenantID req.eventID db else []

/-- The policy of a scope, unless the scope is empty. -/
def policyIn (scope : PolicyScope) (scopeIDs : List String) : Option ReplayApprovalPolicy :=
  if scopeIDs = [] then none else policyFor tenantID scope scopeIDs db

/-- The policy that `CreateReplay` applies. -/
def policyOf : Option ReplayApprovalPolicy :=
  (policyIn tenantID db .route (scopeRoutes tenantID req db)).or
    ((policyIn tenantID db .source
        (if scopeSource tenantID req db = "" then [] else [scopeSource tenantID req db])).or
      (policyIn tenantID db .tenant [""]))

end

variable {tenantID actorID : String} {req : ReplayRequest} {db db' : DB}

/-- What the lookup takes from a delivery. -/
def ofDelivery (found : Option (String × String)) : List String × String :=
  ((found.map Prod.fst).filter (· ≠ "") |>.toList, (found.map Prod.snd).getD "")

theorem reads_deliveryScope : Reads (deliveryScope tenantID req) fun db ↦
    .ok (ofDelivery (namedDelivery tenantID req db)) := by
  refine ((reads_pure _).ite ((reads_query _).bind (g := fun found _ ↦ .ok (ofDelivery found)) ?_)).congr fun db ↦ ?_
  · rintro (- | ⟨routeID, _⟩)
    · exact reads_pure _
    · refine (reads_pure _).congr fun _ ↦ ?_
      by_cases h : routeID = "" <;> simp [ofDelivery, h, Option.filter]
  · unfold namedDelivery
    split <;> rfl

theorem reads_eventScope (sourceID : String) : Reads (eventScope tenantID req sourceID) fun db ↦
    let source := ((namedEvent tenantID req db).map Event.sourceID).getD sourceID
    .ok (if req.eventID = "" then []
      else
        (if source = "" then []
          else activeRouteIDs tenantID source (((namedEvent tenantID req db).map Event.type).getD "") db) ++
        if req.configMode = some .original then originalRouteIDs tenantID req.eventID db else [], source) := by
  have hroutes (sourceID eventType : String) : Reads (routesOfSource tenantID sourceID eventType)
      fun db ↦ .ok (if sourceID = "" then [] else activeRouteIDs tenantID sourceID eventType db) := by
    refine ((reads_pure _).ite (reads_query _)).congr fun db ↦ ?_
    split <;> rfl
  have hdeliveries : Reads (routesOfDeliveries tenantID req) fun db ↦
      .ok (if req.configMode = some .original then originalRouteIDs tenantID req.eventID db else []) := by
    refine ((reads_query _).ite (reads_pure _)).congr fun db ↦ ?_
    split <;> rfl
  refine ((reads_pure _).ite ((reads_query _).bind fun found ↦ (hroutes _ _).bind fun _ ↦
    hdeliveries.bind fun _ ↦ reads_pure _)).congr fun db ↦ ?_
  unfold namedEvent
  split <;> rfl

theorem reads_replayApprovalPolicyForReplay :
    Reads (replayApprovalPolicyForReplay tenantID req) fun db ↦
      .ok (policyOf tenantID req db) := by
  have hpolicy (scope : PolicyScope) (scopeIDs : List String) :
      Reads (scopePolicy tenantID scope scopeIDs) fun db ↦
        .ok (policyIn tenantID db scope scopeIDs) := by
    refine ((reads_pure _).ite (reads_query _)).congr fun db ↦ ?_
    unfold policyIn
    split <;> rfl
  have hor (found : Option ReplayApprovalPolicy) {p : Work (Option ReplayApprovalPolicy)}
      {f : DB → Option ReplayApprovalPolicy} (hp : Reads p fun db ↦ .ok (f db)) :
      Reads (if found.isSome then return found else p) fun db ↦ .ok (found.or (f db)) := by
    refine ((reads_pure _).ite hp).congr fun db ↦ ?_
    cases found <;> rfl
  have hrest (sourceIDs : List String) : Reads
      (do let ofSource ← scopePolicy tenantID .source sourceIDs
          if ofSource.isSome then return ofSource
          scopePolicy tenantID .tenant [""]) fun db ↦
        .ok ((policyIn tenantID db .source sourceIDs).or (policyIn tenantID db .tenant [""])) :=
    (hpolicy .source sourceIDs).bind fun ofSource ↦ hor ofSource (hpolicy .tenant [""])
  exact (reads_deliveryScope.bind fun d ↦ (reads_eventScope d.2).bind fun e ↦
    (hpolicy .route (d.1 ++ e.1)).bind fun ofRoute ↦
      hor ofRoute (hrest (if e.2 = "" then [] else [e.2]))).congr fun db ↦ rfl

/-! ## Policies that match a request -/

/-- An active policy that requires approval matches the tenant, the source of the named event, the
source of the event of the named delivery, or the route of the named delivery. -/
def Matches (tenantID : String) (req : ReplayRequest) (db : DB) (p : ReplayApprovalPolicy) : Prop :=
  p.tenantID = tenantID ∧ p.state = .active ∧ p.requireApproval = true ∧
    match p.scope with
    | .tenant => p.scopeID = ""
    | .source => p.scopeID ≠ "" ∧
        (p.scopeID ∈ (namedEvent tenantID req db).map Event.sourceID ∨
          p.scopeID ∈ (namedDelivery tenantID req db).map Prod.snd)
    | .route => p.scopeID ≠ "" ∧ p.scopeID ∈ (namedDelivery tenantID req db).map Prod.fst

/-- An event and a delivery that are both named belong to one source. -/
def SourcesAgree (tenantID : String) (req : ReplayRequest) (db : DB) : Prop :=
  ∀ e ∈ namedEvent tenantID req db, ∀ x ∈ namedDelivery tenantID req db,
    x.2 = "" ∨ x.2 = e.sourceID

theorem isSome_policyIn (hp : p ∈ db.replayPolicies) (happlies : p.applies tenantID scope scopeIDs = true) :
    (policyIn tenantID db scope scopeIDs).isSome = true := by
  have hne : scopeIDs ≠ [] := by
    rintro rfl
    simp [ReplayApprovalPolicy.applies] at happlies
  rw [policyIn, if_neg hne]
  exact Table.isSome_firstIn.mpr ⟨p, hp, happlies⟩

/-- Under a policy that matches, when the sources agree, some policy is applied. -/
theorem isSome_policyOf (hagree : SourcesAgree tenantID req db)
    (hp : p ∈ db.replayPolicies) (hmatches : Matches tenantID req db p) :
    (policyOf tenantID req db).isSome = true := by
  obtain ⟨htenant, hactive, hrequire, hscope⟩ := hmatches
  have happlies {scope : PolicyScope} {scopeIDs : List String} (hs : p.scope = scope)
      (hmem : p.scopeID ∈ scopeIDs) : p.applies tenantID scope scopeIDs = true := by
    simp [ReplayApprovalPolicy.applies, htenant, hactive, hrequire, hs, hmem]
  unfold policyOf
  rw [Option.isSome_or, Option.isSome_or, Bool.or_eq_true, Bool.or_eq_true]
  split at hscope
  case h_1 hs => exact .inr (.inr (isSome_policyIn hp (happlies hs (by simp [hscope]))))
  case h_2 hs =>
    obtain ⟨hne, hsource⟩ := hscope
    have hfound : scopeSource tenantID req db = p.scopeID := by
      unfold scopeSource
      cases hevent : namedEvent tenantID req db with
      | none =>
        rw [hevent] at hsource
        rcases hsource with hsource | hsource
        · cases hsource
        · rw [Option.mem_def] at hsource
          rw [hsource]
          rfl
      | some e =>
        rw [hevent] at hsource
        rcases hsource with hsource | hsource
        · exact Option.some.inj hsource
        · obtain ⟨x, hx, hid⟩ := Option.map_eq_some_iff.mp hsource
          rcases hagree e hevent x hx with hempty | hsame
          · exact absurd (hid.symm.trans hempty) hne
          · exact hsame.symm.trans hid
    rw [hfound, if_neg hne]
    exact .inr (.inl (isSome_policyIn hp (happlies hs (List.mem_singleton_self _))))
  case h_3 hs =>
    obtain ⟨hne, hroute⟩ := hscope
    refine .inl (isSome_policyIn hp (happlies hs ?_))
    rw [Option.mem_def] at hroute
    unfold scopeRoutes
    rw [hroute]
    simp [Option.filter, hne]

/-! ## Created jobs -/

/-- A job waits for approval when the request or a policy asks for it. -/
theorem state_of_createReplay (h : Runs (createReplay tenantID actorID req) db (.ok job) db') :
    job.state = if req.requireApproval || (policyOf tenantID req.withDefaults db).isSome
      then .pendingApproval else .scheduled := by
  obtain ⟨_, _, hpolicy, h⟩ := h.of_bind
  obtain ⟨hread, -⟩ := (reads_replayApprovalPolicyForReplay _ _ _).mp hpolicy
  cases hread
  obtain ⟨now, _, -, h⟩ := h.of_bind
  obtain ⟨_, _, -, h⟩ := h.of_bind
  obtain ⟨_, _, -, h⟩ := h.of_bind
  obtain ⟨_, hinsert⟩ := runs_transaction h
  obtain ⟨_, -, hinsert⟩ := bind_eq_ok.mp hinsert
  obtain ⟨_, -, hinsert⟩ := bind_eq_ok.mp hinsert
  cases hinsert
  have hexpiry (r : ReplayRequest) : (r.withExpiry now).requireApproval = r.requireApproval := by
    unfold ReplayRequest.withExpiry
    split <;> rfl
  have happroval (found : Option ReplayApprovalPolicy) :
      (req.withDefaults.underPolicy found now).requireApproval =
        (req.requireApproval || found.isSome) := by
    cases found with
    | none => exact (Bool.or_false _).symm
    | some => exact (Bool.or_true _).symm
  unfold replayJobRow
  rw [hexpiry, happroval]

/-- The count of a dry run exists when the named event does. -/
theorem exists_dryRunReplay (hevent : req.eventID ≠ "" → ∃ e, namedEvent tenantID req db = some e) :
    ∃ total, Runs (dryRunReplay tenantID req) db (.ok total) db := by
  have hofEvent : ∃ n, Runs (dryRunEvent tenantID req) db (.ok n) db := by
    unfold dryRunEvent
    split
    · exact ⟨0, .done _ _⟩
    case isFalse hne =>
      split
      · exact ⟨_, (reads_query _ _ _ _).mpr ⟨rfl, rfl⟩⟩
      · obtain ⟨e, he⟩ := hevent hne
        rw [namedEvent, if_neg hne] at he
        have hread : Runs (query (getEvent tenantID req.eventID)) db (.ok e) db :=
          (reads_query _ _ _ _).mpr ⟨selectRow_eq_ok.mpr he, rfl⟩
        cases hverified : e.verified with
        | true =>
          have hcount := (reads_query (fun db ↦ .ok
            ((db.subscriptions.rows.filter (Subscription.matches tenantID e.type)).length +
              (activeRouteIDs tenantID e.sourceID e.type db).length)) db _ db).mpr ⟨rfl, rfl⟩
          exact ⟨_, hread.bind (by rw [if_pos hverified]; exact hcount)⟩
        | false =>
          have hcount : Runs (return 0 : Work Nat) db (.ok 0) db := .done _ _
          exact ⟨0, hread.bind (by rw [if_neg (by simp [hverified])]; exact hcount)⟩
  have hofDelivery : ∃ n, Runs (dryRunDelivery tenantID req) db (.ok n) db := by
    unfold dryRunDelivery
    split
    · exact ⟨0, .done _ _⟩
    · exact ⟨_, (reads_query _ _ _ _).mpr ⟨rfl, rfl⟩⟩
  obtain ⟨n, hn⟩ := hofEvent
  obtain ⟨m, hm⟩ := hofDelivery
  exact ⟨n + m, hn.bind (hm.bind (.done _ _))⟩

/-- Without a policy and without asking for approval, a job is created. -/
theorem exists_createReplay (hpolicy : policyOf tenantID req.withDefaults db = none)
    (happroval : req.requireApproval = false)
    (hevent : req.eventID ≠ "" → ∃ e, namedEvent tenantID req db = some e) :
    ∃ job db', Runs (createReplay tenantID actorID req) db (.ok job) db' := by
  have hread : Runs (replayApprovalPolicyForReplay tenantID req.withDefaults) db (.ok none) db :=
    (reads_replayApprovalPolicyForReplay _ _ _).mpr ⟨congrArg _ hpolicy, rfl⟩
  have hrequest : (req.withDefaults.underPolicy none 0).withExpiry 0 = req.withDefaults := by
    unfold ReplayRequest.underPolicy ReplayRequest.withExpiry ReplayRequest.withDefaults
    rw [if_neg (by simp [happroval])]
  obtain ⟨total, htotal⟩ : ∃ total, Runs (dryRunReplay tenantID req.withDefaults) db
      (.ok total) db := exists_dryRunReplay hevent
  obtain ⟨env, -, hconnection, hfresh⟩ := exists_fresh_env 0
    (db.replayJobs.rows.map ReplayJob.id ++ db.outbox.rows.map OutboxRow.id)
  have hjobs : ∃ jobs, db.replayJobs.insert? (replayJobRow env tenantID actorID req.withDefaults total) =
      some jobs := by
    refine Table.exists_insert? ⟨fun j hj heq ↦ hfresh "rpl" 0 ?_, fun _ _ ↦ .inl rfl⟩
    exact List.mem_append_left _ (List.mem_map.mpr ⟨j, hj, heq⟩)
  obtain ⟨jobs, hjobs⟩ := hjobs
  have hqueue : ∃ db', queueReplayJob env (replayJobRow env tenantID actorID req.withDefaults total)
      { db with replayJobs := jobs } = .ok db' := by
    unfold queueReplayJob
    split
    · exact ⟨_, rfl⟩
    · refine exists_insertOutbox fun o ho heq ↦ hfresh "out" 0 ?_
      exact List.mem_append_right _ (List.mem_map.mpr ⟨o, ho, heq⟩)
  obtain ⟨db', hdb'⟩ := hqueue
  have hinsert : Runs (transaction (insertReplayJob tenantID actorID req.withDefaults total)) db
      (.ok (replayJobRow env tenantID actorID req.withDefaults total)) db' := by
    apply runs_of_transaction hconnection
    exact bind_eq_ok.mpr ⟨jobs, insertRow_eq_ok.mpr hjobs, bind_eq_ok.mpr ⟨db', hdb', rfl⟩⟩
  have hexpiry : requireFutureExpiry req.withDefaults = return () := by
    unfold requireFutureExpiry
    exact if_neg (by simp [ReplayRequest.withDefaults, happroval])
  have hrest : Runs (do
      let req := (req.withDefaults.underPolicy none 0).withExpiry 0
      requireFutureExpiry req
      let total ← dryRunReplay tenantID req
      transaction (insertReplayJob tenantID actorID req total)) db
      (.ok (replayJobRow env tenantID actorID req.withDefaults total)) db' := by
    dsimp only
    rw [hrequest, hexpiry]
    exact htotal.bind hinsert
  have hnow : Runs clockNow db (.ok 0) db := runs_clockNow_iff.mpr rfl
  exact ⟨_, db', hread.bind (hnow.bind hrest)⟩

/-- The table of one policy. -/
def onePolicy (p : ReplayApprovalPolicy) : Table ReplayApprovalPolicy ReplayApprovalPolicy.id
    (fun p ↦ some (p.tenantID, p.scope, p.scopeID)) :=
  ⟨[p], List.nodup_singleton _, List.nodup_singleton _⟩

theorem policyIn_onePolicy (h : p.scope = scope → p.scopeID ∉ scopeIDs) :
    policyIn tenantID { db with replayPolicies := onePolicy p } scope scopeIDs = none := by
  have happlies : p.applies tenantID scope scopeIDs = false := by
    by_contra hcontra
    simp only [ReplayApprovalPolicy.applies, Bool.not_eq_false, Bool.and_eq_true, beq_iff_eq,
      List.contains_eq_mem, decide_eq_true_eq] at hcontra
    exact h hcontra.1.1.1.2 hcontra.1.1.2
  unfold policyIn
  split
  · rfl
  · rw [← Option.not_isSome_iff_eq_none]
    intro hsome
    obtain ⟨_, hq, hqapplies⟩ := Table.isSome_firstIn.mp hsome
    obtain rfl := List.mem_singleton.mp hq
    rw [happlies] at hqapplies
    cases hqapplies

/-- The only policy is that of a source; the event has another one. -/
theorem policyOf_onePolicy (hscope : p.scope = .source)
    (hevent : namedEvent tenantID req db = some e) (hdiffer : p.scopeID ≠ e.sourceID) :
    policyOf tenantID req.withDefaults { db with replayPolicies := onePolicy p } = none := by
  have hsource : scopeSource tenantID req.withDefaults { db with replayPolicies := onePolicy p } =
      e.sourceID := by
    unfold scopeSource
    rw [show namedEvent tenantID req.withDefaults { db with replayPolicies := onePolicy p } = some e from
      hevent]
    rfl
  unfold policyOf
  rw [policyIn_onePolicy, policyIn_onePolicy, policyIn_onePolicy]
  · rfl
  · rw [hscope]
    nofun
  · intro _
    rw [hsource]
    split
    · exact List.not_mem_nil
    · exact fun hmem ↦ hdiffer (List.mem_singleton.mp hmem)
  · rw [hscope]
    nofun

/-- Whatever the policies of a tenant are, a job is created for approval whenever one of them
matches the request, exactly when the request asks for approval itself or does not name an event
and a delivery of different sources. -/
theorem createReplay_pending_iff :
    (∀ policies job db', Runs (createReplay tenantID actorID req)
        { db with replayPolicies := policies } (.ok job) db' →
        (∃ p ∈ policies, Matches tenantID req db p) → job.state = .pendingApproval) ↔
      req.requireApproval = true ∨ SourcesAgree tenantID req db := by
  constructor
  · intro h
    by_contra hcontra
    obtain ⟨happroval, hsources⟩ := not_or.mp hcontra
    unfold SourcesAgree at hsources
    push Not at hsources
    obtain ⟨e, he, x, hx, hne, hdiffer⟩ := hsources
    let p : ReplayApprovalPolicy :=
      { id := "", tenantID, scope := .source, scopeID := x.2, requireApproval := true,
        defaultExpirySeconds := 0, state := .active, updatedAt := 0 }
    have hmatches : Matches tenantID req db p :=
      ⟨rfl, rfl, rfl, hne, .inr (Option.map_eq_some_iff.mpr ⟨x, hx, rfl⟩)⟩
    have hpolicy : policyOf tenantID req.withDefaults { db with replayPolicies := onePolicy p } = none :=
      policyOf_onePolicy rfl he hdiffer
    have hevent : namedEvent tenantID req { db with replayPolicies := onePolicy p } = some e := he
    obtain ⟨_, _, hrun⟩ := exists_createReplay hpolicy (Bool.not_eq_true _ ▸ happroval)
      fun _ ↦ ⟨e, hevent⟩
    have hstate := state_of_createReplay hrun
    rw [hpolicy, if_neg (by simpa using happroval), h _ _ _ hrun ⟨p, List.mem_singleton_self p, hmatches⟩]
      at hstate
    cases hstate
  · rintro h policies _ _ hrun ⟨p, hp, hmatches⟩
    rw [state_of_createReplay hrun]
    rcases h with happroval | hagree
    · rw [happroval, Bool.true_or, if_pos rfl]
    · have hsome : (policyOf tenantID req.withDefaults { db with replayPolicies := policies }).isSome =
          true := isSome_policyOf hagree hp hmatches
      rw [hsome, Bool.or_true, if_pos rfl]

/-! ## A delivery of another source -/

/-- A verified event of a source. -/
def pushEvent (id sourceID : String) : Event where
  id := id
  tenantID := "t"
  sourceID := sourceID
  provider := "github"
  type := "push"
  providerID := ""
  rawPayloadID := ""
  rawPayloadHash := ""
  verified := true
  verifyReason := "verified"
  dedupeKey := id
  dedupeStatus := .unique
  receivedAt := 0

/-- A delivery of an event to the endpoint, by a route. -/
def pushDelivery (id eventID : String) : Delivery where
  id := id
  tenantID := "t"
  eventID := eventID
  endpointID := "ep_1"
  routeID := "rte_1"
  routeVersionID := ""
  subscriptionID := ""
  subscriptionVersionID := ""
  retryPolicyID := ""
  replayJobID := ""
  adapterVersionID := ""
  normalizedEnvelopeID := ""
  transformationVersionID := ""
  deliveryPayloadID := ""
  retrySeed := ""
  state := .succeeded
  attemptCount := 1
  nextAttemptAt := 0
  lockedBy := none
  lockExpiresAt := none
  createdAt := 0

def auditedPolicy : ReplayApprovalPolicy :=
  ⟨"rap_1", "t", .source, "src_audited", .active, true, 0, 0⟩

/-- An event of each of two sources, a delivery of the second, and a policy for the second. -/
def auditedDB : DB :=
  { DB.empty with
    events := ⟨[pushEvent "evt_1" "src_plain", pushEvent "evt_2" "src_audited"],
      by decide +kernel, by decide +kernel⟩
    deliveries := ⟨[pushDelivery "del_2" "evt_2"], by decide +kernel, by decide +kernel⟩
    replayPolicies := onePolicy auditedPolicy }

/-- A replay of the event of the first source and of the delivery of the second. -/
def auditedRequest : ReplayRequest :=
  ⟨"evt_1", "del_2", "", "operator_requested", "retry", none, 0, false, none⟩

/-- The policy for the source of the delivery does not apply: the job is scheduled at once. -/
theorem delivery_source_policy_ignored :
    (∃ p ∈ auditedDB.replayPolicies, Matches "t" auditedRequest auditedDB p) ∧
      ∃ job db', Runs (createReplay "t" "operator" auditedRequest) auditedDB (.ok job) db' ∧
        job.state = .scheduled := by
  constructor
  · refine ⟨auditedPolicy, List.mem_singleton_self _, rfl, rfl, rfl, by decide, .inr ?_⟩
    decide +kernel
  · let envs : Nat → Env := fun n ↦ ⟨0, fun _ _ ↦ toString n, false, fun _ _ _ ↦ none⟩
    obtain ⟨job, hjob, hstate⟩ : ∃ job, ((createReplay "t" "operator" auditedRequest).run envs auditedDB).1 = .ok job ∧
      job.state = .scheduled := by decide +kernel
    have hrun := Program.runs_run (createReplay "t" "operator" auditedRequest) envs auditedDB
    rw [hjob] at hrun
    exact ⟨job, _, hrun, hstate⟩

end Webhookery.Replay

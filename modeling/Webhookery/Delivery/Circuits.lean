import Webhookery.Delivery.Attempts

/-!
# The circuits of endpoints

Every recorded attempt updates the circuit of its endpoint: a success closes it and forgets the failures,
a failure that is retried opens it when it is the third in a row, and a failure that is not retried opens
it at once. Nothing else touches a circuit, so that in every state of a run the circuit is the one that
the recorded attempts of the endpoint say.
-/

namespace Webhookery.Delivery

open Go Store App Concurrency Provider Machine

variable {events : List (Transition Op Env DB)} {l : Op} {q q' : Phase} {env : Env} {db db' : DB}
  {e e' : Endpoint} {a : DeliveryAttempt}

/-! ## What moves do to circuits -/

/-- What a move does to circuits and attempts. -/
inductive CircuitStep (env : Env) (db db' : DB) : Prop
  | recorded (crypto : Crypto) (item : DeliveryItem) (result : DeliveryResult)
      (commits : recordDeliveryAttempt crypto item result env db = .ok ((), db')) :
      CircuitStep env db db'
  | kept (endpoints : CircuitsKept db db') (attempts : db'.attempts = db.attempts) :
      CircuitStep env db db'

theorem circuitStep_of_act (h : Act l q env db q' db') : CircuitStep env db db' := by
  cases deliveryMove_of_act h with
  | dispatch dispatch =>
    cases dispatch
    case record crypto item _ result _ _ commits => exact .recorded crypto item result commits
    case' claim commits =>
      obtain ⟨_, -, h⟩ := bind_eq_ok.mp commits
      cases h
    case' retain commits | release commits => cases commits
    case' retry commits | cancel commits => rw [(updateDelivery_eq_ok commits).1]
    all_goals exact .kept (.of_eq rfl) rfl
  | snapshot taken => exact .kept (.of_eq (by rw [taken.frame])) (by rw [taken.frame])
  | other same => exact .kept same.endpoints same.attempts

/-! ## What the attempts say -/

/-- The attempts recorded for an endpoint, the last one first. -/
def endpointAttempts (e : Endpoint) (db : DB) : List DeliveryAttempt :=
  (db.attempts.rows.filter fun a ↦ a.tenantID == e.tenantID && a.endpointID == e.id).reverse

/-- The failed attempts since the last success. -/
def failuresSinceSuccess (e : Endpoint) (db : DB) : List DeliveryAttempt :=
  (endpointAttempts e db).takeWhile (·.state == .failed)

/-- A failed attempt that no retry follows. -/
def isDeadLettering (a : DeliveryAttempt) : Bool := a.state == .failed && a.nextRetryAt.isNone

/-- The circuit of the endpoint is the one that its attempts say. -/
structure CircuitSound (db : DB) (e : Endpoint) : Prop where
  failureCount : e.failureCount = (failuresSinceSuccess e db).length
  closed : e.circuitState = .closed ↔ e.disabledUntil = none
  failures : e.circuitState = .closed →
    e.failureCount < 3 ∧ ∀ a ∈ failuresSinceSuccess e db, isDeadLettering a = false

def CircuitsSound (db : DB) : Prop := ∀ e ∈ db.endpoints, CircuitSound db e

/-! ### Steps -/

theorem CircuitSound.of_same (hsound : CircuitSound db e) (h : SameCircuit e e')
    (hattempts : endpointAttempts e' db' = endpointAttempts e db) : CircuitSound db' e' := by
  have hfailures : failuresSinceSuccess e' db' = failuresSinceSuccess e db := by
    rw [failuresSinceSuccess, failuresSinceSuccess, hattempts]
  constructor
  · rw [h.failureCount, hfailures]
    exact hsound.failureCount
  · rw [h.circuitState, h.disabledUntil]
    exact hsound.closed
  · rw [h.circuitState, h.failureCount, hfailures]
    exact hsound.failures

theorem circuitSound_of_opened (hcount : e.failureCount = (failuresSinceSuccess e db).length)
    (hopened : e.circuitState = .opened) (hdisabled : e.disabledUntil ≠ none) : CircuitSound db e where
  failureCount := hcount
  closed := by
    rw [hopened]
    exact ⟨fun h ↦ absurd h (by decide), fun h ↦ absurd h hdisabled⟩
  failures := by
    rw [hopened]
    exact fun h ↦ absurd h (by decide)

theorem failuresSinceSuccess_cons (hattempts : endpointAttempts e' db' = a :: endpointAttempts e db)
    (hfailed : a.state = .failed) : failuresSinceSuccess e' db' = a :: failuresSinceSuccess e db := by
  rw [failuresSinceSuccess, hattempts, List.takeWhile_cons, if_pos (by rw [hfailed]; rfl)]
  rfl

section Recorded

variable {crypto : Crypto} {policy : Retry.Policy} {item : DeliveryItem} {result : DeliveryResult}

theorem attemptOutcome_of_success (h : result.failure = false) :
    attemptOutcome crypto policy item result = .succeeded := by
  rw [attemptOutcome, h]
  rfl

theorem attemptOutcome_of_failure (h : result.failure = true) :
    (∃ delay, attemptOutcome crypto policy item result = .retry delay) ∨
      attemptOutcome crypto policy item result = .deadLettered := by
  rw [attemptOutcome, if_pos h]
  split
  · exact .inl ⟨_, rfl⟩
  · exact .inr rfl

theorem circuitSound_of_success (e : Endpoint)
    (hattempts : endpointAttempts (e.afterAttempt env.now .succeeded) db' =
      attemptRow crypto env item result .succeeded :: endpointAttempts e db)
    (hsuccess : result.failure = false) : CircuitSound db' (e.afterAttempt env.now .succeeded) := by
  have hnone : failuresSinceSuccess (e.afterAttempt env.now .succeeded) db' = [] := by
    rw [failuresSinceSuccess, hattempts, List.takeWhile_cons, if_neg]
    simp [attemptRow, hsuccess]
  constructor
  · rw [hnone]
    rfl
  · exact ⟨fun _ ↦ rfl, fun _ ↦ rfl⟩
  · rw [hnone]
    exact fun _ ↦ ⟨Nat.zero_lt_succ 2, List.forall_mem_nil _⟩

theorem circuitSound_of_retry (hsound : CircuitSound db e)
    (hattempts : endpointAttempts (e.afterAttempt env.now (.retry delay)) db' =
      attemptRow crypto env item result (.retry delay) :: endpointAttempts e db)
    (hfailure : result.failure = true) : CircuitSound db' (e.afterAttempt env.now (.retry delay)) := by
  have hfailed : (attemptRow crypto env item result (.retry delay)).state = .failed := if_pos hfailure
  have hfailures := failuresSinceSuccess_cons hattempts hfailed
  have hcount := hsound.failureCount
  generalize hafter : e.afterAttempt env.now (.retry delay) = e' at hfailures
  rw [Endpoint.afterAttempt] at hafter
  split at hafter
  -- the third failure in a row opens the circuit
  case isTrue =>
    subst hafter
    apply circuitSound_of_opened _ rfl (Option.some_ne_none _)
    rw [hfailures, List.length_cons, ← hcount]
  case isFalse hfewer =>
    subst hafter
    constructor
    · rw [hfailures, List.length_cons, ← hcount]
    · exact hsound.closed
    · intro hclosed
      refine ⟨Nat.lt_of_not_le hfewer, fun a ha ↦ ?_⟩
      rw [hfailures] at ha
      rcases List.mem_cons.mp ha with rfl | ha
      · simp [isDeadLettering, attemptRow, AttemptOutcome.nextRetryAt]
      · exact (hsound.failures hclosed).2 a ha

theorem circuitSound_of_deadLettered (hsound : CircuitSound db e)
    (hattempts : endpointAttempts (e.afterAttempt env.now .deadLettered) db' =
      attemptRow crypto env item result .deadLettered :: endpointAttempts e db)
    (hfailure : result.failure = true) : CircuitSound db' (e.afterAttempt env.now .deadLettered) := by
  have hfailed : (attemptRow crypto env item result .deadLettered).state = .failed := if_pos hfailure
  apply circuitSound_of_opened _ rfl (Option.some_ne_none _)
  rw [failuresSinceSuccess_cons hattempts hfailed, List.length_cons, ← hsound.failureCount]
  rfl

theorem circuitSound_afterAttempt (hsound : CircuitSound db e)
    (hattempts : endpointAttempts (e.afterAttempt env.now (attemptOutcome crypto policy item result)) db' =
      attemptRow crypto env item result (attemptOutcome crypto policy item result) :: endpointAttempts e db) :
    CircuitSound db' (e.afterAttempt env.now (attemptOutcome crypto policy item result)) := by
  cases hfailure : result.failure with
  | false =>
    rw [attemptOutcome_of_success hfailure] at hattempts ⊢
    exact circuitSound_of_success e hattempts hfailure
  | true =>
    rcases attemptOutcome_of_failure hfailure with ⟨_, houtcome⟩ | houtcome
    · rw [houtcome] at hattempts ⊢
      exact circuitSound_of_retry hsound hattempts hfailure
    · rw [houtcome] at hattempts ⊢
      exact circuitSound_of_deadLettered hsound hattempts hfailure

/-- The attempts of an endpoint once an attempt was added. -/
theorem endpointAttempts_append (hid : e'.id = e.id) (htenant : e'.tenantID = e.tenantID)
    (hrows : db'.attempts.rows = db.attempts.rows ++ [row]) :
    endpointAttempts e' db' =
      if row.tenantID = e.tenantID ∧ row.endpointID = e.id then row :: endpointAttempts e db
      else endpointAttempts e db := by
  rw [endpointAttempts, endpointAttempts, hrows, hid, htenant, List.filter_append, List.reverse_append]
  by_cases h : row.tenantID = e.tenantID ∧ row.endpointID = e.id
  · simp [h]
  · simp [h]

theorem afterAttempt_tenantID (now : Time) (outcome : AttemptOutcome) (e : Endpoint) :
    (e.afterAttempt now outcome).tenantID = e.tenantID := by
  cases outcome with
  | succeeded | deadLettered => rfl
  | retry =>
    rw [Endpoint.afterAttempt]
    split <;> rfl

theorem circuitsSound_of_recorded (hsound : CircuitsSound db)
    (h : recordDeliveryAttempt crypto item result env db = .ok ((), db')) : CircuitsSound db' := by
  obtain ⟨_, _, _, -, hrows, -, rfl⟩ := recordDeliveryAttempt_decides h
  intro e' he'
  obtain ⟨e, he, rfl⟩ := List.mem_map.mp he'
  split
  case isTrue hendpoint =>
    apply circuitSound_afterAttempt (hsound e he)
    rw [endpointAttempts_append (Endpoint.afterAttempt_id _ _ e) (afterAttempt_tenantID _ _ e) hrows]
    exact if_pos ⟨hendpoint.1.symm, hendpoint.2.symm⟩
  case isFalse hother =>
    apply (hsound e he).of_same (.refl e)
    rw [endpointAttempts_append rfl rfl hrows]
    exact if_neg fun h ↦ hother ⟨h.1.symm, h.2.symm⟩

end Recorded

theorem circuitsSound_of_act (hsound : CircuitsSound db) (h : Act l q env db q' db') : CircuitsSound db' := by
  cases circuitStep_of_act h with
  | recorded _ _ _ commits => exact circuitsSound_of_recorded hsound commits
  | kept endpoints attempts =>
    intro e' he'
    obtain ⟨e, he, hsame⟩ := endpoints e' he'
    refine (hsound e he).of_same hsame ?_
    rw [endpointAttempts, endpointAttempts, attempts, hsame.id, hsame.tenantID]

/-! ## Runs -/

/-- No attempt was recorded yet, and all circuits are new. -/
def Untried (db : DB) : Prop :=
  db.attempts.rows = [] ∧
    ∀ e ∈ db.endpoints, e.failureCount = 0 ∧ e.circuitState = .closed ∧ e.disabledUntil = none

theorem Untried.sound (h : Untried db) : CircuitsSound db := by
  intro e he
  obtain ⟨hcount, hclosed, hdisabled⟩ := h.2 e he
  have hnone : failuresSinceSuccess e db = [] := by
    rw [failuresSinceSuccess, endpointAttempts, h.1]
    rfl
  constructor
  · rw [hcount, hnone]
    rfl
  · rw [hclosed, hdisabled]
    simp
  · rw [hcount, hnone]
    exact fun _ ↦ ⟨Nat.zero_lt_succ 2, List.forall_mem_nil _⟩

/-- In every state of a run the circuit of every endpoint is the one that its attempts say: it counts the
failures since the last success, it is closed exactly when the endpoint is not disabled for a time, and it
is closed only after fewer than three failures of which each was retried. A recorded success closes it. -/
theorem circuits_follow_attempts {c : Threads Op DB (Work Unit)} (hrun : App.system.Run Untried events c) :
    CircuitsSound c.state ∧
      ∀ t ∈ events, ∀ crypto item result env, t.kind = .act env →
        recordDeliveryAttempt crypto item result env t.before = .ok ((), t.after) →
        result.failure = false →
        ∀ e ∈ t.after.endpoints, e.tenantID = item.tenantID → e.id = item.endpointID →
          e.failureCount = 0 ∧ e.circuitState = .closed ∧ e.disabledUntil = none := by
  refine ⟨invariant_of_acts (fun _ h ↦ h.sound) (fun _ _ _ _ _ _ hI h ↦ circuitsSound_of_act hI h) hrun, ?_⟩
  intro t _ crypto item result env _ hcommits hsuccess e he htenant hid
  obtain ⟨_, _, _, -, -, -, hafter⟩ := recordDeliveryAttempt_decides hcommits
  rw [hafter, attemptOutcome_of_success hsuccess] at he
  obtain ⟨e, he, rfl⟩ := List.mem_map.mp he
  by_cases hendpoint : e.tenantID = item.tenantID ∧ e.id = item.endpointID
  · rw [if_pos hendpoint]
    exact ⟨rfl, rfl, rfl⟩
  · rw [if_neg hendpoint] at htenant hid
    exact absurd ⟨htenant, hid⟩ hendpoint

/-- A success and then a failure that is retried. -/
theorem stale_run_counts_one_failure :
    App.system.Run Untried staleRun.1 staleRun.2 ∧
      staleRun.2.state.attempts.rows.map (fun a ↦ (a.endpointID, a.state)) =
        [("ep_1", .succeeded), ("ep_1", .failed)] ∧
      staleRun.2.state.endpoints.rows.map (fun e ↦ (e.id, e.failureCount, e.circuitState)) =
        [("ep_1", 1, .closed)] ∧
      CircuitsSound staleRun.2.state := by
  have hrun : App.system.Run Untried staleRun.1 staleRun.2 :=
    run_runScript (by unfold Untried; decide +kernel)
  exact ⟨hrun, by decide +kernel, by decide +kernel, (circuits_follow_attempts hrun).1⟩

end Webhookery.Delivery

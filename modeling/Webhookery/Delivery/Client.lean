import Webhookery.Delivery.Attempts

/-!
# The delivery client

The client checks the URL of an endpoint against the egress policy, prepares the transport and sends one
signed request. A request that fails in transport has no status, and so it is classified like a status
that is not worth a retry. Only a response that is lost while it is read keeps its status.
-/

namespace Webhookery.Delivery

open Go Store App Relational Concurrency Provider Machine

/-! ## Requests -/

/-- The transport that the client is configured with. -/
inductive Transport where
  | unset
  | standard
  | custom

/-- Why the client has no transport for a request. -/
inductive SetupError where
  | unsafeCustomTransport
  | certificate

/-- `deliveryhttp.Client`. What builds a request and what reads a certificate are parameters:
`buildRequest` says whether the URL passes the egress policy and the request can be built. -/
structure Client where
  http : Option Transport
  buildRequest : String → Bytes → Bool
  x509KeyPair : Bytes → Bytes → Bool

/-- `safeHTTPClient`: only transports whose dialer can be pinned are used. -/
def safeHTTPClient : Option Transport → Except SetupError Unit
  | some .custom => .error .unsafeCustomTransport
  | _ => .ok ()

/-- `httpClient`, with the certificate and the key of the endpoint if it has any. -/
def Client.httpClient (c : Client) (cert key : Bytes) : Except SetupError Unit := do
  safeHTTPClient c.http
  if cert = [] ∧ key = [] then return ()
  else if cert = [] ∨ key = [] then .error .certificate
  else if c.x509KeyPair cert key then return ()
  else .error .certificate

/-- What happens to a request: it fails, because the dialer refuses the address or for another reason, and
may have left by then; or it is answered, and the response is lost or read. -/
inductive Exchange where
  | failed (policyError left : Bool)
  | unread (statusCode : Int)
  | answered (statusCode : Int) (body : Bytes)

/-- The failure class of `safeDoError`. -/
def safeDoError (policyError : Bool) : String :=
  if policyError then "policy_blocked" else "network_error"

def classify (status : Int) : String :=
  if 200 ≤ status ∧ status ≤ 299 then "success"
  else if status = 408 ∨ status = 409 ∨ status = 425 ∨ status = 429 then "temporary_http"
  else if 500 ≤ status ∧ status ≤ 599 then "temporary_http"
  else if 300 ≤ status ∧ status ≤ 399 then "redirect_blocked"
  else "permanent_http"

def Client.deliver (c : Client) (rawURL : String) (body cert key : Bytes) (exchange : Exchange) : ClientReply :=
  if c.buildRequest rawURL body then
    match c.httpClient cert key with
    | .error .unsafeCustomTransport => ⟨false, ⟨0, [], "client_configuration_error", true⟩⟩
    | .error .certificate => ⟨false, ⟨0, [], "client_certificate_error", true⟩⟩
    | .ok () =>
      match exchange with
      | .failed policyError left => ⟨left, ⟨0, [], safeDoError policyError, true⟩⟩
      | .unread status => ⟨true, ⟨status, [], "response_read_error", true⟩⟩
      | .answered status body => ⟨true, ⟨status, body.take 16384, classify status, false⟩⟩
  else ⟨false, ⟨0, [], "policy_blocked", true⟩⟩

/-- `deliveryAdapter.Deliver`: the client of the worker. -/
def deliveryAdapter (c : Client) (exchange : DeliveryItem → Exchange) (item : DeliveryItem) : ClientReply :=
  c.deliver item.endpointURL item.body item.mtlsClientCertPEM item.mtlsClientKeyPEM (exchange item)

/-! ## Failures in transport -/

/-- The request of the item was built and sent out, and failed in transport: there was no response, or it
could not be read. -/
structure TransportFails (c : Client) (exchange : DeliveryItem → Exchange) (item : DeliveryItem) : Prop where
  allowed : c.buildRequest item.endpointURL item.body = true
  ready : c.httpClient item.mtlsClientCertPEM item.mtlsClientKeyPEM = .ok ()
  fails : (∃ left, exchange item = .failed false left) ∨ ∃ status, exchange item = .unread status

/-- The response to the item had a status that is worth a retry and was lost while it was read. -/
def LostTemporary (exchange : DeliveryItem → Exchange) (item : DeliveryItem) : Prop :=
  ∃ status, exchange item = .unread status ∧ (Retry.classifyStatus status).retryable = true

variable {c : Client} {exchange : DeliveryItem → Exchange} {item : DeliveryItem} {crypto : Crypto}
  {policy : Retry.Policy} {env : Env} {db db' : DB} {d : Delivery}

/-- A failure in transport is an error, and its status is that of the response if there was one. -/
theorem TransportFails.retryable_iff (h : TransportFails c exchange item) :
    (deliveryAdapter c exchange item).result.failure = true ∧
      (attemptRetryable (deliveryAdapter c exchange item).result = true ↔ LostTemporary exchange item) := by
  unfold deliveryAdapter Client.deliver LostTemporary
  rw [if_pos h.allowed, h.ready]
  rcases h.fails with ⟨_, hfails⟩ | ⟨status, hfails⟩
  · refine ⟨by rw [hfails]; rfl, iff_of_false ?_ ?_⟩
    · simp [hfails, attemptRetryable, Retry.classifyStatus]
    · rintro ⟨_, hstatus, -⟩
      rw [hfails] at hstatus
      cases hstatus
  · simp [hfails, attemptRetryable, DeliveryResult.failure]

/-- The delivery of the item is scheduled again after the delay of the policy, and no entry was added. -/
def Rescheduled (crypto : Crypto) (policy : Retry.Policy) (item : DeliveryItem) (env : Env) (db db' : DB) : Prop :=
  (∃ d ∈ db'.deliveries, d.tenantID = item.tenantID ∧ d.id = item.id ∧ d.state = .scheduled ∧
    d.attemptCount = item.attemptCount + 1 ∧ d.nextAttemptAt = timestamptz (env.now +
      policy.nextDeterministicDelay crypto (item.attemptCount + 1) (item.seed crypto))) ∧
  db'.deadLetters.rows = db.deadLetters.rows

/-- What a recording does to the delivery of its item. -/
theorem rescheduled_of_outcome {result : DeliveryResult} (hd : d ∈ db.deliveries) (hitem : ItemOf d item)
    (hpolicy : retryPolicyForDelivery item.tenantID item.retryPolicyID db = .ok policy)
    (hcommit : recordDeliveryAttempt crypto item result env db = .ok ((), db'))
    (hfailure : result.failure = true) (hattempt : (item.attemptCount + 1 : Int) < policy.maxAttempts) :
    Rescheduled crypto policy item env db db' ↔ attemptRetryable result = true := by
  obtain ⟨policy', _, _, hpolicy', -, hentries, rfl⟩ := recordDeliveryAttempt_decides hcommit
  obtain rfl : policy = policy' := Except.ok.inj (hpolicy.symm.trans hpolicy')
  have hmem : d.afterAttempt crypto env.now item (attemptOutcome crypto policy item result) ∈
      (settleDelivery crypto env.now item (attemptOutcome crypto policy item result) db).deliveries :=
    List.mem_map.mpr ⟨d, hd, if_pos ⟨hitem.tenantID, hitem.id⟩⟩
  have hafter := d.afterAttempt_id crypto env.now item (attemptOutcome crypto policy item result)
  by_cases hretry : attemptRetryable result = true
  case pos =>
    have houtcome : attemptOutcome crypto policy item result = .retry
        (policy.nextDeterministicDelay crypto (item.attemptCount + 1) (item.seed crypto)) := by
      rw [attemptOutcome, if_pos hfailure, if_pos ⟨hretry, hattempt⟩]
    rw [houtcome] at hmem hentries ⊢
    refine iff_of_true ⟨⟨_, hmem, hitem.tenantID, hitem.id, rfl, rfl, rfl⟩, ?_⟩ hretry
    rw [hentries]
    exact List.append_nil _
  case neg =>
    have houtcome : attemptOutcome crypto policy item result = .deadLettered := by
      rw [attemptOutcome, if_pos hfailure, if_neg fun h ↦ hretry h.1]
    rw [houtcome] at hmem hafter ⊢
    refine iff_of_false ?_ hretry
    rintro ⟨⟨_, hd', -, hid, hstate, -⟩, -⟩
    have hsame := Table.eq_of_key_eq hd' hmem (hid.trans (hitem.id.symm.trans hafter.symm))
    rw [hsame] at hstate
    cases hstate

/-- With attempts left, an attempt that failed in transport is retried exactly when a response with a
status that is worth a retry was lost. -/
theorem transport_failure_retried_iff (hd : d ∈ db.deliveries) (hitem : ItemOf d item)
    (hfails : TransportFails c exchange item)
    (hpolicy : retryPolicyForDelivery item.tenantID item.retryPolicyID db = .ok policy)
    (hattempt : (item.attemptCount + 1 : Int) < policy.maxAttempts)
    (hcommit : recordDeliveryAttempt crypto item (deliveryAdapter c exchange item).result env db =
      .ok ((), db')) :
    Rescheduled crypto policy item env db db' ↔ LostTemporary exchange item := by
  obtain ⟨hfailure, hretryable⟩ := hfails.retryable_iff
  exact (rescheduled_of_outcome hd hitem hpolicy hcommit hfailure hattempt).trans hretryable

/-! ### An endpoint of the shop that does not answer -/

/-- A client for which every URL is allowed. -/
def shopHTTP : Client := ⟨none, fun _ _ ↦ true, fun _ _ ↦ true⟩

/-- The event is routed to the endpoint. -/
def routedSigning : DB := (runScript routedScript shopSigning).2.state

/-- The endpoint is busy, and its answer is lost. -/
def lostResponse (_ : DeliveryItem) : Exchange := .unread 503

theorem lost_response_retried :
    ∃ item db', TransportFails shopHTTP lostResponse item ∧
      recordDeliveryAttempt checksum item (deliveryAdapter shopHTTP lostResponse item).result (shopEnv 40)
        routedSigning = .ok ((), db') ∧
      Rescheduled checksum Retry.defaultPolicy item (shopEnv 40) routedSigning db' ∧
      db'.deadLetters.rows.length = 0 := by
  obtain ⟨_, hd, item, hpopulate, ⟨hcount, hpolicy, hcert, hkey⟩, ⟨⟨⟩, db'⟩, hcommit, hnone⟩ :
      ∃ d ∈ routedSigning.deliveries, ∃ item, populateDeliveryItem (shopEnv 30) routedSigning d = .ok item ∧
        (item.attemptCount = 0 ∧ item.retryPolicyID = "" ∧ item.mtlsClientCertPEM = [] ∧ item.mtlsClientKeyPEM = []) ∧
        ∃ r, recordDeliveryAttempt checksum item (deliveryAdapter shopHTTP lostResponse item).result (shopEnv 40)
          routedSigning = .ok r ∧ r.2.deadLetters.rows.length = 0 := by decide +kernel
  obtain ⟨hid, htenant, hevent, -⟩ := populateDeliveryItem_eq_ok hpopulate
  have hfails : TransportFails shopHTTP lostResponse item := by
    refine ⟨rfl, ?_, .inr ⟨503, rfl⟩⟩
    rw [hcert, hkey]
    rfl
  refine ⟨item, db', hfails, hcommit, ?_, hnone⟩
  refine (transport_failure_retried_iff hd ⟨hid.symm, htenant.symm, hevent.symm⟩ hfails ?_ ?_ hcommit).mpr
    ⟨503, rfl, rfl⟩
  · rw [hpolicy]
    rfl
  · rw [hcount]
    decide

/-- The connection to the endpoint is refused. -/
def refusedConnection (_ : DeliveryItem) : Exchange := .failed false false

/-- A worker attempts the first delivery of the event. -/
def unreachableRun : AppRun := runScript
  (routedScript ++ [.start (.runDeliveries checksum (deliveryAdapter shopHTTP refusedConnection) "worker" 1),
    .go 1 20 (shopFrom 30)]) shopSigning

/-- The first of twelve attempts failed in transport, and the delivery is dead-lettered. -/
theorem unreachable_endpoint_dead_letters :
    App.system.Run Unattempted unreachableRun.1 unreachableRun.2 ∧
      Retry.defaultPolicy.maxAttempts = 12 ∧
      unreachableRun.2.state.deliveries.rows.map (fun d ↦ (d.id, d.retryPolicyID, d.state, d.attemptCount)) =
        [("del_15", "", .deadLettered, 1), ("del_17", "", .scheduled, 0)] ∧
      unreachableRun.2.state.attempts.rows.map (fun a ↦
        (a.deliveryID, a.attemptNo, a.responseStatus, a.failureClass, a.retryable)) =
        [("del_15", 1, 0, "network_error", false)] ∧
      unreachableRun.2.state.deadLetters.rows.map (fun entry ↦ (entry.deliveryID, entry.reason)) =
        [("del_15", "network_error")] :=
  ⟨run_runScript unattempted_shopSigning, rfl, by decide +kernel,
    by decide +kernel, by decide +kernel⟩

end Webhookery.Delivery

import Webhookery.Go.Escape
import Webhookery.Store.Schema
import Webhookery.Concurrency.Program
import Mathlib.Algebra.Order.BigOperators.Group.List
import Mathlib.Algebra.Order.Group.Nat

/-!
# Database state and statements

The state of the store, the errors of its operations, and the statements they are made of. An
operation is a transaction: it returns a result with the new state, or an error, in which case
nothing was written.
-/

namespace Webhookery.Store

open Go Relational Concurrency

/-- The index of a table without a further unique constraint. -/
def noIndex {α : Type} (_ : α) : Option Unit := none

theorem noIndex_eq {α κ : Type} {key : α → κ} (x r : α) (_ : key r = key x) : noIndex x = noIndex r := rfl

/-- The tables, and the requests that workers sent to endpoints so far. -/
structure DB where
  events : Table Event Event.id (fun e ↦ some (e.tenantID, e.dedupeKey))
  rawPayloads : Table RawPayload RawPayload.id noIndex
  receipts : Table Receipt Receipt.id noIndex
  normalized : Table NormalizedRow NormalizedRow.id (fun n ↦ some (n.tenantID, n.eventID))
  quarantine : Table QuarantineEntry QuarantineEntry.id noIndex
  idempotency : Table IdempotencyRecord (fun r ↦ (r.tenantID, r.dedupeKey)) noIndex
  dedupe : Table DedupeRecord (fun r ↦ (r.tenantID, r.dedupeKey)) noIndex
  outbox : Table OutboxRow OutboxRow.id noIndex
  sources : Table Source Source.id noIndex
  sourceSecrets : Table SourceSecretVersion SourceSecretVersion.id
    (fun v ↦ some (v.tenantID, v.sourceID, v.version))
  adapterVersions : Table AdapterVersion AdapterVersion.id noIndex
  endpoints : Table Endpoint Endpoint.id noIndex
  endpointSecrets : Table EndpointSecret EndpointSecret.id
    (fun s ↦ some (s.tenantID, s.endpointID, s.version))
  retryPolicies : Table RetryPolicy RetryPolicy.id (fun p ↦ some (p.tenantID, p.name, p.version))
  transformations : Table Transformation Transformation.id noIndex
  transformationVersions : Table TransformationVersion TransformationVersion.id noIndex
  routes : Table Route Route.id noIndex
  routeVersions : Table RouteVersion RouteVersion.id (fun v ↦ some (v.tenantID, v.routeID, v.version))
  subscriptions : Table Subscription Subscription.id noIndex
  subscriptionVersions : Table SubscriptionVersion SubscriptionVersion.id
    (fun v ↦ some (v.tenantID, v.subscriptionID, v.version))
  deliveries : Table Delivery Delivery.id noIndex
  deliveryPayloads : Table DeliveryPayload DeliveryPayload.id (fun p ↦ some (p.tenantID, p.deliveryID))
  attempts : Table DeliveryAttempt DeliveryAttempt.id noIndex
  sent : List SentRequest
  replayJobs : Table ReplayJob ReplayJob.id noIndex
  replayItems : Table ReplayItem ReplayItem.id noIndex
  replayReceipts : Table ReplayReceipt ReplayReceipt.id noIndex
  replayPolicies : Table ReplayApprovalPolicy ReplayApprovalPolicy.id
    (fun p ↦ some (p.tenantID, p.scope, p.scopeID))
  deadLetters : Table DeadLetterEntry DeadLetterEntry.id noIndex
  connections : Table ProviderConnection ProviderConnection.id noIndex
  reconciliationJobs : Table ReconciliationJob ReconciliationJob.id noIndex
  reconciliationItems : Table ReconciliationItem ReconciliationItem.id noIndex

/-- A database without rows. -/
def DB.empty : DB where
  events := .empty
  rawPayloads := .empty
  receipts := .empty
  normalized := .empty
  quarantine := .empty
  idempotency := .empty
  dedupe := .empty
  outbox := .empty
  sources := .empty
  sourceSecrets := .empty
  adapterVersions := .empty
  endpoints := .empty
  endpointSecrets := .empty
  retryPolicies := .empty
  transformations := .empty
  transformationVersions := .empty
  routes := .empty
  routeVersions := .empty
  subscriptions := .empty
  subscriptionVersions := .empty
  deliveries := .empty
  deliveryPayloads := .empty
  attempts := .empty
  sent := []
  replayJobs := .empty
  replayItems := .empty
  replayReceipts := .empty
  replayPolicies := .empty
  deadLetters := .empty
  connections := .empty
  reconciliationJobs := .empty
  reconciliationItems := .empty

/-- Why an operation did not commit. `failed` stands for every error of the database or the
object store, constraint violations included. -/
inductive StoreError where
  | notFound
  | gone
  | invalidInput (message : String)
  | deferred
  | failed
  deriving DecidableEq, Repr

/-- The text of an error of the store; texts of the database itself are left out. -/
def StoreError.message : StoreError → String
  | .notFound => "not found"
  | .gone => "gone"
  | .invalidInput message => "invalid input: " ++ message
  | .deferred => "work deferred"
  | .failed => ""

/-- What an operation takes from its environment: the clock, the random tokens of the identifiers
it generates (by kind, and counting those of one kind), whether the connection fails, and what the
secret box returns for a tenant, a purpose and a ciphertext. -/
structure Env where
  now : Time
  token : String → Nat → String
  connectionFails : Bool
  decryptSecret : String → String → Bytes → Option Bytes

/-- `mustID`: the `n`-th identifier of a kind that an operation generates. -/
def Env.mustID (env : Env) (kind : String) (n : Nat) : String := kind ++ "_" ++ env.token kind n

theorem Env.mustID_ne_empty (env : Env) (kind : String) (n : Nat) : env.mustID kind n ≠ "" := by
  intro h
  have hlength := congrArg String.length h
  simp [Env.mustID, String.length_append] at hlength

/-- There is always an environment whose identifiers are not in use. -/
theorem exists_fresh_env (now : Time) (ids : List String) :
    ∃ env : Env, env.now = now ∧ env.connectionFails = false ∧ ∀ kind n, env.mustID kind n ∉ ids := by
  -- a token that is longer than every identifier
  let token := String.ofList (List.replicate ((ids.map String.length).sum + 1) 'a')
  refine ⟨⟨now, fun _ _ ↦ token, false, fun _ _ _ ↦ none⟩, rfl, rfl, fun kind n hid ↦ ?_⟩
  have hle : (kind ++ "_" ++ token).length ≤ (ids.map String.length).sum :=
    List.le_sum_of_mem (List.mem_map_of_mem hid)
  simp only [token, String.length_append, String.length_ofList, List.length_replicate] at hle
  omega

/-- What reading back a `jsonb` column gives for the document written to it. -/
structure Jsonb where
  text : Bytes → Bytes

/-! ## Statements -/

section Statements

variable {α κ ι : Type} {key : α → κ} {index : α → Option ι}

/-- `INSERT INTO ... VALUES`. -/
def insertRow [DecidableEq κ] [DecidableEq ι] (t : Table α key index) (x : α) : Except StoreError (Table α key index) :=
  match t.insert? x with
  | some t' => .ok t'
  | none => .error .failed

/-- `SELECT ... LIMIT 1`, with an error when there is no row. -/
def selectRow (t : Table α key index) (p : α → Bool) : Except StoreError α :=
  match t.find? p with
  | some r => .ok r
  | none => .error .notFound

/-- A condition of the operation. -/
def require (p : Bool) (e : StoreError) : Except StoreError Unit :=
  if p then .ok () else .error e

variable {t t' : Table α key index} {x r : α} {e : StoreError} {p : α → Bool}

theorem insertRow_eq_ok [DecidableEq κ] [DecidableEq ι] : insertRow t x = .ok t' ↔ t.insert? x = some t' := by
  unfold insertRow
  cases t.insert? x <;> simp

theorem selectRow_eq_ok : selectRow t p = .ok r ↔ t.find? p = some r := by
  unfold selectRow
  cases t.find? p <;> simp

theorem require_eq_ok {p : Bool} : require p e = .ok () ↔ p = true := by
  unfold require
  cases p <;> simp

theorem mem_of_selectRow (h : selectRow t p = .ok r) : r ∈ t ∧ p r = true := by
  rw [selectRow_eq_ok] at h
  exact ⟨List.mem_of_find?_eq_some h, List.find?_some h⟩

/-- A row that was selected by two columns. -/
theorem selectRow_columns {f g : α → String} {a b : String}
    (h : selectRow t (fun x ↦ f x == a && g x == b) = .ok r) : r ∈ t ∧ f r = a ∧ g r = b := by
  obtain ⟨hmem, hp⟩ := mem_of_selectRow h
  simpa [hmem] using hp

/-- A row is selected by its key, whatever else is asked of it. -/
theorem selectRow_key {key f : α → String} {t : Table α key index} {a b : String} (hr : r ∈ t)
    (hf : f r = a) (hkey : key r = b) : selectRow t (fun x ↦ f x == a && key x == b) = .ok r := by
  refine selectRow_eq_ok.mpr (Table.find?_eq_some hr (by simp [hf, hkey]) fun x hx hp ↦ ?_)
  rw [Bool.and_eq_true, beq_iff_eq, beq_iff_eq] at hp
  exact Table.eq_of_key_eq hx hr (hp.2.trans hkey.symm)

/-- A transaction that committed went through each of its statements. -/
theorem bind_eq_ok {ε β γ : Type} {a : Except ε β} {f : β → Except ε γ} {c : γ} :
    (a >>= f) = .ok c ↔ ∃ b, a = .ok b ∧ f b = .ok c := by
  cases a with
  | error | ok => simp [bind, Except.bind]

/-- A check, and then the rest. -/
theorem seq_eq_ok {γ : Type} {a : Except StoreError Unit} {f : Unit → Except StoreError γ} {c : γ} :
    (a >>= f) = .ok c ↔ a = .ok () ∧ f () = .ok c := by
  rw [bind_eq_ok]
  constructor
  · rintro ⟨⟨⟩, ha, hf⟩
    exact ⟨ha, hf⟩
  · rintro ⟨ha, hf⟩
    exact ⟨(), ha, hf⟩

/-- Neither of two operations fails with the error. -/
theorem bind_ne_error {β γ : Type} {a : Except StoreError β} {f : β → Except StoreError γ}
    (ha : a ≠ .error e) (hf : ∀ b, f b ≠ .error e) : (a >>= f) ≠ .error e := by
  cases a with
  | error => exact fun h ↦ ha (congrArg _ (Except.error.inj h))
  | ok b => exact hf b

theorem map_ne_error {β γ : Type} {a : Except StoreError β} {f : β → γ} (ha : a ≠ .error e) : a.map f ≠ .error e := by
  cases a with
  | error => exact fun h ↦ ha (congrArg _ (Except.error.inj h))
  | ok => exact nofun

theorem insertRow_ne_deferred [DecidableEq κ] [DecidableEq ι] : insertRow t x ≠ .error .deferred := by
  unfold insertRow
  split <;> simp

theorem selectRow_ne_deferred : selectRow t p ≠ .error .deferred := by
  unfold selectRow
  split <;> simp

theorem require_ne_error {p : Bool} {e e' : StoreError} (h : e ≠ e') : require p e ≠ .error e' := by
  unfold require
  split
  · exact nofun
  · exact fun heq ↦ h (Except.error.inj heq)

/-- A checked insertion that committed: the check passed and the row was free. -/
theorem require_insertRow_eq_ok [DecidableEq κ] [DecidableEq ι] {β : Type} {p : Bool}
    {f : Table α key index → β} {c : β} :
    (do require p e; let t' ← insertRow t x; return f t') = .ok c ↔
      p = true ∧ ∃ t', t.insert? x = some t' ∧ f t' = c := by
  constructor
  · intro h
    obtain ⟨_, hp, hrest⟩ := bind_eq_ok.mp h
    obtain ⟨t', ht, hc⟩ := bind_eq_ok.mp hrest
    exact ⟨require_eq_ok.mp hp, t', insertRow_eq_ok.mp ht, Except.ok.inj hc⟩
  · rintro ⟨hp, t', ht, rfl⟩
    exact bind_eq_ok.mpr ⟨(), require_eq_ok.mpr hp, bind_eq_ok.mpr ⟨t', insertRow_eq_ok.mpr ht, rfl⟩⟩

end Statements

/-- Whether an operation committed with a result that passes a test. -/
def okWith {β : Type} (a : Except StoreError β) (test : β → Bool) : Bool :=
  match a with
  | .ok b => test b
  | .error _ => false

theorem exists_of_okWith {β : Type} {a : Except StoreError β} {test : β → Bool}
    (h : okWith a test = true) : ∃ b, a = .ok b ∧ test b = true := by
  cases a with
  | ok b => exact ⟨b, rfl, h⟩
  | error => cases h

instance instDecidableExistsOk {ε β : Type} {a : Except ε β} {p : β → Prop} [DecidablePred p] : Decidable (∃ b, a = .ok b ∧ p b) :=
  match a with
  | .ok b => decidable_of_iff (p b) ⟨fun h ↦ ⟨b, rfl, h⟩, fun ⟨_, hb, h⟩ ↦ Except.ok.inj hb ▸ h⟩
  | .error _ => isFalse nofun

/-! ## Programs over the store -/

/-- What a service does with the store: a sequence of transactions and statements, each of them
one atomic step. -/
abbrev Work (α : Type) : Type 1 := Program Env DB StoreError α

variable {α : Type}

/-- A transaction, which fails without effect when the connection does. -/
def transaction (t : Env → DB → Except StoreError (α × DB)) : Work α :=
  .atomic fun env db ↦ if env.connectionFails then .error .failed else t env db

/-- A single `SELECT`. -/
def query (q : DB → Except StoreError α) : Work α :=
  transaction fun _ db ↦ (q db).map fun a ↦ (a, db)

/-- `time.Now`. -/
def clockNow : Work Time := .atomic fun env db ↦ .ok (env.now, db)

theorem map_eq_ok {β : Type} {e : Except StoreError α} {f : α → β} {b : β} :
    e.map f = .ok b ↔ ∃ a, e = .ok a ∧ f a = b := by
  cases e <;> simp [Except.map]

section Rules

variable {db db' : DB} {a : α} {t : Env → DB → Except StoreError (α × DB)}
  {q : DB → Except StoreError α}

section Alone

variable {β : Type} {Q : Except StoreError α → DB → Prop} {R : Except StoreError β → DB → Prop}

theorem ensures_transaction
    (hok : ∀ env a db', t env db = .ok (a, db') → Q (.ok a) db') (herror : ∀ e, Q (.error e) db) :
    Program.Ensures (transaction t) db Q := by
  refine Program.Ensures.atomic ?_ herror
  intro env a db' hcommit
  split at hcommit
  · cases hcommit
  · exact hok env a db' hcommit

/-- A query, and what follows it in the state that was read. -/
theorem ensures_query {f : α → Work β}
    (hok : ∀ a, q db = .ok a → Program.Ensures (f a) db R) (herror : ∀ e, R (.error e) db) :
    Program.Ensures ((query q).bind f) db R := by
  have hread : Program.Ensures (query q) db fun r db' ↦ db' = db ∧ ∀ a, r = .ok a → q db = .ok a := by
    refine ensures_transaction (fun env a db' hcommit ↦ ?_) fun e ↦ ⟨rfl, nofun⟩
    obtain ⟨_, hq, hpair⟩ := map_eq_ok.mp hcommit
    cases hpair
    exact ⟨rfl, fun _ ha ↦ ha ▸ hq⟩
  refine hread.bind ?_ ?_
  · rintro a _ ⟨rfl, ha⟩
    exact hok a (ha a rfl)
  · rintro e _ ⟨rfl, -⟩
    exact herror e

theorem ensures_clockNow (hok : ∀ now, Program.Ensures (f now) db R)
    (herror : ∀ e, R (.error e) db) : Program.Ensures (clockNow.bind f) db R := by
  have hread : Program.Ensures clockNow db fun _ db' ↦ db' = db := by
    refine Program.Ensures.atomic (fun env now db' hnow ↦ ?_) fun _ ↦ rfl
    cases hnow
    rfl
  refine hread.bind ?_ ?_
  · rintro now _ rfl
    exact hok now
  · rintro e _ rfl
    exact herror e

theorem avoids_transaction (h : ∀ env db, t env db ≠ .error .deferred) : Program.Avoids .deferred (transaction t) := by
  refine Program.Avoids.atomic fun env db ↦ ?_
  split
  · exact nofun
  · exact h env db

theorem avoids_query (h : ∀ db, q db ≠ .error .deferred) : Program.Avoids .deferred (query q) :=
  avoids_transaction fun _ db ↦ map_ne_error (h db)

/-- A transaction that was interrupted did not happen or has committed. -/
theorem interrupted_transaction (h : Program.Interrupted (transaction t) db db') :
    db' = db ∨ ∃ env a, t env db = .ok (a, db') := by
  rcases h.of_atomic with rfl | ⟨env, a, hcommit⟩
  · exact .inl rfl
  · split at hcommit
    · cases hcommit
    · exact .inr ⟨env, a, hcommit⟩

theorem interrupted_query (h : Program.Interrupted (query q) db db') : db' = db := by
  rcases interrupted_transaction h with rfl | ⟨_, a, hcommit⟩
  · rfl
  · obtain ⟨_, -, hpair⟩ := map_eq_ok.mp hcommit
    cases hpair
    rfl

end Alone

theorem runs_transaction (h : Program.Runs (transaction t) db (.ok a) db') : ∃ env, t env db = .ok (a, db') := by
  obtain ⟨env, hcommit⟩ := h.of_atomic
  split at hcommit
  · cases hcommit
  · exact ⟨env, hcommit⟩

theorem runs_clockNow (h : Program.Runs clockNow db (.ok now) db') : db' = db := by
  obtain ⟨_, hread⟩ := h.of_atomic
  cases hread
  rfl

theorem runs_query (h : Program.Runs (query q) db (.ok a) db') : q db = .ok a ∧ db' = db := by
  obtain ⟨_, hcommit⟩ := runs_transaction h
  obtain ⟨_, hq, hpair⟩ := map_eq_ok.mp hcommit
  cases hpair
  exact ⟨hq, rfl⟩

theorem runs_of_transaction (hconnection : env.connectionFails = false) (h : t env db = .ok (a, db')) :
    Program.Runs (transaction t) db (.ok a) db' := by
  have hcommit : (if env.connectionFails then .error .failed else t env db) = .ok (a, db') := by
    rw [hconnection, if_neg Bool.false_ne_true, h]
  exact .atomic hcommit

theorem runs_clockNow_iff : Program.Runs clockNow db (.ok now) db' ↔ db' = db := by
  constructor
  · exact runs_clockNow
  · rintro rfl
    have hread : (fun (env : Env) (db : DB) ↦ (.ok (env.now, db) : Except StoreError (Time × DB)))
        ⟨now, fun _ _ ↦ "", false, fun _ _ _ ↦ none⟩ db' = .ok (now, db') := rfl
    exact .atomic hread

theorem reads_query (q : DB → Except StoreError α) : Program.Reads (query q) q := by
  intro db a db'
  constructor
  · exact runs_query
  · rintro ⟨h, rfl⟩
    have hconnection : (⟨0, fun _ _ ↦ "", false, fun _ _ _ ↦ none⟩ : Env).connectionFails = false := rfl
    apply runs_of_transaction hconnection
    rw [h]
    rfl

end Rules

/-! ## Column values -/

/-- What a `timestamptz` column keeps of a time: whole microseconds. -/
def timestamptz (t : Time) : Time := t / 1000 * 1000

/-- A text column refuses a zero character. -/
def textAccepts (s : String) : Bool := !hasNul s

/-- A `jsonb` column refuses a document with the escape of the zero character. -/
def jsonbAccepts (document : Bytes) : Bool := !hasNulEscape document

end Webhookery.Store

import Webhookery.Audit.Ledger

/-!
# Runs of the writers

Transactions that record events, backfill batches and retention runs, in any order; each commits as a whole
or leaves nothing behind. A run begins with the events of a time before the chain. In every state it
reaches, the chain of every tenant is complete, linked and in step with its head row, and no event that was
recorded is missing from it.
-/

namespace Webhookery.Audit

open Go Relational Store AuditTables

variable {crypto : Crypto} {log : AuditLog}

/-! ## Runs -/

/-- The tables, and the events that `recordAuditEventTx` wrote in committed transactions so far. -/
structure AuditLog where
  tables : AuditTables
  written : List AuditEvent

/-- A transaction of one of the writers, and whether it commits. Recording happens within transactions of
other operations, which may record several events and may be rolled back. -/
inductive AuditOp where
  | record (env : Env) (inputs : List AuditEventInput) (commits : Bool)
  | backfill (env : Env) (workerID : String) (limit : Int) (commits : Bool)
  | retain (env : Env) (scan : Scan AuditEvent) (workerID : String) (policy : RetentionPolicy) (commits : Bool)

namespace AuditOp

/-- The events a transaction records, and the tables it would commit. -/
def run (crypto : Crypto) : AuditOp → AuditTables → Except StoreError (List AuditEvent × AuditTables)
  | record env inputs _, db => recordAuditEvents crypto env 0 inputs db
  | backfill env workerID limit _, db => do
    let (_, db) ← backfillAuditChain crypto env workerID limit db
    return ([], db)
  | retain env scan workerID policy _, db => applyRetentionPolicy crypto env scan workerID policy db

def commits : AuditOp → Bool
  | record _ _ commits => commits
  | backfill _ _ _ commits => commits
  | retain _ _ _ _ commits => commits

def perform (crypto : Crypto) (op : AuditOp) (log : AuditLog) : AuditLog :=
  match op.run crypto log.tables with
  | .ok (events, tables) => if op.commits then ⟨tables, log.written ++ events⟩ else log
  | .error _ => log

/-- The identifiers that a transaction generates for its events are none that an entry names: they are
random, and one that was handed out does not come back. -/
def Fresh (db : AuditTables) : AuditOp → Prop
  | record env _ _ => ∀ entry ∈ db.entries, ∀ n, entry.auditEventID ≠ env.mustID "aud" n
  | backfill _ _ _ _ => True
  | retain env _ _ _ _ => ∀ entry ∈ db.entries, ∀ n, entry.auditEventID ≠ env.mustID "aud" n

end AuditOp

/-- Tables of a time before the chain: events, whose identifiers were generated, and no entries. -/
structure AuditTables.Unchained (db : AuditTables) : Prop where
  entries : db.entries.rows = []
  heads : db.heads.rows = []
  named : ∀ event ∈ db.events, event.id ≠ ""

/-- The states that transactions lead to, one after the other. -/
inductive Reached (crypto : Crypto) (start : AuditTables) : AuditLog → Prop
  | start : Reached crypto start ⟨start, []⟩
  | step {log : AuditLog} (h : Reached crypto start log) (op : AuditOp) (hfresh : op.Fresh log.tables) :
    Reached crypto start (op.perform crypto log)

/-! ## What every run preserves -/

/-- The tables are intact, and every recorded event has an entry. -/
structure AuditLog.Intact (crypto : Crypto) (log : AuditLog) : Prop where
  tables : Audit.Intact crypto log.tables
  written : ∀ event ∈ log.written, log.tables.chained event = true

theorem AuditTables.Unchained.intact (h : db.Unchained) : Audit.Intact crypto db := by
  have hchain (tenantID : String) : db.chainOf tenantID = [] := by
    rw [chainOf, h.entries]
    rfl
  have hnone (entry : AuditChainEntry) : entry ∉ db.entries := Table.not_mem_of_rows_eq_nil h.entries
  refine ⟨⟨?_, ?_, ?_, ?_, ?_, ?_, h.named⟩, ?_⟩
  · intro tenantID
    rw [hchain]
    trivial
  · intro tenantID
    rw [hchain]
    exact List.nodup_nil
  · exact fun entry hentry ↦ absurd hentry (hnone entry)
  · exact fun entry hentry ↦ absurd hentry (hnone entry)
  · exact fun entry hentry ↦ absurd hentry (hnone entry)
  · exact fun entry hentry ↦ absurd hentry (hnone entry)
  · intro tenantID
    have hhead : db.headOf tenantID = (0, "") := by
      rw [headOf, Table.find?, h.heads]
      rfl
    rw [hhead]
    constructor
    · rw [hchain]
      rfl
    · rw [hchain]
      rfl

theorem AuditOp.run_eq_ok {op : AuditOp} {db db' : AuditTables} {events : List AuditEvent}
    (hintact : Audit.Intact crypto db) (hfresh : op.Fresh db) (h : op.run crypto db = .ok (events, db')) :
    Audit.Intact crypto db' ∧ EntriesKept db db' ∧ ∀ event ∈ events, db'.chained event = true := by
  cases op with
  | record =>
    exact recordAuditEvents_eq_ok hintact (fun entry hentry ↦ .inl (hfresh entry hentry)) h
  | backfill =>
    obtain ⟨⟨_, _⟩, hbackfill, h⟩ := bind_eq_ok.mp h
    cases h
    obtain ⟨hintact', hkept⟩ := backfillAuditChain_eq_ok hintact hbackfill
    exact ⟨hintact', hkept, nofun⟩
  | retain => exact applyRetentionPolicy_eq_ok hintact hfresh h

/-- A transaction keeps intact tables intact, and the entries, whether it commits or not. -/
theorem AuditOp.tables_perform {op : AuditOp} (hintact : Audit.Intact crypto log.tables)
    (hfresh : op.Fresh log.tables) :
    Audit.Intact crypto (op.perform crypto log).tables ∧ EntriesKept log.tables (op.perform crypto log).tables := by
  unfold AuditOp.perform
  split
  case h_1 hrun =>
    obtain ⟨hintact', hkept, -⟩ := AuditOp.run_eq_ok hintact hfresh hrun
    split
    · exact ⟨hintact', hkept⟩
    · exact ⟨hintact, .refl⟩
  case h_2 => exact ⟨hintact, .refl⟩

theorem AuditLog.Intact.perform {op : AuditOp} (h : log.Intact crypto)
    (hfresh : op.Fresh log.tables) : (op.perform crypto log).Intact crypto := by
  unfold AuditOp.perform
  split
  case h_1 hrun =>
    obtain ⟨hintact, hkept, hchained⟩ := AuditOp.run_eq_ok h.tables hfresh hrun
    split
    case isTrue =>
      refine ⟨hintact, fun event hevent ↦ ?_⟩
      exact (List.mem_append.mp hevent).elim (fun hold ↦ hkept.kept event (h.written event hold)) (hchained event)
    case isFalse => exact h
  case h_2 => exact h

theorem Reached.intact {start : AuditTables} (hstart : start.Unchained)
    (h : Reached crypto start log) : log.Intact crypto := by
  induction h with
  | start => exact ⟨hstart.intact, nofun⟩
  | step _ _ hfresh ih => exact ih.perform hfresh

/-! ## The chain of a tenant -/

/-- A complete chain in step with its head row. -/
structure AuditLog.ChainComplete (crypto : Crypto) (log : AuditLog) (tenantID : String) : Prop where
  numbers : ∀ n, (∃ e ∈ log.tables.chainOf tenantID, e.sequence = n) ↔ 1 ≤ n ∧ n ≤ (log.tables.headOf tenantID).1
  distinct : ∀ e ∈ log.tables.chainOf tenantID, ∀ e' ∈ log.tables.chainOf tenantID,
    e.sequence = e'.sequence → e = e'
  first : ∀ e ∈ log.tables.chainOf tenantID, e.sequence = 1 → e.previousChainHash = ""
  linked : ∀ e ∈ log.tables.chainOf tenantID, ∀ e' ∈ log.tables.chainOf tenantID,
    e'.sequence = e.sequence + 1 → e'.previousChainHash = e.chainHash
  hashed : ∀ e ∈ log.tables.chainOf tenantID, e.chainHash = chainHash crypto e.previousChainHash e.eventHash
  head : ∀ e ∈ log.tables.chainOf tenantID, e.sequence = (log.tables.headOf tenantID).1 →
    (log.tables.headOf tenantID).2 = e.chainHash
  once : ∀ e ∈ log.tables.chainOf tenantID, ∀ e' ∈ log.tables.chainOf tenantID,
    e.auditEventID = e'.auditEventID → e = e'
  written : ∀ event ∈ log.written, event.tenantID = tenantID →
    ∃! e, e ∈ log.tables.chainOf tenantID ∧ e.auditEventID = event.id
  gone : ∀ e ∈ log.tables.chainOf tenantID,
    (∀ event ∈ log.tables.events, event.tenantID = tenantID → event.id ≠ e.auditEventID) → e.state = .retained

/-- Whatever the writers do, in whatever order and with whatever transactions rolled back, the chain of every
tenant is complete. -/
theorem chain_complete {start : AuditTables} {log : AuditLog} (hstart : start.Unchained)
    (h : Reached crypto start log) (tenantID : String) : log.ChainComplete crypto tenantID := by
  have hintact := (h.intact hstart).tables
  have hlinked := hintact.linked tenantID
  have hend := hintact.heads tenantID
  constructor
  case numbers =>
    intro n
    rw [hend.sequence_eq]
    constructor
    · rintro ⟨e, he, rfl⟩
      have hbounds := hlinked.bounds he
      change 1 ≤ e.sequence ∧ e.sequence < _ at hbounds
      omega
    · rintro ⟨hlow, _⟩
      exact hlinked.exists_row hlow (by omega)
  case distinct =>
    intro e he e' he' hsequence
    obtain ⟨hentry, htenant⟩ := mem_chainOf.mp he
    obtain ⟨hentry', htenant'⟩ := mem_chainOf.mp he'
    exact Table.eq_of_key_eq hentry hentry' (Prod.ext (htenant.trans htenant'.symm) hsequence)
  case first => exact fun e he hsequence ↦ hlinked.previous_of_first he hsequence
  case linked => exact fun e he e' he' hsequence ↦ hlinked.previous_eq he he' hsequence
  case hashed => exact fun e he ↦ hlinked.hash_eq he
  case head =>
    intro e he hsequence
    rw [hend.chainHash_eq]
    refine hlinked.endHash_eq he ?_
    rw [hend.sequence_eq] at hsequence
    change e.sequence + 1 = _
    omega
  case once => exact fun e he e' he' hid ↦ List.inj_on_of_nodup_map (hintact.once tenantID) he he' hid
  case written =>
    intro event hevent htenant
    obtain ⟨e, hentry, hof⟩ := chained_iff.mp ((h.intact hstart).written event hevent)
    obtain ⟨htenant', hid⟩ := isEntryOf_iff.mp hof
    have he : e ∈ log.tables.chainOf tenantID := mem_chainOf.mpr ⟨hentry, htenant'.trans htenant⟩
    refine ⟨e, ⟨he, hid⟩, fun e' he' ↦ ?_⟩
    exact List.inj_on_of_nodup_map (hintact.once tenantID) he'.1 he (he'.2.trans hid.symm)
  case gone =>
    intro e he hgone
    obtain ⟨hentry, htenant⟩ := mem_chainOf.mp he
    by_contra hstate
    obtain ⟨event, hevent, hof⟩ := hintact.present e hentry hstate
    obtain ⟨htenant', hid⟩ := isEntryOf_iff.mp hof
    exact hgone event hevent (htenant'.symm.trans htenant) hid.symm

/-! ## A run -/

/-- An environment of the tenth day with one identifier of each kind. -/
def tenthDay (token : String) : Env := ⟨10 * (24 * 60 * minute), fun _ _ ↦ token, false, fun _ _ _ ↦ none⟩

/-- One event of the first day, from before the chain. -/
def oldTables : AuditTables where
  events := ⟨[⟨"aud_old", "ten_1", "usr_1", "source.created", "source", "src_1", "", 0⟩], by decide, by decide⟩
  entries := .empty
  heads := .empty
  leases := .empty

def routeUpdated : AuditEventInput :=
  ⟨"ten_1", "usr_1", "route.updated", "route", "rte_1", "more \"room\"", Time.zero, ""⟩

/-- The transactions of a list in turn. -/
def performAll (crypto : Crypto) : List AuditOp → AuditLog → AuditLog
  | [], log => log
  | op :: rest, log => performAll crypto rest (op.perform crypto log)

/-- The identifiers of each transaction are fresh when it begins. -/
def FreshAlong (crypto : Crypto) : List AuditOp → AuditLog → Prop
  | [], _ => True
  | op :: rest, log => op.Fresh log.tables ∧ FreshAlong crypto rest (op.perform crypto log)

theorem Reached.performAll {start : AuditTables} {ops : List AuditOp}
    (h : Reached crypto start log) (hfresh : FreshAlong crypto ops log) :
    Reached crypto start (performAll crypto ops log) := by
  induction ops generalizing log with
  | nil => exact h
  | cons op _ ih => exact ih (h.step op hfresh.1) hfresh.2

/-- Something is recorded, the old event is chained, a transaction is rolled back, and a retention run deletes
the old event. -/
def mixedOps : List AuditOp :=
  [.record (tenthDay "a") [routeUpdated] true, .backfill (tenthDay "b") "wrk_1" 10 true,
    .record (tenthDay "c") [routeUpdated] false,
    .retain (tenthDay "d") .sequential "wrk_1" ⟨"ret_1", "ten_1", 1, false⟩ true]

theorem fresh_tenthDay (token : String) {db : AuditTables}
    (h : (db.entries.rows.all fun e ↦ e.auditEventID != "aud_" ++ token) = true) :
    ∀ entry ∈ db.entries, ∀ n, entry.auditEventID ≠ (tenthDay token).mustID "aud" n := by
  intro entry hentry n
  exact bne_iff_ne.mp (List.all_eq_true.mp h entry hentry)

theorem reached_mixedOps : Reached .standard oldTables (performAll .standard mixedOps ⟨oldTables, []⟩) := by
  refine Reached.start.performAll ⟨?_, trivial, ?_, ?_, trivial⟩
  · exact fresh_tenthDay "a" (by decide +kernel)
  · exact fresh_tenthDay "c" (by decide +kernel)
  · exact fresh_tenthDay "d" (by decide +kernel)

theorem chain_complete_mixed :
    ((performAll .standard mixedOps ⟨oldTables, []⟩).tables.chainOf "ten_1").map
        (fun e ↦ (e.sequence, e.source, e.state)) =
      [(1, "live", .active), (2, "backfill", .retained), (3, "live", .active)] ∧
      (performAll .standard mixedOps ⟨oldTables, []⟩).ChainComplete .standard "ten_1" :=
  ⟨by decide +kernel, chain_complete ⟨rfl, rfl, by decide⟩ reached_mixedOps "ten_1"⟩

end Webhookery.Audit

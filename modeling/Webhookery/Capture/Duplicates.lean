import Webhookery.App.Verdict
import Webhookery.Capture.Live
import Webhookery.Store.Quarantine

/-!
# Duplicates of verified and unverified requests

The dedupe key of a request does not depend on whether the request verified. The first request of
a key decides what the event of the key records, and every later one is linked to that event. This
module says exactly when that is what a later verified request, or a later unverified one, needs.
-/

namespace Webhookery.Capture

open Go Store Relational Provider App

variable {crypto : Crypto} {db₀ db : DB} {history : List Live}

/-- The input of a capture was prepared from a request to a source. -/
def Requested (crypto : Crypto) (input : CaptureInboundInput) : Prop :=
  ∃ fuel clock source version req,
    captureInput crypto fuel clock source version req = some input

/-! ## A source of signed requests -/

def hubEnv (token : String) : Env := ⟨0, fun _ _ ↦ token, false, fun _ _ _ ↦ none⟩

def hubSource : LoadedSource where
  row := newSourceRow (hubEnv "0") "t" ⟨"repository", "github", "", "key"⟩
  verificationSecret := bytesOf "key"
  verificationSecrets := [bytesOf "key"]

/-- The state after `CreateSource`. -/
def hubDB : DB :=
  match createSource (hubEnv "0") "t" ⟨"repository", "github", "", "key"⟩ DB.empty with
  | .ok (_, db) => db
  | .error _ => DB.empty

/-- The same body, signed with the secret of the source or not signed. -/
def hubRequest (crypto : Crypto) (signed : Bool) : IngestRequest where
  rawBody := bytesOf "\x7b\"id\":\"e1\"\x7d"
  headers :=
    if signed then
      [⟨"X-Hub-Signature-256", "sha256=" ++ Verifier.signHMACSHA256Hex crypto (bytesOf "key")
        (bytesOf "\x7b\"id\":\"e1\"\x7d")⟩]
    else []
  contentType := "application/json"
  remoteIP := "192.0.2.1"

/-- `Ingest` of the request, with identifiers of its own. -/
def hubIngest (crypto : Crypto) (token : String) (signed : Bool) (db : DB) :
    Option (Except StoreError (IngestResult × DB)) :=
  ingest crypto 0 ⟨0, 0⟩ (hubEnv token) (hubRequest crypto signed) "t" "src_0" db

/-- The request twice, one after the other. -/
def hubTwice (signed : Bool) : Except StoreError (List Live × DB) :=
  match captureInput checksum 0 ⟨0, 0⟩ hubSource none (hubRequest checksum signed) with
  | some input => captureAll DB.empty [] [(hubEnv "1", input), (hubEnv "2", input)]
  | none => .error .failed

theorem exists_hubTwice (signed : Bool) :
    ∃ history db, LiveRun DB.empty history db ∧ history.length = 2 ∧ ∃ input,
      Requested checksum input ∧ ∀ c ∈ history, c.input = input := by
  have hrun : ∀ signed, okWith (hubTwice signed) (fun (history, _) ↦ history.length = 2) = true := by
    decide +kernel
  obtain ⟨⟨history, db⟩, htwice, hlength⟩ := exists_of_okWith (hrun signed)
  unfold hubTwice at htwice
  split at htwice
  case h_1 input hinput =>
    refine ⟨history, db, liveRun_of_captureAll .start htwice, of_decide_eq_true hlength, input,
      ⟨_, _, _, _, _, hinput⟩, fun c hc ↦ ?_⟩
    have hmem : c.input ∈ history.map (·.input) := List.mem_map_of_mem hc
    rw [inputs_of_captureAll htwice] at hmem
    simpa using hmem
  case h_2 => cases htwice

/-! ## Verified requests -/

/-- The receipt of a call is linked to a verified event that has the envelope of the call's own
request and is routed. -/
def RoutedAsVerified (db : DB) (c : Live) : Prop :=
  ∃ r ∈ db.receipts, r.id = c.result.receiptID ∧ ∃ e ∈ db.events, e.id = r.eventID ∧
    e.verified = true ∧
    (∃ n ∈ db.normalized, n.tenantID = e.tenantID ∧ n.eventID = e.id ∧
      c.input.normalized = some n.content) ∧
    ∃ o ∈ db.outbox, o.kind = .routeEvent ∧ o.resourceID = e.id

/-- The first request of a verified request's key verified too, and has the same envelope. -/
def FirstVerified (history : List Live) (c : Live) : Prop :=
  ∀ f, creator history c.key = some f →
    f.input.verificationOK = true ∧ f.input.normalized = c.input.normalized

theorem routedAsVerified_of_firstVerified (h₀ : NoCaptures db₀) (h : LiveRun db₀ history db)
    (hc : c ∈ history) (hn : ∃ n, c.input.normalized = some n)
    (hfirst : FirstVerified history c) : RoutedAsVerified db c := by
  obtain ⟨f, hf, -, -⟩ := exists_creator hc
  obtain ⟨hverified, hsame⟩ := hfirst f hf
  obtain ⟨_, hn⟩ := hn
  obtain ⟨r, hr, hrid, -, hreventID⟩ := receipt_of_creator hf h₀ h hc
  have hrow := normalized_mem_of_creator hf h₀ h (hsame.trans hn)
  have hout := outbox_filter_of_creator hf h₀ h
  refine ⟨r, hr, hrid, captureEventRow f.env f.input, event_mem_of_creator hf h₀ h, hreventID.symm,
    hverified, ⟨_, hrow, rfl, rfl, hn⟩, _, List.mem_of_mem_filter (hout ▸ List.mem_singleton_self _),
    rfl, rfl⟩

theorem firstVerified_of_routedAsVerified (h₀ : NoCaptures db₀) (h : LiveRun db₀ history db)
    (hrequests : ∀ c ∈ history, Requested crypto c.input) (hc : c ∈ history)
    (hrouted : RoutedAsVerified db c) : FirstVerified history c := by
  intro f hf
  obtain ⟨r, hr, hrid, e, he, heid, hverified, ⟨_, hn, hntenant, hneventID, hcontent⟩, -⟩ := hrouted
  obtain ⟨r', hr', hrid', -, hreventID⟩ := receipt_of_creator hf h₀ h hc
  obtain rfl : r = r' := Table.eq_of_key_eq hr hr' (hrid.trans hrid'.symm)
  obtain rfl : e = captureEventRow f.env f.input :=
    Table.eq_of_key_eq he (event_mem_of_creator hf h₀ h) (heid.trans hreventID)
  obtain ⟨_, _, _, _, _, hinput⟩ := hrequests f (mem_of_owner hf)
  obtain ⟨_, hm⟩ := normalized_isSome_of_verificationOK hinput hverified
  have hrow := normalized_mem_of_creator hf h₀ h hm
  -- the envelope of an event is unique
  obtain rfl := Table.eq_of_index_eq hn hrow (by rw [hntenant, hneventID]; rfl) rfl
  exact ⟨hverified, hm.trans hcontent.symm⟩

/-- After any sequence of requests, every verified request that was captured is recorded and
routed as verified exactly if the first request of its key verified and has its envelope. -/
theorem verified_requests_routed_iff (h₀ : NoCaptures db₀) (h : LiveRun db₀ history db)
    (hrequests : ∀ c ∈ history, Requested crypto c.input) :
    (∀ c ∈ history, c.input.verificationOK = true → RoutedAsVerified db c) ↔
      ∀ c ∈ history, c.input.verificationOK = true → FirstVerified history c := by
  constructor
  · intro hrouted c hc hverified
    exact firstVerified_of_routedAsVerified h₀ h hrequests hc (hrouted c hc hverified)
  · intro hfirst c hc hverified
    obtain ⟨_, _, _, _, _, hinput⟩ := hrequests c hc
    have hn := normalized_isSome_of_verificationOK hinput hverified
    exact routedAsVerified_of_firstVerified h₀ h hc hn (hfirst c hc hverified)

/-- The signed request twice. -/
theorem verified_requests_routed_twice :
    ∃ history db, LiveRun DB.empty history db ∧ history.length = 2 ∧
      ∀ c ∈ history, c.input.verificationOK = true → RoutedAsVerified db c := by
  obtain ⟨history, db, hrun, hlength, _, hinput, hsame⟩ := exists_hubTwice true
  refine ⟨history, db, hrun, hlength, (verified_requests_routed_iff noCaptures_empty hrun
    fun c hc ↦ (hsame c hc).symm ▸ hinput).mpr fun c hc hverified f hf ↦ ?_⟩
  rw [hsame f (mem_of_owner hf), ← hsame c hc]
  exact ⟨hverified, rfl⟩

/-- An unsigned request first, then the signed one: the receipt of the signed request says that it
verified, and the event it is linked to is recorded as unverified. -/
theorem unsigned_request_suppresses_signed :
    ∃ first db₁ second db₂,
      hubIngest Crypto.standard "1" false hubDB = some (.ok (first, db₁)) ∧
      hubIngest Crypto.standard "2" true db₁ = some (.ok (second, db₂)) ∧
      second.dedupeStatus = .duplicateSuppressed ∧
      (∃ r ∈ db₂.receipts, r.id = second.receiptID ∧ r.verifyOK = true ∧ r.eventID = second.eventID) ∧
      ∀ e ∈ db₂.events, e.id = second.eventID → e.verified = false := by
  simp only [exists_and_left]
  decide +kernel

/-! ## Unverified requests -/

/-- Every quarantine entry is about an unverified event, so that an approval routes no event that
was routed as verified. -/
structure QuarantineUnverified (db : DB) : Prop where
  entries : ∀ q ∈ db.quarantine, ∃ e ∈ db.events,
    e.id = q.eventID ∧ e.tenantID = q.tenantID ∧ e.verified = false
  approvals : ∀ env tenantID entryID reason routeAfterRelease db',
    approveQuarantine env tenantID entryID reason routeAfterRelease db = .ok db' →
      ∀ o ∈ db'.outbox, o ∈ db.outbox ∨ ∃ e ∈ db.events, e.id = o.resourceID ∧ e.verified = false

theorem QuarantineUnverified.of_entries (h : ∀ q ∈ db.quarantine, ∃ e ∈ db.events,
      e.id = q.eventID ∧ e.tenantID = q.tenantID ∧ e.verified = false) : QuarantineUnverified db where
  entries := h
  approvals := by
    intro env tenantID entryID reason routeAfterRelease db' happrove o ho
    obtain ⟨q, hq, -, -, -, hrows, -⟩ := approveQuarantine_eq_ok happrove
    rw [Table.mem_def, hrows, List.mem_append] at ho
    refine ho.imp_right fun hnew ↦ ?_
    split at hnew
    case isTrue =>
      obtain rfl := List.mem_singleton.mp hnew
      obtain ⟨e, he, hid, -, hverified⟩ := h q hq
      exact ⟨e, he, hid, hverified⟩
    case isFalse => cases hnew

/-- The entries of the quarantine are those of the requests that did not verify. -/
theorem mem_quarantine_iff (h₀ : NoCaptures db₀) (h : LiveRun db₀ history db) :
    q ∈ db.quarantine ↔ ∃ c ∈ history, c.input.verificationOK = false ∧
      q = captureQuarantineRow c.env c.input c.result.eventID := by
  rw [Table.mem_def, (h.summarizes h₀).quarantine, List.mem_flatMap]
  constructor
  · rintro ⟨_, hentry, hq⟩
    obtain ⟨c, hc, rfl⟩ := List.mem_map.mp hentry
    refine ⟨c, hc, ?_⟩
    simp only [Entry.quarantine, Live.entry, captureWrites] at hq
    split at hq
    case isTrue => cases hq
    case isFalse hok => exact ⟨Bool.eq_false_iff.mpr hok, List.mem_singleton.mp hq⟩
  · rintro ⟨c, hc, hok, rfl⟩
    refine ⟨c.entry, List.mem_map_of_mem hc, ?_⟩
    simp [Entry.quarantine, Live.entry, captureWrites, hok]

/-- After any sequence of captures, every quarantine entry is about an unverified event exactly if
the first request of each unverified request's key did not verify either. -/
theorem quarantine_unverified_iff (h₀ : NoCaptures db₀) (h : LiveRun db₀ history db) :
    QuarantineUnverified db ↔
      ∀ c ∈ history, c.input.verificationOK = false →
        ∀ f, creator history c.key = some f → f.input.verificationOK = false := by
  constructor
  · intro hsafe c hc hok f hf
    have hq := (mem_quarantine_iff h₀ h).mpr ⟨c, hc, hok, rfl⟩
    obtain ⟨_, he, hid, -, hverified⟩ := hsafe.entries _ hq
    rwa [Table.eq_of_key_eq he (event_mem_of_creator hf h₀ h)
      (hid.trans (eventID_eq_of_creator hf h₀ h hc))] at hverified
  · intro hfirst
    apply QuarantineUnverified.of_entries
    intro q hq
    obtain ⟨c, hc, hok, rfl⟩ := (mem_quarantine_iff h₀ h).mp hq
    obtain ⟨f, hf, -, hkey⟩ := exists_creator hc
    refine ⟨captureEventRow f.env f.input, event_mem_of_creator hf h₀ h, ?_, ?_, hfirst c hc hok f hf⟩
    · exact (eventID_eq_of_creator hf h₀ h hc).symm
    · exact congrArg Prod.fst hkey

/-- The unsigned request twice. -/
theorem quarantine_unverified_twice :
    ∃ history db, LiveRun DB.empty history db ∧ history.length = 2 ∧ QuarantineUnverified db := by
  obtain ⟨history, db, hrun, hlength, _, -, hsame⟩ := exists_hubTwice false
  refine ⟨history, db, hrun, hlength, (quarantine_unverified_iff noCaptures_empty hrun).mpr
    fun c hc hok f hf ↦ ?_⟩
  rwa [hsame f (mem_of_owner hf), ← hsame c hc]

/-- The signed request first, then the unsigned one: the quarantine entry of the second is about a
verified event, and approving it routes that event again. -/
theorem unsigned_duplicate_quarantines_verified :
    ∃ first db₁ second db₂ db₃,
      hubIngest Crypto.standard "1" true hubDB = some (.ok (first, db₁)) ∧
      hubIngest Crypto.standard "2" false db₁ = some (.ok (second, db₂)) ∧
      (∃ q ∈ db₂.quarantine, ∃ e ∈ db₂.events, e.id = q.eventID ∧ e.verified = true) ∧
      approveQuarantine (hubEnv "3") "t" "qua_2" "checked" true db₂ = .ok db₃ ∧
      (db₃.outbox.rows.filter fun o ↦ o.kind = .routeEvent ∧ o.resourceID = first.eventID).length = 2 := by
  simp only [exists_and_left]
  decide +kernel

end Webhookery.Capture

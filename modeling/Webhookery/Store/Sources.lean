import Webhookery.Store.Database
import Mathlib.Data.List.Sort

/-!
# Sources and their secrets

Creating a source, rotating its secret, and what a capture reads of it: the row, the secrets that
are accepted at the time, and the active declarative adapter of its name.
-/

namespace Webhookery.Store

open Go Relational

structure CreateSourceRequest where
  (name provider adapter verificationSecret : String)

/-- The check of `ControlService.CreateSource`: only the provider `internal` needs no secret. -/
def CreateSourceRequest.accepted (req : CreateSourceRequest) : Bool :=
  !(req.provider == "" || (req.provider != "internal" && req.verificationSecret == ""))

/-- The row of a new source; the adapter defaults to the provider. -/
def newSourceRow (env : Env) (tenantID : String) (req : CreateSourceRequest) : Source where
  id := env.mustID "src" 0
  tenantID := tenantID
  name := req.name
  provider := req.provider
  adapter := if req.adapter = "" then req.provider else req.adapter
  state := .active
  secret := bytesOf req.verificationSecret

/-- A secret version that verifies from now on. -/
def activeSecretRow (env : Env) (tenantID sourceID : String) (version : Nat) (secret : Bytes) :
    SourceSecretVersion where
  id := env.mustID "ssv" 0
  tenantID := tenantID
  sourceID := sourceID
  version := version
  secret := secret
  state := .active
  expiresAt := none

def sourceAccepts (s : Source) : Bool :=
  [s.tenantID, s.name, s.provider, s.adapter].all textAccepts

def createSource (env : Env) (tenantID : String) (req : CreateSourceRequest) (db : DB) :
    Except StoreError (Source × DB) := do
  require req.accepted (.invalidInput "provider and verification_secret are required")
  let source := newSourceRow env tenantID req
  require (sourceAccepts source) .failed
  let sources ← insertRow db.sources source
  let sourceSecrets ←
    insertRow db.sourceSecrets (activeSecretRow env tenantID source.id 1 source.secret)
  return (source, { db with sources, sourceSecrets })

structure RotateSourceSecretRequest where
  newSecret : String
  gracePeriodHours : Int
  reason : String

def RotateSourceSecretRequest.accepted (req : RotateSourceSecretRequest) (sourceID : String) : Bool :=
  trimSpace sourceID != "" && trimSpace req.newSecret != "" && trimSpace req.reason != "" &&
    decide (0 ≤ req.gracePeriodHours ∧ req.gracePeriodHours ≤ 24 * 30)

def nextSecretVersion (tenantID sourceID : String) (db : DB) : Nat :=
  ((db.sourceSecrets.rows.filter fun v ↦ v.tenantID == tenantID && v.sourceID == sourceID).map
    SourceSecretVersion.version).foldl max 0 + 1

/-- The active versions of a source stay accepted until `graceUntil`. -/
def retireSecrets (tenantID sourceID : String) (graceUntil : Time) (db : DB) : DB :=
  { db with
    sourceSecrets := db.sourceSecrets.modify
      (fun v ↦
        if v.tenantID = tenantID ∧ v.sourceID = sourceID ∧ v.state = .active then
          { v with state := .previous, expiresAt := some graceUntil }
        else v)
      (fun v ↦ by split <;> rfl) (fun v ↦ by split <;> rfl) }

def setSourceSecret (tenantID sourceID : String) (secret : Bytes) (db : DB) : DB :=
  { db with
    sources := db.sources.modify
      (fun s ↦ if s.tenantID = tenantID ∧ s.id = sourceID then { s with secret } else s)
      (fun s ↦ by split <;> rfl) (fun _ ↦ rfl) }

/-- `RotateSourceSecret`: no grace period stands for 72 hours. -/
def rotateSourceSecret (env : Env) (tenantID sourceID : String) (req : RotateSourceSecretRequest)
    (db : DB) : Except StoreError DB := do
  require (req.accepted sourceID) (.invalidInput "source_id, new_secret, and reason are required")
  let _ ← selectRow db.sources fun s ↦ s.tenantID == tenantID && s.id == sourceID
  let version := nextSecretVersion tenantID sourceID db
  let hours := if req.gracePeriodHours = 0 then 72 else req.gracePeriodHours
  let db := retireSecrets tenantID sourceID (env.now + hours * 60 * minute) db
  let secret := bytesOf req.newSecret
  let sourceSecrets ← insertRow db.sourceSecrets (activeSecretRow env tenantID sourceID version secret)
  return setSourceSecret tenantID sourceID secret { db with sourceSecrets }

/-- `updateSource`: the provider, the adapter and the secret of a source never change. -/
def updateSource (tenantID sourceID : String) (name : Option String) (state : Option ConfigState)
    (db : DB) : Except StoreError DB := do
  let current ← selectRow db.sources fun s ↦ s.tenantID == tenantID && s.id == sourceID
  let name := name.getD current.name
  let state := state.getD current.state
  require (textAccepts name) .failed
  return { db with
    sources := db.sources.modify
      (fun s ↦ if s.tenantID = tenantID ∧ s.id = sourceID then { s with name, state } else s)
      (fun s ↦ by split <;> rfl) (fun _ ↦ rfl) }

/-! ## Reading a source -/

/-- Whether a secret version verifies at a time. -/
def SourceSecretVersion.accepted (now : Time) (v : SourceSecretVersion) : Bool :=
  v.state == .active || (v.state == .previous && v.expiresAt.all fun t ↦ decide (now < t))

/-- Active versions first, then newer ones. -/
def secretOrder (v w : SourceSecretVersion) : Prop :=
  (v.state = .active ∧ w.state ≠ .active) ∨
    ((v.state = .active ↔ w.state = .active) ∧ w.version ≤ v.version)

instance : DecidableRel secretOrder := fun _ _ ↦ inferInstanceAs (Decidable (_ ∨ _))

/-- `sourceVerificationSecrets`: the secret of the source itself when no version is accepted. -/
def sourceVerificationSecrets (now : Time) (source : Source) (db : DB) : List Bytes :=
  let accepted := db.sourceSecrets.rows.filter fun v ↦
    v.tenantID == source.tenantID && v.sourceID == source.id && v.accepted now
  match accepted.insertionSort secretOrder with
  | [] => [source.secret]
  | versions => versions.map SourceSecretVersion.secret

/-- A source as a capture reads it. -/
structure LoadedSource where
  row : Source
  verificationSecret : Bytes
  verificationSecrets : List Bytes
  deriving DecidableEq

def loadSource (now : Time) (p : Source → Bool) (db : DB) : Except StoreError LoadedSource := do
  let row ← selectRow db.sources p
  let secrets := sourceVerificationSecrets now row db
  return ⟨row, secrets.headD [], secrets⟩

def findSource (now : Time) (tenantID sourceID : String) : DB → Except StoreError LoadedSource :=
  loadSource now fun s ↦ s.tenantID == tenantID && s.id == sourceID

def findSourceByProviderPath (now : Time) (provider sourceID : String) : DB → Except StoreError LoadedSource :=
  loadSource now fun s ↦ s.provider == provider && s.id == sourceID

/-- The later activated version first, versions without an activation time last, then the later
created one. -/
def activatedBefore (v w : AdapterVersion) : Bool :=
  match v.activatedAt, w.activatedAt with
  | some a, some b => decide (b < a) || (a == b && decide (w.createdAt < v.createdAt))
  | some _, none => true
  | none, some _ => false
  | none, none => decide (w.createdAt < v.createdAt)

def activeDeclarativeAdapterVersion (tenantID adapterName : String) (db : DB) : Option AdapterVersion :=
  db.adapterVersions.firstBy
    (fun v ↦ v.tenantID == some tenantID && v.name == toLower (trimSpace adapterName) &&
      v.declarative && v.state == .active)
    activatedBefore

/-! ## What is read -/

theorem sourceVerificationSecrets_ne_nil (now : Time) (source : Source) (db : DB) :
    sourceVerificationSecrets now source db ≠ [] := by
  unfold sourceVerificationSecrets
  dsimp only
  split
  case h_1 => simp
  case h_2 hne => simpa using hne

theorem loadSource_eq_ok (h : loadSource now p db = .ok source) :
    source.row ∈ db.sources ∧ p source.row = true ∧
      source.verificationSecrets = sourceVerificationSecrets now source.row db := by
  obtain ⟨_, hrow, hrest⟩ := bind_eq_ok.mp h
  cases hrest
  exact ⟨(mem_of_selectRow hrow).1, (mem_of_selectRow hrow).2, rfl⟩

theorem activeDeclarativeAdapterVersion_eq_some (h : activeDeclarativeAdapterVersion tenantID name db = some v) :
    v.declarative = true ∧ v.state = .active := by
  have hv := (Table.mem_of_firstIn h).2
  simp only [Bool.and_eq_true, beq_iff_eq] at hv
  exact ⟨hv.1.2, hv.2⟩

end Webhookery.Store

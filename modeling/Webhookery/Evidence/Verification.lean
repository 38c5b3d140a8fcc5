import Webhookery.Evidence.Bundle
import Webhookery.Store.Database

/-!
# The verification of a bundle

What the reader and the loops of the verifier compute: the map holds the last data of every name of the
archive, and a bundle is valid exactly when its manifest is, every file that the manifest lists is there with
the recorded hash and size, and the chain proof, if there is one, is a run of linked entries from the first
number on.
-/

namespace Webhookery.Evidence

open Go Audit Store

variable {F : Formats} {crypto : Crypto} {files files' : FileMap} {entries : List TarEntry} {body : Bytes}
  {hashes : Option (Finmap fun _ : String ↦ String)} {listed : List ManifestFile} {manifest : Manifest}
  {manifestBytes : Bytes} {result : BundleVerification} {lines : List AuditChainEntry} {file : ManifestFile}

theorem orError_eq_ok {α : Type} {err : BundleError} {o : Option α} {a : α} : orError err o = .ok a ↔ o = some a := by
  cases o <;> simp [orError]

theorem failWhen_eq_nil {condition : Bool} {failure : String} : failWhen condition failure = [] ↔ condition = false := by
  cases condition <;> simp [failWhen]

/-! ## Reading the archive -/

/-- The data of the last regular entry with a name. -/
def lastData (name : String) (entries : List TarEntry) : Option Bytes :=
  ((entries.filter fun e ↦ e.type == .regular && e.name == name).getLast?).map TarEntry.data

theorem lastData_cons :
    lastData name (e :: entries) =
      (lastData name entries).or (if e.type = .regular ∧ e.name = name then some e.data else none) := by
  unfold lastData
  rw [List.filter_cons]
  by_cases he : e.type = .regular ∧ e.name = name
  · have hbeq : (e.type == .regular && e.name == name) = true := by simpa using he
    rw [if_pos he, if_pos hbeq, List.getLast?_cons]
    cases (entries.filter fun e ↦ e.type == .regular && e.name == name).getLast? <;> rfl
  · have hbeq : (e.type == .regular && e.name == name) = false := by simpa using he
    rw [if_neg he, if_neg (by rw [hbeq]; exact Bool.false_ne_true), Option.or_none]

/-- The map holds the last data of every name. -/
theorem lookup_of_foldlM (h : entries.foldlM addFile files = .ok files') (name : String) :
    files'.lookup name = (lastData name entries).or (files.lookup name) := by
  induction entries generalizing files with
  | nil =>
    cases h
    rfl
  | cons e _ ih =>
    obtain ⟨_, hadd, hrest⟩ := bind_eq_ok.mp h
    rw [ih hrest, lastData_cons, Option.or_assoc]
    congr 1
    unfold addFile at hadd
    split_ifs at hadd with hother hunsafe
    · cases hadd
      rw [if_neg fun hregular ↦ hother hregular.1, Option.none_or]
    · cases hadd
      have hregular : e.type = .regular := not_not.mp hother
      by_cases hname : e.name = name
      · subst hname
        rw [if_pos ⟨hregular, rfl⟩, Finmap.lookup_insert]
        rfl
      · rw [if_neg fun hboth ↦ hname hboth.2, Finmap.lookup_insert_of_ne _ (Ne.symm hname), Option.none_or]

theorem lookup_of_readTarGzipFiles (hread : F.readTarGzip body = some entries)
    (h : readTarGzipFiles F body = .ok files) (name : String) : files.lookup name = lastData name entries := by
  unfold readTarGzipFiles at h
  rw [hread] at h
  rw [lookup_of_foldlM h, Finmap.lookup_empty, Option.or_none]

/-- An archive with safe names can be read. -/
theorem exists_foldlM_addFile (hsafe : ∀ e ∈ entries, e.type = .regular → unsafeName e.name = false)
    (files : FileMap) : ∃ files', entries.foldlM addFile files = .ok files' := by
  induction entries generalizing files with
  | nil => exact ⟨files, rfl⟩
  | cons e _ ih =>
    obtain ⟨he, hrest⟩ := List.forall_mem_cons.mp hsafe
    by_cases hregular : e.type = .regular
    · obtain ⟨files', hfiles'⟩ := ih hrest (files.insert e.name e.data)
      refine ⟨files', bind_eq_ok.mpr ⟨_, ?_, hfiles'⟩⟩
      rw [addFile, if_neg (not_not.mpr hregular), he hregular, if_neg Bool.false_ne_true]
    · obtain ⟨files', hfiles'⟩ := ih hrest files
      exact ⟨files', bind_eq_ok.mpr ⟨files, if_pos hregular, hfiles'⟩⟩

theorem exists_of_lastData (h : lastData name entries = some data) :
    ∃ e ∈ entries, e.type = .regular ∧ e.name = name ∧ e.data = data := by
  obtain ⟨e, hlast, rfl⟩ := Option.map_eq_some_iff.mp h
  obtain ⟨hmem, hfilter⟩ := List.mem_filter.mp (List.mem_of_getLast? hlast)
  simp only [Bool.and_eq_true, beq_iff_eq] at hfilter
  exact ⟨e, hmem, hfilter.1, hfilter.2, rfl⟩

/-- When names are distinct, every regular entry is the last one of its name. -/
theorem lastData_eq_some (hdistinct : (entries.map TarEntry.name).Nodup) (he : e ∈ entries)
    (hregular : e.type = .regular) : lastData e.name entries = some e.data := by
  cases hlast : lastData e.name entries with
  | none =>
    rw [lastData, Option.map_eq_none_iff, List.getLast?_eq_none_iff, List.filter_eq_nil_iff] at hlast
    exact absurd (hlast e he) (by simp [hregular])
  | some =>
    obtain ⟨_, he', -, hname, rfl⟩ := exists_of_lastData hlast
    rw [List.inj_on_of_nodup_map hdistinct he' he hname]

/-! ## The loop over the manifest -/

@[simp]
theorem valid_report {failures : List String} :
    (result.report failures).valid = true ↔ result.valid = true ∧ failures = [] := by
  rw [BundleVerification.report, Bool.and_eq_true, List.isEmpty_iff]

theorem fileFailures_eq_nil :
    fileFailures crypto hashes file body = [] ↔ sha256 crypto body = file.sha256 ∧
      (body.length : Int) = file.sizeBytes ∧ (hashes.bind fun h ↦ h.lookup file.name) = some file.sha256 := by
  unfold fileFailures
  rw [List.append_eq_nil_iff, List.append_eq_nil_iff, failWhen_eq_nil, failWhen_eq_nil, bne_eq_false_iff_eq,
    bne_eq_false_iff_eq, and_assoc]
  cases hashes.bind fun h ↦ h.lookup file.name with
  | none => simp
  | some => simp [failWhen_eq_nil]

/-- A file of the manifest is there and is as recorded. -/
def FileSound (crypto : Crypto) (hashes : Option (Finmap fun _ : String ↦ String)) (files : FileMap)
    (file : ManifestFile) : Prop :=
  ∃ body, files.lookup file.name = some body ∧ fileFailures crypto hashes file body = []

theorem checkFile_of_sound (h : FileSound crypto hashes files file) :
    checkFile crypto hashes files result file = { result with checkedFiles := result.checkedFiles + 1 } := by
  obtain ⟨_, hlookup, hnil⟩ := h
  rw [checkFile, hlookup]
  simp [hnil, BundleVerification.report]

theorem valid_checkFile :
    (checkFile crypto hashes files result file).valid = true ↔
      result.valid = true ∧ FileSound crypto hashes files file := by
  unfold checkFile FileSound
  cases files.lookup file.name with
  | none => simp
  | some =>
    simp only [Option.some.injEq, exists_eq_left']
    exact valid_report

theorem valid_foldl_checkFile :
    (listed.foldl (checkFile crypto hashes files) result).valid = true ↔
      result.valid = true ∧ ∀ file ∈ listed, FileSound crypto hashes files file := by
  induction listed generalizing result with
  | nil => simp
  | cons _ _ ih => rw [List.foldl_cons, ih, valid_checkFile, List.forall_mem_cons, and_assoc]

theorem foldl_checkFile_of_sound (h : ∀ file ∈ listed, FileSound crypto hashes files file) :
    listed.foldl (checkFile crypto hashes files) result =
      { result with checkedFiles := result.checkedFiles + listed.length } := by
  induction listed generalizing result with
  | nil => rfl
  | cons _ _ ih =>
    obtain ⟨hfile, hrest⟩ := List.forall_mem_cons.mp h
    rw [List.foldl_cons, checkFile_of_sound hfile, ih hrest, List.length_cons]
    simp only [BundleVerification.mk.injEq, true_and, and_true]
    omega

/-! ## Chain proofs -/

theorem proofFailures_eq_nil {w : ProofWalk} {entry : AuditChainEntry} :
    proofFailures crypto w entry = [] ↔ (w.expectedSequence = 0 ∨ entry.sequence = w.expectedSequence) ∧
      entry.previousChainHash = previousHashForSequence entry.sequence w.previous ∧
      entry.chainHash = chainHash crypto entry.previousChainHash entry.eventHash := by
  unfold proofFailures
  simp only [List.append_eq_nil_iff, failWhen_eq_nil, bne_eq_false_iff_eq, and_assoc]
  refine and_congr ?_ (and_congr_right' eq_comm)
  split
  case isTrue hzero => simp [hzero]
  case isFalse hne => simp [hne]

theorem failures_eq_nil_of_foldl (h : (lines.foldl (checkProofEntry crypto) w).failures = []) : w.failures = [] := by
  induction lines generalizing w with
  | nil => exact h
  | cons _ _ ih => exact (List.append_eq_nil_iff.mp (ih h)).1

/-- A walk that has begun finds nothing wrong exactly when the entries go on with the chain. -/
theorem walk_failures_eq_nil (hbegun : 1 < w.expectedSequence) :
    (lines.foldl (checkProofEntry crypto) w).failures = [] ↔
      w.failures = [] ∧ (links crypto).Linked w.expectedSequence w.previous lines := by
  induction lines generalizing w with
  | nil => simp [Relational.Links.Linked]
  | cons entry _ ih =>
    have hfailures : (checkProofEntry crypto w entry).failures = w.failures ++ proofFailures crypto w entry := rfl
    have hprevious (hsequence : entry.sequence = w.expectedSequence) :
        previousHashForSequence entry.sequence w.previous = w.previous := if_neg (by omega)
    rw [List.foldl_cons]
    constructor
    · intro h
      have hhead := failures_eq_nil_of_foldl h
      rw [hfailures, List.append_eq_nil_iff, proofFailures_eq_nil] at hhead
      obtain ⟨hnil, hexpected, hprev, hhash⟩ := hhead
      have hsequence : entry.sequence = w.expectedSequence := hexpected.resolve_left (by omega)
      rw [hprevious hsequence] at hprev
      have hnext : 1 < (checkProofEntry crypto w entry).expectedSequence := by
        change 1 < entry.sequence + 1
        omega
      refine ⟨hnil, hsequence, hprev, hprev ▸ hhash, ?_⟩
      rw [← hsequence]
      exact ((ih hnext).mp h).2
    · rintro ⟨hnil, hsequence, hprev, hhash, hrest⟩
      have hsequence : entry.sequence = w.expectedSequence := hsequence
      have hprev : entry.previousChainHash = w.previous := hprev
      have hnext : 1 < (checkProofEntry crypto w entry).expectedSequence := by
        change 1 < entry.sequence + 1
        omega
      rw [ih hnext, hfailures, List.append_eq_nil_iff, proofFailures_eq_nil, hprevious hsequence]
      refine ⟨⟨hnil, .inr hsequence, hprev, hprev ▸ hhash⟩, ?_⟩
      rw [← hsequence] at hrest
      exact hrest

/-- A proof passes exactly when its entries are linked from the first of them, with no hash before it. -/
theorem verifyAuditChainProof_failures_eq_nil (hpos : ∀ e ∈ lines.head?, 1 ≤ e.sequence) :
    (verifyAuditChainProof crypto lines).failures = [] ↔ ∃ n, (links crypto).Linked n "" lines := by
  cases lines with
  | nil => exact iff_of_true rfl ⟨0, trivial⟩
  | cons entry =>
    have hfirst : 1 ≤ entry.sequence := hpos entry rfl
    have hprevious : previousHashForSequence entry.sequence "" = "" := by
      unfold previousHashForSequence
      split <;> rfl
    have hnext : 1 < (checkProofEntry crypto ⟨[], "", 0, 0⟩ entry).expectedSequence := by
      change 1 < entry.sequence + 1
      omega
    have hfailures : (checkProofEntry crypto ⟨[], "", 0, 0⟩ entry).failures =
        proofFailures crypto ⟨[], "", 0, 0⟩ entry := List.nil_append _
    rw [verifyAuditChainProof, List.foldl_cons, walk_failures_eq_nil hnext, hfailures, proofFailures_eq_nil, hprevious]
    constructor
    · rintro ⟨⟨-, hprev, hhash⟩, hrest⟩
      exact ⟨entry.sequence, rfl, hprev, hprev ▸ hhash, hrest⟩
    · rintro ⟨n, rfl, hprev, hhash, hrest⟩
      have hprev : entry.previousChainHash = "" := hprev
      exact ⟨⟨.inl rfl, hprev, hprev ▸ hhash⟩, hrest⟩

/-- Linked entries with consecutive positive numbers, of which the first entry of all has no hash before it. -/
def ProofChain (crypto : Crypto) (lines : List AuditChainEntry) : Prop :=
  ∃ n start, 1 ≤ n ∧ (n = 1 → start = "") ∧ (links crypto).Linked n start lines

/-- An entry with a number and the hash before it. -/
def proofLine (sequence : Int) (previous : String) : AuditChainEntry :=
  ⟨"", "", sequence, "", "", previous, chainHash .standard previous "", "", "", .active, none, "", 0⟩

def secondLine : AuditChainEntry := proofLine 2 (proofLine 1 "").chainHash

/-- A valid result has a manifest, and every file it lists is as recorded. -/
theorem exists_manifest_of_valid (h : verifyTarGzipFiles F crypto files = .ok result) (hvalid : result.valid = true) :
    ∃ manifestBytes manifest, files.lookup "manifest.json" = some manifestBytes ∧
      F.unmarshal manifestBytes = some manifest ∧ validateManifest manifest = [] ∧
      ∀ file ∈ manifest.files, FileSound crypto manifest.hashes files file := by
  unfold verifyTarGzipFiles at h
  split at h
  case h_1 =>
    cases h
    exact absurd hvalid Bool.false_ne_true
  case h_2 manifestBytes hlookup =>
    obtain ⟨manifest, hmanifest, h⟩ := bind_eq_ok.mp h
    have hfiles : (verifyFiles crypto manifestBytes manifest files).valid = true := by
      split at h
      case h_1 =>
        cases h
        exact hvalid
      case h_2 =>
        obtain ⟨_, -, h⟩ := bind_eq_ok.mp h
        cases h
        exact (valid_report.mp hvalid).1
    obtain ⟨hstart, hlisted⟩ := valid_foldl_checkFile.mp hfiles
    exact ⟨manifestBytes, manifest, hlookup, orError_eq_ok.mp hmanifest, (valid_report.mp hstart).2, hlisted⟩

/-- The chain proof of some files, if there is one, can be read and has no failures. -/
def ProofClean (F : Formats) (crypto : Crypto) (files : FileMap) : Prop :=
  ∀ proof, files.lookup "audit_chain_proof.jsonl" = some proof →
    ∃ lines, F.decodeLines proof = some lines ∧ (verifyAuditChainProof crypto lines).failures = []

theorem proofClean_of_valid (h : verifyTarGzipFiles F crypto files = .ok result) (hvalid : result.valid = true) :
    ProofClean F crypto files := by
  intro proof hproof
  unfold verifyTarGzipFiles at h
  split at h
  case h_1 =>
    cases h
    exact absurd hvalid Bool.false_ne_true
  case h_2 =>
    obtain ⟨_, -, h⟩ := bind_eq_ok.mp h
    rw [hproof] at h
    obtain ⟨lines, hlines, h⟩ := bind_eq_ok.mp h
    cases h
    exact ⟨lines, orError_eq_ok.mp hlines, (valid_report.mp hvalid).2⟩

/-- A bundle with a valid manifest whose files are as recorded, and with a chain proof that passes, is valid. -/
theorem verifyTarGzipFiles_of_sound (hmanifest : files.lookup "manifest.json" = some manifestBytes)
    (hunmarshal : F.unmarshal manifestBytes = some manifest) (hvalidate : validateManifest manifest = [])
    (hlisted : ∀ file ∈ manifest.files, FileSound crypto manifest.hashes files file)
    (hproof : ProofClean F crypto files) :
    ∃ result, verifyTarGzipFiles F crypto files = .ok result ∧ result.valid = true ∧ result.failures = [] ∧
      result.checkedFiles = manifest.files.length := by
  have hfiles : verifyFiles crypto manifestBytes manifest files =
      ⟨true, sha256 crypto manifestBytes, manifest.files.length, 0, []⟩ := by
    simp [verifyFiles, foldl_checkFile_of_sound hlisted, hvalidate, BundleVerification.report]
  unfold verifyTarGzipFiles
  rw [hmanifest]
  cases hlookup : files.lookup "audit_chain_proof.jsonl" with
  | none =>
    dsimp only
    rw [hunmarshal]
    refine ⟨_, rfl, ?_⟩
    rw [hfiles]
    exact ⟨rfl, rfl, rfl⟩
  | some proof =>
    obtain ⟨_, hlines, hnil⟩ := hproof proof hlookup
    dsimp only
    rw [hunmarshal, hlines]
    refine ⟨_, rfl, ?_⟩
    rw [hfiles, hnil]
    exact ⟨rfl, rfl, rfl⟩

end Webhookery.Evidence

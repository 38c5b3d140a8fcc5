import Webhookery.Evidence.Formats
import Webhookery.Evidence.Verification

/-!
# Bundles that are built verify

The manifest of a bundle lists the files that are written next to it, so the verifier finds each of them with
its hash and size. The caller's manifest decides the schema version, and a name with a slash at its end is
written as a directory, which the verifier does not read.
-/

namespace Webhookery.Evidence

open Go Audit Store

variable {F : Formats} {crypto : Crypto} {now : Time} {manifest : Manifest} {files : FileMap} {bundle : Bundle}
  {name : String}

/-! ## The manifest of a bundle -/

theorem lookup_foldl_insert {listed : List ManifestFile} {hashes : Finmap fun _ : String ↦ String}
    (h : ∀ file ∈ listed, file.name ≠ name) :
    (listed.foldl (fun hashes file ↦ hashes.insert file.name file.sha256) hashes).lookup name = hashes.lookup name := by
  induction listed generalizing hashes with
  | nil => rfl
  | cons _ _ ih =>
    obtain ⟨hfile, hrest⟩ := List.forall_mem_cons.mp h
    rw [List.foldl_cons, ih hrest, Finmap.lookup_insert_of_ne _ hfile.symm]

/-- Files with distinct names have their hashes in the map. -/
theorem lookup_hashesOf {listed : List ManifestFile} (hdistinct : (listed.map ManifestFile.name).Nodup)
    {file : ManifestFile} (hfile : file ∈ listed) : (hashesOf listed).lookup file.name = some file.sha256 := by
  obtain ⟨_, after, rfl⟩ := List.append_of_mem hfile
  rw [List.map_append, List.map_cons, List.nodup_append, List.nodup_cons] at hdistinct
  have hafter : ∀ other ∈ after, other.name ≠ file.name := fun other hother hname ↦
    hdistinct.2.1.1 (hname ▸ List.mem_map_of_mem hother)
  rw [hashesOf, List.foldl_append, List.foldl_cons, lookup_foldl_insert hafter, Finmap.lookup_insert]

/-- What the verifier asks of a manifest. -/
theorem validateManifest_eq_nil :
    validateManifest manifest = [] ↔ manifest.schemaVersion = manifestSchemaV1 ∧ manifest.bundleID ≠ "" ∧
      manifest.tenantIDHash ≠ "" ∧ manifest.nonClaims ≠ [] ∧ manifest.redactionPolicy ≠ .zero ∧
      manifest.hashes ≠ none := by
  simp [validateManifest, failWhen_eq_nil, Option.isNone_eq_false_iff, Option.isSome_iff_ne_none]

theorem validateManifest_normalize (htenant : manifest.tenantID ≠ "")
    (hid : manifest.exportID ≠ "" ∨ manifest.bundleID ≠ "")
    (hschema : manifest.schemaVersion = "" ∨ manifest.schemaVersion = manifestSchemaV1) :
    validateManifest (normalizeManifest crypto now manifest).serialized = [] := by
  refine validateManifest_eq_nil.mpr ⟨?_, ?_, ?_, ?_, ?_, Option.some_ne_none _⟩
  · change (if _ then _ else _) = _
    split
    · rfl
    · exact hschema.resolve_left ‹_›
  · change (if _ then _ else _) ≠ _
    split
    case isTrue hbundle => exact hid.resolve_right (not_not.mpr hbundle)
    case isFalse hbundle => exact hbundle
  · change (if _ then _ else _) ≠ _
    split
    · exact hash_ne_empty _
    case isFalse hnot => exact fun hempty ↦ hnot ⟨hempty, htenant⟩
  · change (if _ then _ else _) ≠ _
    split
    · decide
    · assumption
  · change (if _ then _ else _) ≠ _
    split
    · intro h
      have htext : "tenant identifiers are represented by tenant_id_hash" = "" :=
        congrArg ManifestRedactionPolicy.tenantIdentifiers h
      exact absurd htext (by decide)
    · assumption

theorem names_bundleManifest :
    (bundleManifest crypto now manifest files).files = files.names.map (manifestFile crypto files) := rfl

theorem mem_names : name ∈ files.names ↔ name ∈ files := by
  rw [FileMap.names, sorted, Finset.mem_sort, Finmap.mem_keys]

theorem nodup_names : files.names.Nodup := Finset.sort_nodup _ _

theorem lookup_of_mem_names (h : name ∈ files.names) : files.lookup name = some (files.read name) := by
  obtain ⟨_, hdata⟩ := Finmap.mem_iff.mp (mem_names.mp h)
  rw [FileMap.read, hdata]
  rfl

/-! ## The archive of a bundle -/

/-- The entry of a file. -/
def fileEntry (files : FileMap) (name : String) : TarEntry := ⟨name, .regular, files.read name⟩

/-- A name that the writer takes for that of a file. -/
structure FileName (name : String) : Prop where
  nonempty : name ≠ ""
  file : name.toList.getLast? ≠ some '/'

theorem mapM_writeTarFile {names : List String} (h : ∀ name ∈ names, FileName name) :
    names.mapM (fun name ↦ writeTarFile name (files.read name)) = .ok (names.map (fileEntry files)) := by
  induction names with
  | nil => rfl
  | cons _ _ ih =>
    obtain ⟨hname, hrest⟩ := List.forall_mem_cons.mp h
    rw [List.mapM_cons, writeTarFile, if_neg hname.nonempty, if_neg hname.file, ih hrest]
    rfl

/-- What a bundle holds: the manifest, and then the files in the order of their names. -/
structure Built (F : Formats) (crypto : Crypto) (now : Time) (manifest : Manifest) (files : FileMap)
    (bundle : Bundle) (rest : List TarEntry) : Prop where
  unmarshal : F.unmarshal bundle.manifest = some (bundleManifest crypto now manifest files).serialized
  entries : files.names.mapM (fun name ↦ writeTarFile name (files.read name)) = .ok rest
  read : F.readTarGzip bundle.bytes = some (⟨"manifest.json", .regular, bundle.manifest⟩ :: rest)

theorem built_of_eq_ok (hF : F.RoundTrips) (h : buildTarGzipBundle F crypto now manifest files = .ok bundle) :
    ∃ rest, Built F crypto now manifest files bundle rest := by
  obtain ⟨_, hmarshal, h⟩ := bind_eq_ok.mp h
  obtain ⟨_, hfirst, h⟩ := bind_eq_ok.mp h
  obtain ⟨rest, hrest, h⟩ := bind_eq_ok.mp h
  obtain ⟨_, hbytes, h⟩ := bind_eq_ok.mp h
  cases h
  cases hfirst
  exact ⟨rest, hF.manifest (orError_eq_ok.mp hmarshal), hrest, hF.archive (orError_eq_ok.mp hbytes)⟩

/-- With formats that refuse nothing, a bundle is built when its entries are. -/
theorem exists_bundle
    (hrest : files.names.mapM (fun name ↦ writeTarFile name (files.read name)) = .ok rest) :
    ∃ bundle, buildTarGzipBundle jsonFormats crypto now manifest files = .ok bundle :=
  ⟨_, bind_eq_ok.mpr ⟨_, rfl, bind_eq_ok.mpr ⟨_, rfl, bind_eq_ok.mpr ⟨rest, hrest, bind_eq_ok.mpr ⟨_, rfl, rfl⟩⟩⟩⟩⟩

/-! ## The round trip -/

/-- A name that may stand in a bundle. -/
structure BundleName (name : String) : Prop extends FileName name where
  other : name ≠ "manifest.json"
  relative : hasPrefix name "/" = false
  inside : contains name ".." = false

instance : DecidablePred BundleName := fun name ↦
  decidable_of_iff ((name ≠ "" ∧ name.toList.getLast? ≠ some '/') ∧ name ≠ "manifest.json" ∧
      hasPrefix name "/" = false ∧ contains name ".." = false)
    ⟨fun h ↦ ⟨⟨h.1.1, h.1.2⟩, h.2.1, h.2.2.1, h.2.2.2⟩, fun h ↦ ⟨⟨h.nonempty, h.file⟩, h.other, h.relative, h.inside⟩⟩

section Archive

variable (hnames : ∀ name ∈ files.names, BundleName name) (manifestBytes : Bytes)

/-- The archive of a bundle with good names. -/
def archiveOf (files : FileMap) (manifestBytes : Bytes) : List TarEntry :=
  ⟨"manifest.json", .regular, manifestBytes⟩ :: files.names.map (fileEntry files)

include hnames

theorem distinct_archiveOf : ((archiveOf files manifestBytes).map TarEntry.name).Nodup := by
  have hmap : (files.names.map (fileEntry files)).map TarEntry.name = files.names := by
    rw [List.map_map]
    exact List.map_id _
  rw [archiveOf, List.map_cons, hmap, List.nodup_cons]
  exact ⟨fun hmem ↦ (hnames _ hmem).other rfl, nodup_names⟩

/-- A file other than the manifest is read back as it was given. -/
theorem lastData_archiveOf (hname : name ≠ "manifest.json") :
    lastData name (archiveOf files manifestBytes) = files.lookup name := by
  by_cases hmem : name ∈ files.names
  · rw [lookup_of_mem_names hmem]
    exact lastData_eq_some (e := fileEntry files name) (distinct_archiveOf hnames manifestBytes)
      (List.mem_cons_of_mem _ (List.mem_map_of_mem hmem)) rfl
  · rw [Finmap.lookup_eq_none.mpr fun h ↦ hmem (mem_names.mpr h), Option.eq_none_iff_forall_ne_some]
    intro data hdata
    obtain ⟨_, he, -, rfl, -⟩ := exists_of_lastData hdata
    rcases List.mem_cons.mp he with rfl | he
    · exact hname rfl
    · obtain ⟨_, hother, rfl⟩ := List.mem_map.mp he
      exact hmem hother

theorem safe_archiveOf : ∀ e ∈ archiveOf files manifestBytes, e.type = .regular → unsafeName e.name = false := by
  have hmanifest : unsafeName "manifest.json" = false := by decide
  refine List.forall_mem_cons.mpr ⟨fun _ ↦ hmanifest, fun e he _ ↦ ?_⟩
  obtain ⟨name, hname, rfl⟩ := List.mem_map.mp he
  obtain ⟨hfile, -, hrelative, hinside⟩ := hnames name hname
  change (name == "" || hasPrefix name "/" || contains name "..") = false
  rw [hrelative, hinside, beq_false_of_ne hfile.nonempty]
  rfl

end Archive

/-- The files that the verifier reads from an archive have the manifest of some files, these files, and no other
chain proof. -/
structure ReadBack (F : Formats) (crypto : Crypto) (now : Time) (manifest : Manifest) (files : FileMap)
    (body : Bytes) (files' : FileMap) : Prop where
  read : readTarGzipFiles F body = .ok files'
  manifest : ∃ manifestBytes, files'.lookup "manifest.json" = some manifestBytes ∧
    F.unmarshal manifestBytes = some (bundleManifest crypto now manifest files).serialized
  listed : ∀ name ∈ files.names, files'.lookup name = files.lookup name
  proof : files'.lookup "audit_chain_proof.jsonl" = files.lookup "audit_chain_proof.jsonl"

/-- It is enough that the last entries of the archive are these. -/
theorem exists_readBack_of_archive (hread : F.readTarGzip body = some entries)
    (hsafe : ∀ e ∈ entries, e.type = .regular → unsafeName e.name = false)
    (hmanifest : lastData "manifest.json" entries = some manifestBytes)
    (hunmarshal : F.unmarshal manifestBytes = some (bundleManifest crypto now manifest files).serialized)
    (hlisted : ∀ name ∈ files.names, lastData name entries = files.lookup name)
    (hproof : lastData "audit_chain_proof.jsonl" entries = files.lookup "audit_chain_proof.jsonl") :
    ∃ files', ReadBack F crypto now manifest files body files' := by
  obtain ⟨files', hfiles'⟩ := exists_foldlM_addFile hsafe ∅
  have hfiles : readTarGzipFiles F body = .ok files' := bind_eq_ok.mpr ⟨_, orError_eq_ok.mpr hread, hfiles'⟩
  have hlookup := lookup_of_readTarGzipFiles hread hfiles
  exact ⟨files', hfiles, ⟨manifestBytes, (hlookup _).trans hmanifest, hunmarshal⟩,
    fun name hname ↦ (hlookup name).trans (hlisted name hname), (hlookup _).trans hproof⟩

/-- A bundle whose files have good names is read back. -/
theorem exists_readBack (hF : F.RoundTrips) (hnames : ∀ name ∈ files.names, BundleName name)
    (h : buildTarGzipBundle F crypto now manifest files = .ok bundle) :
    ∃ files', ReadBack F crypto now manifest files bundle.bytes files' := by
  obtain ⟨_, hbuilt⟩ := built_of_eq_ok hF h
  have hentries := @mapM_writeTarFile files _ fun name hname ↦ (hnames name hname).toFileName
  obtain rfl := Except.ok.inj (hbuilt.entries.symm.trans hentries)
  refine exists_readBack_of_archive hbuilt.read (safe_archiveOf hnames bundle.manifest) ?_ hbuilt.unmarshal ?_ ?_
  · exact lastData_eq_some (distinct_archiveOf hnames bundle.manifest) List.mem_cons_self rfl
  · exact fun name hname ↦ lastData_archiveOf hnames bundle.manifest (hnames name hname).other
  · exact lastData_archiveOf hnames bundle.manifest (by decide)

section ReadBack

variable {body : Bytes} {files' : FileMap} (hback : ReadBack F crypto now manifest files body files')

include hback

theorem ReadBack.proofClean_iff : ProofClean F crypto files' ↔ ProofClean F crypto files := by
  unfold ProofClean
  rw [hback.proof]

/-- Every file of the manifest is as recorded. -/
theorem ReadBack.fileSound :
    ∀ file ∈ (bundleManifest crypto now manifest files).files,
      FileSound crypto (bundleManifest crypto now manifest files).hashes files' file := by
  have hdistinct : ((bundleManifest crypto now manifest files).files.map ManifestFile.name).Nodup := by
    rw [names_bundleManifest, List.map_map]
    exact (List.map_id files.names).symm ▸ nodup_names
  intro file hfile
  have hhash := lookup_hashesOf hdistinct hfile
  obtain ⟨name, hname, rfl⟩ := List.mem_map.mp hfile
  refine ⟨files.read name, ?_, fileFailures_eq_nil.mpr ⟨rfl, rfl, hhash⟩⟩
  exact (hback.listed name hname).trans (lookup_of_mem_names hname)

end ReadBack

/-- What the manifest and the files of a bundle have to satisfy for it to be read back as it was given. -/
structure Bundleable (manifest : Manifest) (files : FileMap) : Prop where
  tenant : manifest.tenantID ≠ ""
  id : manifest.exportID ≠ "" ∨ manifest.bundleID ≠ ""
  schema : manifest.schemaVersion = "" ∨ manifest.schemaVersion = manifestSchemaV1
  names : ∀ name ∈ files.names, BundleName name

/-- What is read back is valid when its chain proof is clean. -/
theorem ReadBack.valid (hback : ReadBack F crypto now manifest files body files')
    (hok : Bundleable manifest files) (hproof : ProofClean F crypto files) :
    ∃ result, verifyTarGzipBundle F crypto body = .ok result ∧ result.valid = true ∧ result.failures = [] ∧
      result.checkedFiles = files.keys.card := by
  obtain ⟨_, hmanifest, hunmarshal⟩ := hback.manifest
  obtain ⟨result, hresult, hvalid, hfailures, hchecked⟩ := verifyTarGzipFiles_of_sound hmanifest hunmarshal
    (validateManifest_normalize hok.tenant hok.id hok.schema) hback.fileSound (hback.proofClean_iff.mpr hproof)
  refine ⟨result, bind_eq_ok.mpr ⟨files', hback.read, hresult⟩, hvalid, hfailures, ?_⟩
  rw [hchecked]
  exact (List.length_map _).trans (Finset.length_sort _)

/-- The chain proof decides whether a bundle is valid. -/
theorem valid_iff_proofClean (hF : F.RoundTrips) (hok : Bundleable manifest files)
    (h : buildTarGzipBundle F crypto now manifest files = .ok bundle) :
    (∃ result, verifyTarGzipBundle F crypto bundle.bytes = .ok result ∧ result.valid = true) ↔
      ProofClean F crypto files := by
  obtain ⟨_, hback⟩ := exists_readBack hF hok.names h
  constructor
  · rintro ⟨_, hresult, hvalid⟩
    obtain ⟨_, hread, hresult⟩ := bind_eq_ok.mp hresult
    obtain rfl := Except.ok.inj (hread.symm.trans hback.read)
    exact hback.proofClean_iff.mp (proofClean_of_valid hresult hvalid)
  · intro hproof
    obtain ⟨result, hresult, hvalid, -⟩ := hback.valid hok hproof
    exact ⟨result, hresult, hvalid⟩

/-- The chain proof of some files, if there is one, is a run of linked entries from the first number on. -/
def ProofLinked (F : Formats) (crypto : Crypto) (files : FileMap) : Prop :=
  ∀ proof, files.lookup "audit_chain_proof.jsonl" = some proof →
    ∃ lines, F.jsonLines lines = some proof ∧ (links crypto).Linked 1 "" lines

/-- The proof of some files is clean exactly when the entries it was written from are linked. -/
theorem proofClean_iff_linked (hF : F.RoundTrips)
    (hlookup : files.lookup "audit_chain_proof.jsonl" = some proof) (hlines : F.jsonLines lines = some proof)
    (hpos : ∀ e ∈ lines, 1 ≤ e.sequence) : ProofClean F crypto files ↔ ∃ n, (links crypto).Linked n "" lines := by
  rw [← verifyAuditChainProof_failures_eq_nil fun e he ↦ hpos e (List.mem_of_mem_head? he)]
  constructor
  · intro hclean
    obtain ⟨_, hread, hnil⟩ := hclean proof hlookup
    obtain rfl := Option.some.inj (hread.symm.trans (hF.lines hlines))
    exact hnil
  · intro hnil other hother
    obtain rfl := Option.some.inj (hlookup.symm.trans hother)
    exact ⟨lines, hF.lines hlines, hnil⟩

/-- The verifier finds nothing wrong with a bundle that was built from a manifest of its version and from files
that are no directories. -/
theorem built_bundle_valid (hF : F.RoundTrips) (hok : Bundleable manifest files) (hproof : ProofLinked F crypto files)
    (h : buildTarGzipBundle F crypto now manifest files = .ok bundle) :
    ∃ result, verifyTarGzipBundle F crypto bundle.bytes = .ok result ∧ result.valid = true ∧
      result.failures = [] ∧ result.checkedFiles = files.keys.card := by
  obtain ⟨_, hback⟩ := exists_readBack hF hok.names h
  refine hback.valid hok fun proof hlookup ↦ ?_
  obtain ⟨lines, hlines, hlinked⟩ := hproof proof hlookup
  have hpos : ∀ e ∈ lines, 1 ≤ e.sequence := fun e he ↦ (hlinked.bounds he).1
  exact (proofClean_iff_linked hF hlookup hlines hpos).mpr ⟨1, hlinked⟩ proof hlookup

/-- A manifest with nothing but identifiers. -/
def plainManifest (schemaVersion : String) : Manifest where
  schemaVersion := schemaVersion
  generatedAt := Time.zero
  tenantIDHash := ""
  bundleID := ""
  exportID := "exp_1"
  tenantID := "ten_1"
  createdAt := 0
  fromTime := none
  toTime := none
  includedEvents := ["evt_1"]
  includedIncidents := []
  hashes := none
  includeRawPayloads := false
  includeTimelines := false
  includePayloadBodies := false
  redactionPolicy := .zero
  auditChain := none
  nonClaims := []
  files := []

/-- One file. -/
def oneFile (name : String) (data : Bytes) : FileMap := Finmap.singleton name data

theorem names_oneFile (name : String) (data : Bytes) : (oneFile name data).names = [name] := by
  rw [FileMap.names, sorted, oneFile, Finmap.keys_singleton, Finset.sort_singleton]

theorem bundleName_of_mem_oneFile (h : BundleName name) : ∀ other ∈ (oneFile name data).names, BundleName other := by
  intro other hother
  rw [names_oneFile, List.mem_singleton] at hother
  exact hother ▸ h

/-- The entry of the first event of a tenant. -/
def firstLine : AuditChainEntry :=
  computeEntry .standard "ach_1" ⟨"aud_1", "ten_1", "usr_1", "source.created", "source", "src_1", "", 0⟩ 1 "" "write" 0

theorem built_bundle_valid_one :
    ∃ (proof : Bytes) (bundle : Bundle), jsonFormats.jsonLines [firstLine] = some proof ∧
      buildTarGzipBundle jsonFormats .standard 0 (plainManifest "") (oneFile "audit_chain_proof.jsonl" proof) =
        .ok bundle ∧
      ∃ result, verifyTarGzipBundle jsonFormats .standard bundle.bytes = .ok result ∧ result.valid = true ∧
        result.failures = [] ∧ result.checkedFiles = (oneFile "audit_chain_proof.jsonl" proof).keys.card := by
  obtain ⟨proof, hproof⟩ : ∃ proof, jsonFormats.jsonLines [firstLine] = some proof := ⟨_, rfl⟩
  have hname : BundleName "audit_chain_proof.jsonl" := by decide
  have hok : Bundleable (plainManifest "") (oneFile "audit_chain_proof.jsonl" proof) :=
    ⟨by decide, .inl (by decide), .inl rfl, bundleName_of_mem_oneFile hname⟩
  have hlinked : ProofLinked jsonFormats .standard (oneFile "audit_chain_proof.jsonl" proof) := by
    intro other hother
    rw [oneFile, Finmap.lookup_singleton_eq, Option.some.injEq] at hother
    exact ⟨[firstLine], hother ▸ hproof, rfl, rfl, rfl, trivial⟩
  obtain ⟨bundle, hbundle⟩ := exists_bundle (mapM_writeTarFile fun name hname ↦ (hok.names name hname).toFileName)
  exact ⟨proof, bundle, hproof, hbundle, built_bundle_valid roundTrips_jsonFormats hok hlinked hbundle⟩

/-! ## What is not read back -/

/-- The manifest of a valid bundle passes the verifier's checks. -/
theorem validateManifest_of_valid (hF : F.RoundTrips) (hnames : ∀ name ∈ files.names, BundleName name)
    (h : buildTarGzipBundle F crypto now manifest files = .ok bundle)
    (hvalid : ∃ result, verifyTarGzipBundle F crypto bundle.bytes = .ok result ∧ result.valid = true) :
    validateManifest (bundleManifest crypto now manifest files).serialized = [] := by
  obtain ⟨_, hresult, hvalid⟩ := hvalid
  obtain ⟨_, hback⟩ := exists_readBack hF hnames h
  obtain ⟨_, hread, hresult⟩ := bind_eq_ok.mp hresult
  obtain rfl := Except.ok.inj (hread.symm.trans hback.read)
  obtain ⟨_, _, hmanifest, hunmarshal, hvalidate, -⟩ := exists_manifest_of_valid hresult hvalid
  obtain ⟨_, hbytes, hread⟩ := hback.manifest
  obtain rfl := Option.some.inj (hbytes.symm.trans hmanifest)
  obtain rfl := Option.some.inj (hread.symm.trans hunmarshal)
  exact hvalidate

/-- A version that the caller chose is not the verifier's. -/
theorem not_valid_of_schema (hF : F.RoundTrips) (hnames : ∀ name ∈ files.names, BundleName name)
    (hne : manifest.schemaVersion ≠ "") (hv1 : manifest.schemaVersion ≠ manifestSchemaV1)
    (h : buildTarGzipBundle F crypto now manifest files = .ok bundle) :
    ¬∃ result, verifyTarGzipBundle F crypto bundle.bytes = .ok result ∧ result.valid = true := by
  intro hvalid
  have hvalidate := validateManifest_of_valid hF hnames h hvalid
  have hversion : (if manifest.schemaVersion = "" then manifestSchemaV1 else manifest.schemaVersion) = manifestSchemaV1 :=
    (validateManifest_eq_nil.mp hvalidate).1
  rw [if_neg hne] at hversion
  exact hv1 hversion

theorem mapM_writeTarFile_directory :
    (oneFile "exports/" []).names.mapM (fun name ↦ writeTarFile name ((oneFile "exports/" []).read name)) =
      .ok [⟨"exports/", .directory, []⟩] := by
  rw [names_oneFile, List.mapM_cons, FileMap.read, oneFile, Finmap.lookup_singleton_eq]
  rfl

/-- A directory is not among the files that are read. -/
theorem not_valid_of_directory (hF : F.RoundTrips)
    (h : buildTarGzipBundle F crypto now manifest (oneFile "exports/" []) = .ok bundle) :
    ¬∃ result, verifyTarGzipBundle F crypto bundle.bytes = .ok result ∧ result.valid = true := by
  rintro ⟨_, hresult, hvalid⟩
  obtain ⟨_, hbuilt⟩ := built_of_eq_ok hF h
  obtain rfl := Except.ok.inj (hbuilt.entries.symm.trans mapM_writeTarFile_directory)
  obtain ⟨_, hread, hresult⟩ := bind_eq_ok.mp hresult
  have hlookup := lookup_of_readTarGzipFiles hbuilt.read hread
  obtain ⟨manifestBytes, _, hmanifest, hunmarshal, -, hsound⟩ := exists_manifest_of_valid hresult hvalid
  rw [hlookup] at hmanifest
  obtain rfl : bundle.manifest = manifestBytes := Option.some.inj hmanifest
  obtain rfl := Option.some.inj (hunmarshal.symm.trans hbuilt.unmarshal)
  have hlisted : manifestFile crypto (oneFile "exports/" []) "exports/" ∈
      (bundleManifest crypto now manifest (oneFile "exports/" [])).files := by
    rw [names_bundleManifest, names_oneFile]
    exact List.mem_singleton_self _
  obtain ⟨_, hbody, -⟩ := hsound _ hlisted
  rw [hlookup] at hbody
  cases hbody

/-- Bundles that are built and are not valid: one with a version of the caller's, and one with a directory. -/
theorem built_bundles_refused :
    jsonFormats.RoundTrips ∧
      (∃ bundle, buildTarGzipBundle jsonFormats .standard 0 (plainManifest "webhookery.evidence_bundle.v2") ∅ =
          .ok bundle ∧
        ¬∃ result, verifyTarGzipBundle jsonFormats .standard bundle.bytes = .ok result ∧ result.valid = true) ∧
      ∃ bundle, buildTarGzipBundle jsonFormats .standard 0 (plainManifest "") (oneFile "exports/" []) = .ok bundle ∧
        ¬∃ result, verifyTarGzipBundle jsonFormats .standard bundle.bytes = .ok result ∧ result.valid = true := by
  have hnone : ∀ name ∈ (∅ : FileMap).names, BundleName name := by
    intro name hname
    exact absurd (mem_names.mp hname) Finmap.notMem_empty
  obtain ⟨newer, hnewer⟩ := exists_bundle (mapM_writeTarFile fun name hname ↦ (hnone name hname).toFileName)
  obtain ⟨nested, hnested⟩ := exists_bundle mapM_writeTarFile_directory
  exact ⟨roundTrips_jsonFormats,
    ⟨newer, hnewer, not_valid_of_schema roundTrips_jsonFormats hnone (by decide) (by decide) hnewer⟩,
    nested, hnested, not_valid_of_directory roundTrips_jsonFormats hnested⟩

end Webhookery.Evidence

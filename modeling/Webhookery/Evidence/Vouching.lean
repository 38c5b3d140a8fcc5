import Webhookery.Evidence.RoundTrip

/-!
# What a valid bundle vouches for

A bundle is valid when every file of the manifest is in the archive with the recorded hash and size. The archive
is read into a map first, and the loop goes over the files of the manifest, so nothing is said about entries
that another one of the same name replaced, or that the manifest does not list.
-/

namespace Webhookery.Evidence

open Go Audit Store

variable {F : Formats} {crypto : Crypto} {entries : List TarEntry} {body : Bytes} {result : BundleVerification}

/-! ## Archives that the manifest describes -/

/-- The names of an archive are distinct, and the manifest lists every regular entry but itself once. -/
structure Listed (entries : List TarEntry) (manifest : Manifest) : Prop where
  distinct : (entries.map TarEntry.name).Nodup
  once : ∀ e ∈ entries, e.type = .regular → e.name ≠ "manifest.json" →
    (manifest.files.map ManifestFile.name).count e.name = 1

/-- The manifest vouches for an archive: it lists every entry once, with the hash and the size of its data. -/
structure Vouched (crypto : Crypto) (entries : List TarEntry) (manifest : Manifest) : Prop
    extends Listed entries manifest where
  recorded : ∀ e ∈ entries, e.type = .regular → e.name ≠ "manifest.json" → ∀ file ∈ manifest.files,
    file.name = e.name → file.sha256 = sha256 crypto e.data ∧ file.sizeBytes = e.data.length

/-- A bundle with one file of events. -/
def eventsFile : FileMap := oneFile "audit_events.jsonl" [0x0a]

theorem bundleable_eventsFile : Bundleable (plainManifest "") eventsFile :=
  ⟨by decide, .inl (by decide), .inl rfl, bundleName_of_mem_oneFile (by decide)⟩

theorem lookup_proof_eventsFile : eventsFile.lookup "audit_chain_proof.jsonl" = none := by
  rw [eventsFile, oneFile, Finmap.lookup_eq_none, Finmap.mem_singleton]
  decide

theorem proofClean_eventsFile : ProofClean F crypto eventsFile := by
  intro proof hproof
  cases lookup_proof_eventsFile.symm.trans hproof

/-- Whatever the bytes are: the manifest of a valid bundle vouches for the archive exactly when it lists the
archive's entries once each. -/
theorem vouched_iff_listed (hread : F.readTarGzip body = some entries)
    (h : verifyTarGzipBundle F crypto body = .ok result) (hvalid : result.valid = true) :
    ∃ e ∈ entries, e.type = .regular ∧ e.name = "manifest.json" ∧
      ∃ manifest, F.unmarshal e.data = some manifest ∧ (Vouched crypto entries manifest ↔ Listed entries manifest) := by
  obtain ⟨_, hfiles, h⟩ := bind_eq_ok.mp h
  have hlookup := lookup_of_readTarGzipFiles hread hfiles
  obtain ⟨_, manifest, hmanifest, hunmarshal, -, hsound⟩ := exists_manifest_of_valid h hvalid
  rw [hlookup] at hmanifest
  obtain ⟨e, he, hregular, hname, rfl⟩ := exists_of_lastData hmanifest
  refine ⟨e, he, hregular, hname, manifest, hunmarshal, Vouched.toListed, fun hlisted ↦ ⟨hlisted, ?_⟩⟩
  intro entry hentry hentryRegular _ file hfile hfileName
  obtain ⟨_, hdata, hnil⟩ := hsound file hfile
  rw [hlookup, hfileName, lastData_eq_some hlisted.distinct hentry hentryRegular] at hdata
  cases hdata
  obtain ⟨hsha, hsize, -⟩ := fileFailures_eq_nil.mp hnil
  exact ⟨hsha.symm, hsize.symm⟩

/-- The manifest of the file of events. -/
def eventsManifest : Manifest := (bundleManifest .standard 0 (plainManifest "") eventsFile).serialized

theorem names_eventsManifest : eventsManifest.files.map ManifestFile.name = ["audit_events.jsonl"] := by
  change (eventsFile.names.map (manifestFile .standard eventsFile)).map ManifestFile.name = _
  rw [eventsFile, names_oneFile]
  rfl

/-- An archive that begins with this manifest and in which the last file of events is the listed one. -/
theorem exists_valid_archive (rest : List TarEntry)
    (hsafe : ∀ e ∈ rest, e.type = .regular → unsafeName e.name = false)
    (hmanifest : lastData "manifest.json" rest = none) (hproof : lastData "audit_chain_proof.jsonl" rest = none)
    (hevents : lastData "audit_events.jsonl" rest = some [0x0a]) :
    ∃ body data result, jsonFormats.readTarGzip body = some (⟨"manifest.json", .regular, data⟩ :: rest) ∧
      jsonFormats.unmarshal data = some eventsManifest ∧ verifyTarGzipBundle jsonFormats .standard body = .ok result ∧
      result.valid = true := by
  obtain ⟨marshalled, hmarshal⟩ : ∃ marshalled,
      jsonFormats.marshalIndent (bundleManifest .standard 0 (plainManifest "") eventsFile) = some marshalled := ⟨_, rfl⟩
  have hmanifestBytes := roundTrips_jsonFormats.manifest hmarshal
  obtain ⟨body, hbody⟩ : ∃ body,
      jsonFormats.writeTarGzip (⟨"manifest.json", .regular, marshalled ++ [0x0a]⟩ :: rest) = some body := ⟨_, rfl⟩
  have hread := roundTrips_jsonFormats.archive hbody
  obtain ⟨files', hback⟩ : ∃ files', ReadBack jsonFormats .standard 0 (plainManifest "") eventsFile body files' := by
    refine exists_readBack_of_archive hread ?_ ?_ hmanifestBytes ?_ ?_
    · have hsafeManifest : unsafeName "manifest.json" = false := by decide
      exact List.forall_mem_cons.mpr ⟨fun _ ↦ hsafeManifest, hsafe⟩
    · rw [lastData_cons, hmanifest]
      rfl
    · intro name hname
      rw [eventsFile, names_oneFile, List.mem_singleton] at hname
      subst hname
      rw [lastData_cons, hevents, eventsFile, oneFile, Finmap.lookup_singleton_eq]
      rfl
    · rw [lastData_cons, hproof, lookup_proof_eventsFile]
      rfl
  obtain ⟨result, hresult, hvalid, -⟩ := hback.valid bundleable_eventsFile proofClean_eventsFile
  exact ⟨body, marshalled ++ [0x0a], result, hread, hmanifestBytes, hresult, hvalid⟩

/-- The listed file. -/
def eventsEntries : List TarEntry := [⟨"audit_events.jsonl", .regular, [0x0a]⟩]

/-- An archive with nothing but the listed file, for which its manifest vouches. -/
theorem vouched_iff_listed_built :
    ∃ body data result, jsonFormats.readTarGzip body = some (⟨"manifest.json", .regular, data⟩ :: eventsEntries) ∧
      jsonFormats.unmarshal data = some eventsManifest ∧ verifyTarGzipBundle jsonFormats .standard body = .ok result ∧
      result.valid = true ∧ Listed (⟨"manifest.json", .regular, data⟩ :: eventsEntries) eventsManifest ∧
      Vouched .standard (⟨"manifest.json", .regular, data⟩ :: eventsEntries) eventsManifest := by
  obtain ⟨body, data, result, hread, hunmarshal, hresult, hvalid⟩ :=
    exists_valid_archive eventsEntries (by decide) rfl rfl rfl
  have hlisted : Listed (⟨"manifest.json", .regular, data⟩ :: eventsEntries) eventsManifest := by
    refine ⟨(by decide : ["manifest.json", "audit_events.jsonl"].Nodup), fun e he _ hname ↦ ?_⟩
    rw [names_eventsManifest]
    rcases List.mem_cons.mp he with rfl | he
    · exact absurd rfl hname
    · rw [List.mem_singleton.mp he]
      decide
  obtain ⟨e, he, -, hname, manifest, hmanifest, hiff⟩ := vouched_iff_listed hread hresult hvalid
  rcases List.mem_cons.mp he with rfl | he
  · obtain rfl := Option.some.inj (hmanifest.symm.trans hunmarshal)
    exact ⟨body, data, result, hread, hunmarshal, hresult, hvalid, hlisted, hiff.mpr hlisted⟩
  · rw [List.mem_singleton.mp he] at hname
    exact absurd hname (by decide)

/-! ## Archives that are valid all the same -/

/-- The listed file, and one that the manifest does not know. -/
def withNotes : List TarEntry := [⟨"audit_events.jsonl", .regular, [0x0a]⟩, ⟨"notes.txt", .regular, [0x21]⟩]

/-- Another file in front of the listed one, under the same name. -/
def withTwin : List TarEntry := [⟨"audit_events.jsonl", .regular, [0x21]⟩, ⟨"audit_events.jsonl", .regular, [0x0a]⟩]

/-- Both archives are valid, and the manifest vouches for neither. -/
theorem unlisted_files_valid :
    jsonFormats.RoundTrips ∧ ∀ rest ∈ [withNotes, withTwin],
      ∃ body data result, jsonFormats.readTarGzip body = some (⟨"manifest.json", .regular, data⟩ :: rest) ∧
        jsonFormats.unmarshal data = some eventsManifest ∧
        verifyTarGzipBundle jsonFormats .standard body = .ok result ∧
        result.valid = true ∧ ¬Vouched .standard (⟨"manifest.json", .regular, data⟩ :: rest) eventsManifest := by
  refine ⟨roundTrips_jsonFormats, List.forall_mem_cons.mpr ⟨?_, List.forall_mem_singleton.mpr ?_⟩⟩
  · obtain ⟨body, data, result, hread, hunmarshal, hresult, hvalid⟩ :=
      exists_valid_archive withNotes (by decide) rfl rfl rfl
    refine ⟨body, data, result, hread, hunmarshal, hresult, hvalid, fun h ↦ ?_⟩
    have hnotes : (⟨"notes.txt", .regular, [0x21]⟩ : TarEntry) ∈ withNotes := by decide
    have honce := h.once _ (List.mem_cons_of_mem _ hnotes) rfl (by decide)
    rw [names_eventsManifest] at honce
    exact absurd honce (by decide)
  · obtain ⟨body, data, result, hread, hunmarshal, hresult, hvalid⟩ :=
      exists_valid_archive withTwin (by decide) rfl rfl rfl
    refine ⟨body, data, result, hread, hunmarshal, hresult, hvalid, fun h ↦ ?_⟩
    have hnames : ["manifest.json", "audit_events.jsonl", "audit_events.jsonl"].Nodup := h.distinct
    exact absurd hnames (by decide)

end Webhookery.Evidence

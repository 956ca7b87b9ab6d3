import VeraMono.Model.ArtifactManifest
import VeraMono.Proof.PcContracts
import VeraMono.Model.PcSample

/-!
# What the digest of an artifact manifest commits to

The fields that `digest_fields` flattens give back every field but the operations, of which they
have the text with commas between them. The operations that `ArtifactAuthorization.from_mapping`
accepts have no comma in them and are not empty, so that this text gives them back too.
-/

namespace VeraMono

open Framework

variable {rt : ContractRuntime} {value : PyValue}

/-! ## The operations -/

/-- Texts without commas, at least one of them, are read off the text that joins them. -/
theorem intercalate_comma_inj {xs ys : List String} (hx : xs ≠ []) (hy : ys ≠ []) (hxs : ∀ x ∈ xs, ',' ∉ x.toList)
    (hys : ∀ y ∈ ys, ',' ∉ y.toList) (h : ",".intercalate xs = ",".intercalate ys) : xs = ys := by
  have hsplit : ∀ {texts : List String}, texts ≠ [] → (∀ text ∈ texts, ',' ∉ text.toList) →
      (",".intercalate texts).toList.splitOn ',' = texts.map String.toList := by
    intro texts hne htexts
    rw [String.toList_intercalate]
    refine List.splitOn_intercalate ',' ?_ (by simpa using hne)
    intro chars hchars
    obtain ⟨text, htext, rfl⟩ := List.mem_map.1 hchars
    exact htexts text htext
  have hlists : xs.map String.toList = ys.map String.toList := by rw [← hsplit hx hxs, h, hsplit hy hys]
  exact (List.map_injective_iff.2 fun s t => String.toList_inj.1) hlists

theorem mapM_allowedOperation {texts : List Text} {operations : List String}
    (h : texts.mapM allowedOperation = .ok operations) :
    operations.length = texts.length ∧ ∀ operation ∈ operations, operation ∈ phaseOneOperations := by
  induction texts generalizing operations with
  | nil =>
    cases pure_ok.1 h
    exact ⟨rfl, List.forall_mem_nil _⟩
  | cons text texts ih =>
    simp only [List.mapM_cons, bind_eq_ok, pure_ok] at h
    obtain ⟨operation, hoperation, rest, hrest, rfl⟩ := h
    obtain ⟨hlength, hphase⟩ := ih hrest
    refine ⟨congrArg Nat.succ hlength, List.forall_mem_cons.2 ⟨?_, hphase⟩⟩
    cases text with
    | surrogates codePoints => cases hoperation
    | valid name =>
      rw [allowedOperation] at hoperation
      split at hoperation
      next hmem =>
        cases hoperation
        exact hmem
      next => cases hoperation

theorem sortedTexts?_ne_nil {texts : List Text} (h : sortedTexts? value = some texts) : texts ≠ [] := by
  unfold sortedTexts? at h
  split at h
  next items =>
    split at h
    next found hfound =>
      split at h
      next hsorted =>
        cases h
        exact hsorted.1
      next => cases h
    next => cases h
  next => cases h

theorem allowedOperationsOf_ok {operations : List String} (h : allowedOperationsOf value = .ok operations) :
    operations ≠ [] ∧ ∀ operation ∈ operations, operation ∈ phaseOneOperations := by
  rw [allowedOperationsOf] at h
  split at h
  next => cases h
  next texts htexts =>
    obtain ⟨hlength, hphase⟩ := mapM_allowedOperation h
    refine ⟨fun hnil => sortedTexts?_ne_nil htexts ?_, hphase⟩
    rw [← List.length_eq_zero_iff, ← hlength, hnil, List.length_nil]

theorem ArtifactAuthorization.fromMapping_operations {authorization : ArtifactAuthorization}
    (h : ArtifactAuthorization.fromMapping rt value = .ok authorization) :
    authorization.allowedOperations ≠ [] ∧ ∀ operation ∈ authorization.allowedOperations, ',' ∉ operation.toList := by
  have hfree : ∀ operation ∈ phaseOneOperations, ',' ∉ operation.toList := by decide
  simp only [fromMapping, bind_eq_ok, ite_error_ok, ↓throw_bind, pure_ok] at h
  obtain ⟨-, -, operations, hoperations, -, -, -, -, -, -, -, -, -, -, -, -, -, -, -, rfl⟩ := h
  obtain ⟨hne, hphase⟩ := allowedOperationsOf_ok hoperations
  exact ⟨hne, fun operation hmem => hfree operation (hphase operation hmem)⟩

/-! ## The fields -/

namespace ArtifactManifest

variable {m m' : ArtifactManifest}

def textNames : List String :=
  ["schema_version", "manifest_id", "manifest_digest_algorithm", "artifact_id", "content_id", "logical_name",
    "declared_filename", "sha256", "content_class", "privacy_class", "execution_class", "archive_class",
    "media_type_declared", "created_at"]

/-- A manifest that `validate` accepts, with an authorization that its `from_mapping` read. The
other parts hold anything of their types. -/
structure Valid (rt : ContractRuntime) (m : ArtifactManifest) : Prop where
  authorization : ∃ value, ArtifactAuthorization.fromMapping rt value = .ok m.authorization
  validate : m.validate rt = .ok ()

/-- The same in every field but the digest. -/
structure Agree (m m' : ArtifactManifest) : Prop where
  attributes : ∀ field ∈ scalarNames, field ≠ "manifest_sha256" → m.attributes field = m'.attributes field
  source : m.source = m'.source
  destinationPolicy : m.destinationPolicy = m'.destinationPolicy
  authorization : m.authorization = m'.authorization
  retention : m.retention = m'.retention

theorem fromMapping_valid (h : fromMapping rt value = .ok m) : Valid rt m := by
  simp only [fromMapping, bind_eq_ok, pure_ok] at h
  obtain ⟨-, -, source, -, destination, -, authorization, hauthorization, retention, -, ⟨⟩, hvalidate, rfl⟩ := h
  exact ⟨⟨_, hauthorization⟩, hvalidate⟩

theorem fromMapping_attributes (h : fromMapping rt value = .ok m) : m.attributes = itemOf value := by
  simp only [fromMapping, bind_eq_ok, pure_ok] at h
  obtain ⟨-, -, source, -, destination, -, authorization, -, retention, -, ⟨⟩, -, rfl⟩ := h
  rfl

theorem validate_typed (h : m.validate rt = .ok ()) :
    Typed textNames ["byte_length"] m.attributes ∧ ∃ material, m.digestMaterial rt = .ok material := by
  simp only [validate, bind_eq_ok, ite_error_ok, ↓throw_bind] at h
  obtain ⟨⟨⟩, hschema, ⟨⟩, halgorithm, id, hid, artifact, hartifact, -, -, name, hname, file, hfile, length, hlength,
    digest, hdigest, ⟨⟩, hcontent, class₁, hclass₁, class₂, hclass₂, ⟨⟩, hexecution, class₃, hclass₃, media, hmedia, -, -,
    created, hcreated, -, -, -, material, hmaterial, -⟩ := h
  refine ⟨⟨?_, ?_⟩, material, hmaterial⟩
  · simp only [textNames, List.forall_mem_cons]
    exact ⟨⟨_, requireIs_ok.1 hschema⟩, text_of_check hid, ⟨_, requireIs_ok.1 halgorithm⟩, text_of_check hartifact,
      ⟨_, requireIs_ok.1 hcontent⟩, text_of_check hname, text_of_check hfile, text_of_check hdigest,
      ⟨_, (requireIn_ok hclass₁).2⟩, ⟨_, (requireIn_ok hclass₂).2⟩, ⟨_, requireIs_ok.1 hexecution⟩,
      ⟨_, (requireIn_ok hclass₃).2⟩, text_of_check hmedia, text_of_check hcreated, List.forall_mem_nil _⟩
  · exact List.forall_mem_singleton.2 ⟨_, uintOf_ok hlength⟩

theorem pyStr_inj {s t : String} (h : pyStr s = pyStr t) : s = t := by
  rw [pyStr, pyStr, PyValue.str.injEq, Text.valid.injEq] at h
  exact h

theorem strOf_int_inj {i j : Int} (h : strOf rt (.int i) = strOf rt (.int j)) : i = j :=
  Int.repr_injective (pyStr_inj h)

theorem canonicalScalar_bool_inj {x y : Bool} (h : canonicalScalar rt (.bool x) = canonicalScalar rt (.bool y)) : x = y := by
  have hwords : ¬ "true" = "false" := by decide
  cases x <;> cases y
  · rfl
  · exact absurd (pyStr_inj h).symm hwords
  · exact absurd (pyStr_inj h) hwords
  · rfl

/-- The flattened fields give back all that `validate` does not leave to the parts; the operations
they give back as their joined text. -/
theorem agree_of_digestFields (ht : Typed textNames ["byte_length"] m.attributes)
    (ht' : Typed textNames ["byte_length"] m'.attributes) (h : m.digestFields rt = m'.digestFields rt)
    (hjoin : ",".intercalate m.authorization.allowedOperations = ",".intercalate m'.authorization.allowedOperations →
      m.authorization.allowedOperations = m'.authorization.allowedOperations) : Agree m m' := by
  simp only [digestFields, List.cons.injEq, and_true] at h
  obtain ⟨hschema, hid, halgorithm, hartifact, hcontent, hname, hfile, hlength, hdigest, hclass₁, hclass₂, hexecution,
    hclass₃, hmedia, hstore, hlocator, hversion, hdstore, hprofile, hprofileDigest, hremote, hpath, hauthorization,
    hrevision, hhost, hjob, hoperations, hmaxBytes, hissued, hexpires, hretention, huntil, hcreated⟩ := h
  have hbytes : m.attributes "byte_length" = m'.attributes "byte_length" := by
    obtain ⟨i, hi⟩ := ht.number "byte_length" (List.mem_singleton_self _)
    obtain ⟨j, hj⟩ := ht'.number "byte_length" (List.mem_singleton_self _)
    rw [hi, hj] at hlength ⊢
    rw [strOf_int_inj hlength]
  obtain ⟨attributes, ⟨⟩, ⟨⟩, ⟨⟩, ⟨⟩⟩ := m
  obtain ⟨attributes', ⟨⟩, ⟨⟩, ⟨⟩, ⟨⟩⟩ := m'
  dsimp only at *
  constructor
  · simp only [scalarNames, List.forall_mem_cons]
    exact ⟨fun _ => hschema, fun _ => hid, fun _ => halgorithm, fun hne => absurd rfl hne, fun _ => hartifact,
      fun _ => hcontent, fun _ => hname, fun _ => hfile, fun _ => hbytes, fun _ => hdigest, fun _ => hclass₁,
      fun _ => hclass₂, fun _ => hexecution, fun _ => hclass₃, fun _ => hmedia, fun _ => hcreated,
      List.forall_mem_nil _⟩
  · rw [pyStr_inj hstore, pyStr_inj hlocator, pyStr_inj hversion]
  · rw [pyStr_inj hdstore, pyStr_inj hprofile, pyStr_inj hprofileDigest, canonicalScalar_bool_inj hremote,
      pyStr_inj hpath]
  · rw [pyStr_inj hauthorization, strOf_int_inj hrevision, pyStr_inj hhost, pyStr_inj hjob,
      hjoin (pyStr_inj hoperations), strOf_int_inj hmaxBytes, pyStr_inj hissued, pyStr_inj hexpires]
  · rw [pyStr_inj hretention, pyStr_inj huntil]

/-- Two valid manifests that differ in a field other than the digest are hashed apart. -/
theorem digestMaterial_apart (hm : Valid rt m) (hm' : Valid rt m') (hne : ¬ Agree m m') :
    HashedApart (m.digestMaterial rt) (m'.digestMaterial rt) := by
  obtain ⟨ht, p, hp⟩ := validate_typed hm.validate
  obtain ⟨ht', q, hq⟩ := validate_typed hm'.validate
  refine ⟨p, q, hp, hq, ?_⟩
  rintro rfl
  obtain ⟨value, hvalue⟩ := hm.authorization
  obtain ⟨value', hvalue'⟩ := hm'.authorization
  obtain ⟨hnil, hcomma⟩ := ArtifactAuthorization.fromMapping_operations hvalue
  obtain ⟨hnil', hcomma'⟩ := ArtifactAuthorization.fromMapping_operations hvalue'
  have hfields := (domainMaterial_inj hp hq).2
  exact hne (agree_of_digestFields ht ht' hfields fun h => intercalate_comma_inj hnil hnil' hcomma hcomma' h)

end ArtifactManifest

/-- What is hashed for a tuple says which tuple and, in a domain, which domain; so jobs,
authorizations and artifact manifests that differ in a field other than the digest of a manifest
are never hashed alike. -/
theorem digests_commit (rt : ContractRuntime) :
    (∀ fields : List String, encodeFields (fields.map pyStr) = .ok (encodeTextTuple fields) ∧
      decodeTextTuple (encodeTextTuple fields) = some fields) ∧
    (∀ fields bytes, encodeFields fields = .ok bytes → ∃ ss : List String, fields = ss.map pyStr) ∧
    (∀ domain domain' fields fields' bytes bytes', domainMaterial domain fields = .ok bytes →
      domainMaterial domain' fields' = .ok bytes' → domain ≠ domain' ∨ fields ≠ fields' → bytes ≠ bytes') ∧
    (∀ a b, JobEnvelope.validateObject rt.envelopes a = .ok () → JobEnvelope.validateObject rt.envelopes b = .ok () →
      (∃ field ∈ JobEnvelope.fieldNames, a field ≠ b field) →
      HashedApart (JobEnvelope.digestMaterial rt a) (JobEnvelope.digestMaterial rt b)) ∧
    (∀ a b, AuthorizationEnvelope.validateObject rt.envelopes a = .ok () →
      AuthorizationEnvelope.validateObject rt.envelopes b = .ok () →
      (∃ field ∈ AuthorizationEnvelope.fieldNames, a field ≠ b field) →
      HashedApart (AuthorizationEnvelope.digestMaterial rt a) (AuthorizationEnvelope.digestMaterial rt b)) ∧
    (∀ m m', ArtifactManifest.Valid rt m → ArtifactManifest.Valid rt m' → ¬ ArtifactManifest.Agree m m' →
      HashedApart (m.digestMaterial rt) (m'.digestMaterial rt)) ∧
    ∀ value m, ArtifactManifest.fromMapping rt value = .ok m → ArtifactManifest.Valid rt m := by
  refine ⟨fun fields => ⟨encodeFields_ok.2 ⟨fields, rfl, rfl⟩, decodeTextTuple_encodeTextTuple fields⟩,
    fun fields bytes h => ?_, fun domain domain' fields fields' bytes bytes' h h' hne => ?_,
    fun a b => JobEnvelope.digestMaterial_apart, fun a b => AuthorizationEnvelope.digestMaterial_apart,
    fun m m' => ArtifactManifest.digestMaterial_apart, fun value m => ArtifactManifest.fromMapping_valid⟩
  · obtain ⟨ss, hss, -⟩ := encodeFields_ok.1 h
    exact ⟨ss, hss⟩
  · rintro rfl
    obtain ⟨hdomain, hfields⟩ := domainMaterial_inj h h'
    exact hne.elim (fun hne => hne hdomain) fun hne => hne hfields

/-! ## Two of each -/

/-- A runtime that knows the digests of the sample manifests. -/
def sampleContracts : ContractRuntime where
  envelopes := ⟨⟨fun _ => true, fun _ => none, fun bytes =>
    if bytes.length = 775 then "47fb4d0ee2385f57192c3804fd68b5e19cc5a1c7469c784a23aea8faec277d5e"
    else "176b8f2da5a9c12bc6ea5802ef1c5ce4f884ef85601e23d4def20f8ef8287006"⟩, sampleMicroseconds⟩
  str _ := .valid "None"
  sortedRepr _ := .ok "[]"

def attemptedJob (maxAttempts : Int) : JobEnvelope := { sampleJob with maxAttempts }

def attemptedAuthorization (maxAttempts : Int) : AuthorizationEnvelope := { sampleAuthorization with maxAttempts }

theorem attempted_validate :
    (attemptedJob 1).validate sampleContracts.envelopes = .ok () ∧
    (attemptedJob 2).validate sampleContracts.envelopes = .ok () ∧
    (attemptedAuthorization 1).validate sampleContracts.envelopes = .ok () ∧
    (attemptedAuthorization 2).validate sampleContracts.envelopes = .ok () := by
  -- with the fields written out, each of their values is checked once
  dsimp only [JobEnvelope.validate, attemptedJob, sampleJob, AuthorizationEnvelope.validate, attemptedAuthorization,
    sampleAuthorization, instantOf]
  decide +kernel

def sampleArtifactAuthorization : PyValue :=
  .dict [(pyStr "authorization_id", pyStr sampleUuid), (pyStr "revision", .int 1),
    (pyStr "allowed_host_id", pyStr sampleUuid), (pyStr "allowed_job_id", pyStr sampleUuid),
    (pyStr "allowed_operations", .list [pyStr "HASH_FILE", pyStr "READ_TEXT"]), (pyStr "max_bytes", .int 1),
    (pyStr "issued_at", pyStr "2026-01-01T00:00:00.000000Z"), (pyStr "expires_at", pyStr "2026-01-01T00:30:00.000000Z")]

/-- A manifest of a file of one byte, under a logical name and with a digest. -/
def sampleManifest (logicalName digest : String) : PyValue :=
  .dict [(pyStr "schema_version", pyStr "VERA_PCCC_ARTIFACT_MANIFEST_V1"), (pyStr "manifest_id", pyStr sampleUuid),
    (pyStr "manifest_digest_algorithm", pyStr "SHA-256"), (pyStr "manifest_sha256", pyStr digest),
    (pyStr "artifact_id", pyStr sampleUuid), (pyStr "content_id", pyStr s!"urn:sha256:{zeroSha256}:1"),
    (pyStr "logical_name", pyStr logicalName), (pyStr "declared_filename", pyStr "a.txt"),
    (pyStr "byte_length", .int 1), (pyStr "sha256", pyStr zeroSha256), (pyStr "content_class", pyStr "LOG"),
    (pyStr "privacy_class", pyStr "PROJECT"), (pyStr "execution_class", pyStr "NON_EXECUTABLE"),
    (pyStr "archive_class", pyStr "NOT_ARCHIVE"), (pyStr "media_type_declared", pyStr "text/plain"),
    (pyStr "source", .dict [(pyStr "store", pyStr "LOCAL_ONLY"), (pyStr "locator", pyStr "a"),
      (pyStr "immutable_locator_version", pyStr "1")]),
    (pyStr "destination_policy", .dict [(pyStr "store", pyStr "LOCAL_ONLY"),
      (pyStr "backend_profile_id", pyStr "LOCAL_ONLY"), (pyStr "backend_profile_digest", pyStr zeroSha256),
      (pyStr "remote_transfer_enabled", .bool false), (pyStr "relative_path", pyStr "a.txt")]),
    (pyStr "authorization", sampleArtifactAuthorization),
    (pyStr "retention", .dict [(pyStr "class", pyStr "PROJECT"),
      (pyStr "retain_until", pyStr "2026-01-01T00:30:00.000000Z")]),
    (pyStr "created_at", pyStr "2026-01-01T00:00:00.000000Z")]

theorem sampleManifests_read :
    ∃ m m', ArtifactManifest.fromMapping sampleContracts
        (sampleManifest "a" "47fb4d0ee2385f57192c3804fd68b5e19cc5a1c7469c784a23aea8faec277d5e") = .ok m ∧
      ArtifactManifest.fromMapping sampleContracts
        (sampleManifest "ab" "176b8f2da5a9c12bc6ea5802ef1c5ce4f884ef85601e23d4def20f8ef8287006") = .ok m' ∧
      ¬ ArtifactManifest.Agree m m' := by
  have hread : (ArtifactManifest.fromMapping sampleContracts
        (sampleManifest "a" "47fb4d0ee2385f57192c3804fd68b5e19cc5a1c7469c784a23aea8faec277d5e")).toBool = true ∧
      (ArtifactManifest.fromMapping sampleContracts
        (sampleManifest "ab" "176b8f2da5a9c12bc6ea5802ef1c5ce4f884ef85601e23d4def20f8ef8287006")).toBool = true := by
    decide +kernel
  have hok : ∀ {r : Except Failure ArtifactManifest}, r.toBool = true → ∃ m, r = .ok m
    | .ok m, _ => ⟨m, rfl⟩
  obtain ⟨m, hm⟩ := hok hread.1
  obtain ⟨m', hm'⟩ := hok hread.2
  refine ⟨m, m', hm, hm', fun hagree => ?_⟩
  have hname := hagree.attributes "logical_name" (by decide) (by decide)
  rw [ArtifactManifest.fromMapping_attributes hm, ArtifactManifest.fromMapping_attributes hm'] at hname
  exact absurd (ArtifactManifest.pyStr_inj (hname : pyStr "a" = pyStr "ab")) (by decide)

/-- A tuple and two domains, and two each of jobs, authorizations and manifests. -/
theorem digests_commit_sample :
    (encodeFields [pyStr "a", pyStr ""] = .ok (encodeTextTuple ["a", ""]) ∧
      decodeTextTuple (encodeTextTuple ["a", ""]) = some ["a", ""] ∧
      ∃ ss : List String, [pyStr "a", pyStr ""] = ss.map pyStr) ∧
    HashedApart (domainMaterial (pyStr "a") [pyStr "1"]) (domainMaterial (pyStr "b") [pyStr "1"]) ∧
    HashedApart (JobEnvelope.digestMaterial sampleContracts (attributesOf (attemptedJob 1).fields))
      (JobEnvelope.digestMaterial sampleContracts (attributesOf (attemptedJob 2).fields)) ∧
    HashedApart
      (AuthorizationEnvelope.digestMaterial sampleContracts (attributesOf (attemptedAuthorization 1).fields))
      (AuthorizationEnvelope.digestMaterial sampleContracts (attributesOf (attemptedAuthorization 2).fields)) ∧
    ∃ m m', ArtifactManifest.fromMapping sampleContracts
        (sampleManifest "a" "47fb4d0ee2385f57192c3804fd68b5e19cc5a1c7469c784a23aea8faec277d5e") = .ok m ∧
      ArtifactManifest.fromMapping sampleContracts
        (sampleManifest "ab" "176b8f2da5a9c12bc6ea5802ef1c5ce4f884ef85601e23d4def20f8ef8287006") = .ok m' ∧
      HashedApart (m.digestMaterial sampleContracts) (m'.digestMaterial sampleContracts) := by
  obtain ⟨htuples, htexts, hdomains, hjobs, hauthorizations, hmanifests, hread⟩ := digests_commit sampleContracts
  obtain ⟨hencode, hdecode⟩ := htuples ["a", ""]
  have hdomain : ∀ name, IsDomain name → domainMaterial (pyStr name) [pyStr "1"] =
      .ok (utf8 name ++ (10 : UInt8) :: encodeTextTuple ["1"]) := fun name h =>
    domainMaterial_ok.2 ⟨name, ["1"], rfl, h.ne_empty, h.no_line_feed, h.no_return, rfl, rfl⟩
  have ha := hdomain "a" ⟨by decide, by decide, by decide⟩
  have hb := hdomain "b" ⟨by decide, by decide, by decide⟩
  have hjob : ∀ n, HasFields (attributesOf (attemptedJob n).fields) (attemptedJob n).fields := fun n =>
    hasFields_attributesOf (by decide +kernel : JobEnvelope.fieldNames.Nodup)
  have hauthorization : ∀ n, HasFields (attributesOf (attemptedAuthorization n).fields) (attemptedAuthorization n).fields :=
    fun n => hasFields_attributesOf (by decide +kernel : AuthorizationEnvelope.fieldNames.Nodup)
  have hattempts : ∀ {a b : PyValue}, a = .int 1 → b = .int 2 → a ≠ b := by
    rintro a b rfl rfl heq
    exact absurd (PyValue.int.inj heq) (by decide)
  have hnames : pyStr "a" ≠ pyStr "b" := fun heq => absurd (ArtifactManifest.pyStr_inj heq) (by decide)
  obtain ⟨hjob₁, hjob₂, hauthorization₁, hauthorization₂⟩ := attempted_validate
  obtain ⟨m, m', hm, hm', hne⟩ := sampleManifests_read
  refine ⟨⟨hencode, hdecode, htexts _ _ hencode⟩, ⟨_, _, ha, hb, hdomains _ _ _ _ _ _ ha hb (.inl hnames)⟩,
    hjobs _ _ ?_ ?_ ⟨"max_attempts", by decide, ?_⟩, hauthorizations _ _ ?_ ?_ ⟨"max_attempts", by decide, ?_⟩,
    m, m', hm, hm', hmanifests m m' (hread _ m hm) (hread _ m' hm') hne⟩
  · exact (JobEnvelope.validateObject_eq (hjob 1)).trans hjob₁
  · exact (JobEnvelope.validateObject_eq (hjob 2)).trans hjob₂
  · exact hattempts rfl rfl
  · exact (AuthorizationEnvelope.validateObject_eq (hauthorization 1)).trans hauthorization₁
  · exact (AuthorizationEnvelope.validateObject_eq (hauthorization 2)).trans hauthorization₂
  · exact hattempts rfl rfl

end VeraMono

import Std.Data.String.ToInt
import VeraMono.Proof.TextTuples

/-!
# What the digests of the PC envelopes commit to

`canonical_scalar` writes the integer `1` and the text `"1"` alike. What keeps the fields of two
envelopes apart is that `validate` accepts for each field values of one type only
(`validateObject_typed`): on objects of these types the flattened fields give the fields back.
-/

namespace VeraMono

open Framework
open EvidenceGraph (inTexts)

variable {rt : ContractRuntime} {value : PyValue} {field message s : String} {self a b : Attributes}

/-! ## Checks that passed -/

theorem isText_iff : value.isText s = true ↔ value = pyStr s := by
  cases value with
  | str t => simp [PyValue.isText, pyStr]
  | _ => simp [PyValue.isText, pyStr]

theorem requireIs_ok : requireIs value s message = .ok () ↔ value = pyStr s := by
  rw [requireIs, ← isText_iff]
  split <;> simp_all

theorem requireIn_ok {texts : List String} (h : requireIn texts value message = .ok s) : s ∈ texts ∧ value = pyStr s := by
  rw [requireIn, bind_eq_ok] at h
  obtain ⟨-, -, h⟩ := h
  split at h
  next text hfind =>
    cases pure_ok.1 h
    exact ⟨List.mem_of_find?_eq_some hfind, isText_iff.1 (by simpa using List.find?_some hfind)⟩
  next => cases h

theorem checkText_ok {check : String → Except Failure Unit} {other surrogates : Failure} :
    checkText check other surrogates value = .ok s ↔ value = pyStr s ∧ check s = .ok () := by
  cases value with
  | str t =>
    cases t with
    | valid u =>
      rw [checkText, bind_eq_ok, pyStr]
      constructor
      · rintro ⟨⟨⟩, hcheck, hs⟩
        obtain rfl := pure_ok.1 hs
        exact ⟨rfl, hcheck⟩
      · rintro ⟨heq, hcheck⟩
        cases heq
        exact ⟨(), hcheck, rfl⟩
    | surrogates codePoints => simp [checkText, pyStr]
  | _ => simp [checkText, pyStr]

theorem text_of_check {check : String → Except Failure Unit} {other surrogates : Failure}
    (h : checkText check other surrogates value = .ok s) : ∃ s, value = pyStr s :=
  ⟨s, (checkText_ok.1 h).1⟩

theorem uintOf_ok {minimum maximum i : Int} (h : uintOf value field minimum maximum = .ok i) : value = .int i := by
  cases value with
  | int j =>
    rw [uintOf, bind_eq_ok] at h
    obtain ⟨-, -, h⟩ := h
    rw [pure_ok.1 h]
  | _ => cases h

theorem texts_of_mapM {check : String → Except Failure String} {fields ss : List String}
    (h : fields.mapM check = .ok ss) (hcheck : ∀ field s, check field = .ok s → ∃ s, self field = pyStr s) :
    ∀ field ∈ fields, ∃ s, self field = pyStr s := by
  induction fields generalizing ss with
  | nil => exact fun field hfield => absurd hfield List.not_mem_nil
  | cons field fields ih =>
    rw [List.mapM_cons, bind_eq_ok] at h
    obtain ⟨s, hs, h⟩ := h
    obtain ⟨rest, hrest, -⟩ := bind_eq_ok.1 h
    exact List.forall_mem_cons.2 ⟨hcheck field s hs, ih hrest⟩

theorem inTexts_ok {texts : List String} (h : inTexts texts value = .ok true) : ∃ s, value = pyStr s := by
  rw [inTexts] at h
  split at h
  · obtain ⟨text, -, htext⟩ := List.any_eq_true.1 (Except.ok.inj h)
    exact ⟨text, isText_iff.1 htext⟩
  · cases h

theorem validateOperationScopeOf_ok {operation writeRootId digest : PyValue}
    (h : validateOperationScopeOf operation writeRootId digest = .ok ()) :
    (∃ s, operation = pyStr s) ∧ (∃ s, writeRootId = pyStr s) ∧ ∃ s, digest = pyStr s := by
  simp only [validateOperationScopeOf, bind_eq_ok, ite_error_ok, ite_throw_ok, ↓throw_bind, not_not] at h
  obtain ⟨recognized, hrecognized, rfl, -, -, -, -, -, -, hroot, hdigest, -⟩ := h
  exact ⟨inTexts_ok hrecognized, ⟨_, isText_iff.1 hroot⟩, ⟨_, isText_iff.1 hdigest⟩⟩

/-! ## Objects of declared types -/

/-- The attributes named as texts are texts, and those named as numbers are integers. -/
structure Typed (texts numbers : List String) (object : Attributes) : Prop where
  text : ∀ field ∈ texts, ∃ s, object field = pyStr s
  number : ∀ field ∈ numbers, ∃ i, object field = .int i

variable {texts numbers names : List String}

/-- On attributes of one type, `canonical_scalar` keeps apart what differs. -/
theorem Typed.scalar_inj (ha : Typed texts numbers a) (hb : Typed texts numbers b) (hfield : field ∈ texts ++ numbers)
    (h : canonicalScalar rt (a field) = canonicalScalar rt (b field)) : a field = b field := by
  obtain htext | hnumber := List.mem_append.1 hfield
  · obtain ⟨s, hs⟩ := ha.text field htext
    obtain ⟨t, ht⟩ := hb.text field htext
    rw [hs, ht] at h ⊢
    exact h
  · obtain ⟨i, hi⟩ := ha.number field hnumber
    obtain ⟨j, hj⟩ := hb.number field hnumber
    rw [hi, hj] at h ⊢
    rw [canonicalScalar, canonicalScalar, strOf, strOf, pyStr, pyStr, PyValue.str.injEq, Text.valid.injEq] at h
    · rw [Int.repr_injective h]
    all_goals simp

theorem Typed.scalar_text (ha : Typed texts numbers a) (hfield : field ∈ texts ++ numbers) :
    ∃ s, canonicalScalar rt (a field) = pyStr s := by
  obtain htext | hnumber := List.mem_append.1 hfield
  · obtain ⟨s, hs⟩ := ha.text field htext
    exact ⟨s, by rw [hs]; rfl⟩
  · obtain ⟨i, hi⟩ := ha.number field hnumber
    exact ⟨toString i, by rw [hi]; rfl⟩

theorem exists_texts {values : List PyValue} (h : ∀ v ∈ values, ∃ s, v = pyStr s) : ∃ ss : List String, values = ss.map pyStr := by
  induction values with
  | nil => exact ⟨[], rfl⟩
  | cons v values ih =>
    obtain ⟨⟨s, rfl⟩, hrest⟩ := List.forall_mem_cons.1 h
    obtain ⟨ss, rfl⟩ := ih hrest
    exact ⟨s :: ss, rfl⟩

/-- Both are hashed, and not of the same bytes. -/
def HashedApart (x y : Except Failure (List UInt8)) : Prop := ∃ p q, x = .ok p ∧ y = .ok q ∧ p ≠ q

/-- A name that `sha256_domain_text_tuple` takes for a domain. -/
structure IsDomain (name : String) : Prop where
  ne_empty : name ≠ ""
  no_line_feed : '\n' ∉ name.toList
  no_return : '\r' ∉ name.toList

theorem domainMaterial_texts (hname : IsDomain s) (ss : List String) : ∃ p, domainMaterial (pyStr s) (ss.map pyStr) = .ok p :=
  ⟨_, domainMaterial_ok.2 ⟨s, ss, rfl, hname.ne_empty, hname.no_line_feed, hname.no_return, rfl, rfl⟩⟩

theorem Typed.apart (hname : IsDomain s) (hnames : names ⊆ texts ++ numbers) (ha : Typed texts numbers a)
    (hb : Typed texts numbers b) (hne : ∃ field ∈ names, a field ≠ b field) :
    HashedApart (domainMaterial (pyStr s) (names.map fun field => canonicalScalar rt (a field)))
      (domainMaterial (pyStr s) (names.map fun field => canonicalScalar rt (b field))) := by
  have hmaterial : ∀ {self : Attributes}, Typed texts numbers self →
      ∃ p, domainMaterial (pyStr s) (names.map fun field => canonicalScalar rt (self field)) = .ok p := by
    intro self hself
    obtain ⟨ss, hss⟩ : ∃ ss : List String, (names.map fun field => canonicalScalar rt (self field)) = ss.map pyStr := by
      refine exists_texts fun v hv => ?_
      obtain ⟨field, hfield, rfl⟩ := List.mem_map.1 hv
      exact hself.scalar_text (hnames hfield)
    rw [hss]
    exact domainMaterial_texts hname ss
  obtain ⟨p, hp⟩ := hmaterial ha
  obtain ⟨q, hq⟩ := hmaterial hb
  refine ⟨p, q, hp, hq, ?_⟩
  rintro rfl
  obtain ⟨field, hfield, hdiffers⟩ := hne
  have hfields := (domainMaterial_inj hp hq).2
  exact hdiffers (ha.scalar_inj hb (hnames hfield) (List.map_inj_left.1 hfields field hfield))

/-! ## Jobs and authorizations -/

namespace JobEnvelope

def textNames : List String :=
  ["schema_version", "envelope_id", "request_id", "idempotency_key", "project_id", "requester_principal_id",
    "requester_principal_type", "host_id", "operation_id", "parameters_digest", "artifact_manifest_digest",
    "read_roots_digest", "write_root_id", "authorization_id", "not_before", "expires_at", "retry_class",
    "protocol_min_version", "agent_min_version", "required_local_policy_digest", "required_capability_digest",
    "nonce", "trace_correlation_id"]

def numberNames : List String :=
  ["operation_version", "authorization_revision", "timeout_seconds", "max_attempts", "lease_ttl_seconds",
    "issuer_revocation_epoch", "host_revocation_epoch"]

theorem validateObject_typed {rt : EnvelopeRuntime} (h : validateObject rt self = .ok ()) :
    Typed textNames numberNames self := by
  simp only [validateObject, bind_eq_ok, ite_error_ok, ↓throw_bind] at h
  obtain ⟨⟨⟩, hschema, ids, hids, key, hkey, project, hproject, principal, hprincipal, type, htype, version, hversion,
    digests, hdigests, ⟨⟩, hscope, revision, hrevision, start, hstart, stop, hstop, -, timeout, htimeout, attempts,
    hattempts, ttl, httl, retry, hretry, protocol, hprotocol, agent, hagent, issuer, hissuer, host, hhost, -⟩ := h
  have hid := texts_of_mapM hids fun _ _ => text_of_check
  have hdigest := texts_of_mapM hdigests fun _ _ => text_of_check
  simp only [List.forall_mem_cons] at hid hdigest
  obtain ⟨henvelope, hrequest, hhostId, hauthorization, hnonce, htrace, -⟩ := hid
  obtain ⟨hparameters, hmanifest, hroots, hpolicy, hcapability, -⟩ := hdigest
  obtain ⟨hoperation, hwriteRoot, -⟩ := validateOperationScopeOf_ok hscope
  constructor
  · simp only [textNames, List.forall_mem_cons]
    exact ⟨⟨_, requireIs_ok.1 hschema⟩, henvelope, hrequest, text_of_check hkey, text_of_check hproject,
      text_of_check hprincipal, ⟨_, (requireIn_ok htype).2⟩, hhostId, hoperation, hparameters, hmanifest, hroots,
      hwriteRoot, hauthorization, text_of_check hstart, text_of_check hstop, ⟨_, (requireIn_ok hretry).2⟩,
      text_of_check hprotocol, text_of_check hagent, hpolicy, hcapability, hnonce, htrace, List.forall_mem_nil _⟩
  · simp only [numberNames, List.forall_mem_cons]
    exact ⟨⟨_, uintOf_ok hversion⟩, ⟨_, uintOf_ok hrevision⟩, ⟨_, uintOf_ok htimeout⟩, ⟨_, uintOf_ok hattempts⟩,
      ⟨_, uintOf_ok httl⟩, ⟨_, uintOf_ok hissuer⟩, ⟨_, uintOf_ok hhost⟩, List.forall_mem_nil _⟩

/-- Two jobs that pass `validate` and differ in a field are hashed apart. -/
theorem digestMaterial_apart (ha : validateObject rt.envelopes a = .ok ()) (hb : validateObject rt.envelopes b = .ok ())
    (hne : ∃ field ∈ fieldNames, a field ≠ b field) : HashedApart (digestMaterial rt a) (digestMaterial rt b) := by
  have hdomain : IsDomain "VERA-PCCC-JOB-V1" := ⟨by decide, by decide, by decide⟩
  rw [digestMaterial, digestMaterial, ha, hb]
  exact (validateObject_typed ha).apart hdomain (by decide) (validateObject_typed hb) hne

end JobEnvelope

namespace AuthorizationEnvelope

def textNames : List String :=
  ["schema_version", "envelope_id", "job_id", "issuer_id", "subject_user_id", "host_id", "operation",
    "parameters_digest", "artifact_manifest_digest", "read_roots_digest", "write_root_id", "authorization_id",
    "issued_at", "not_before", "expires_at", "nonce", "protocol_min_version", "agent_min_version"]

def numberNames : List String :=
  ["operation_version", "authorization_revision", "max_attempts", "lease_ttl_seconds", "issuer_revocation_epoch",
    "host_revocation_epoch"]

theorem validateObject_typed {rt : EnvelopeRuntime} (h : validateObject rt self = .ok ()) :
    Typed textNames numberNames self := by
  simp only [validateObject, bind_eq_ok, ite_error_ok, ↓throw_bind] at h
  obtain ⟨⟨⟩, hschema, ids, hids, issuer, hissuer, user, huser, version, hversion, digests, hdigests, ⟨⟩, hscope,
    revision, hrevision, issued, hissued, start, hstart, stop, hstop, -, -, attempts, hattempts, ttl, httl, protocol,
    hprotocol, agent, hagent, issuerEpoch, hissuerEpoch, hostEpoch, hhostEpoch, -⟩ := h
  have hid := texts_of_mapM hids fun _ _ => text_of_check
  have hdigest := texts_of_mapM hdigests fun _ _ => text_of_check
  simp only [List.forall_mem_cons] at hid hdigest
  obtain ⟨henvelope, hjob, hhostId, hauthorization, hnonce, -⟩ := hid
  obtain ⟨hparameters, hmanifest, hroots, -⟩ := hdigest
  obtain ⟨hoperation, hwriteRoot, -⟩ := validateOperationScopeOf_ok hscope
  constructor
  · simp only [textNames, List.forall_mem_cons]
    exact ⟨⟨_, requireIs_ok.1 hschema⟩, henvelope, hjob, text_of_check hissuer, text_of_check huser, hhostId,
      hoperation, hparameters, hmanifest, hroots, hwriteRoot, hauthorization, text_of_check hissued,
      text_of_check hstart, text_of_check hstop, hnonce, text_of_check hprotocol, text_of_check hagent,
      List.forall_mem_nil _⟩
  · simp only [numberNames, List.forall_mem_cons]
    exact ⟨⟨_, uintOf_ok hversion⟩, ⟨_, uintOf_ok hrevision⟩, ⟨_, uintOf_ok hattempts⟩, ⟨_, uintOf_ok httl⟩,
      ⟨_, uintOf_ok hissuerEpoch⟩, ⟨_, uintOf_ok hhostEpoch⟩, List.forall_mem_nil _⟩

/-- Two authorizations that pass `validate` and differ in a field are hashed apart. -/
theorem digestMaterial_apart (ha : validateObject rt.envelopes a = .ok ()) (hb : validateObject rt.envelopes b = .ok ())
    (hne : ∃ field ∈ fieldNames, a field ≠ b field) : HashedApart (digestMaterial rt a) (digestMaterial rt b) := by
  have hdomain : IsDomain "VERA-PCCC-AUTHORIZATION-V1" := ⟨by decide, by decide, by decide⟩
  rw [digestMaterial, digestMaterial, ha, hb]
  exact (validateObject_typed ha).apart hdomain (by decide) (validateObject_typed hb) hne

end AuthorizationEnvelope

/-! ## Attributes of the declared types

The envelopes of `PcEnvelopes` have fields of the declared types. An object whose attributes are
those fields is checked and hashed as the envelope is. -/

section Declared
variable {t u : String} {checks : List String} {i minimum maximum : Int} {n : Nat}

theorem isText_pyStr : (pyStr s).isText t = decide (s = t) := by simp [pyStr, PyValue.isText]

theorem inTexts_pyStr : inTexts checks (pyStr s) = .ok (decide (s ∈ checks)) := by
  refine congrArg Except.ok ?_
  rw [Bool.eq_iff_iff, List.any_eq_true, decide_eq_true_iff]
  constructor
  · rintro ⟨text, hmem, htext⟩
    exact (of_decide_eq_true (isText_pyStr.symm.trans htext) : s = text) ▸ hmem
  · exact fun hmem => ⟨s, hmem, isText_pyStr.trans (decide_eq_true rfl)⟩

theorem requireIs_pyStr : requireIs (pyStr s) t message = if s ≠ t then throw (contractError message) else pure () := by
  rw [requireIs, isText_pyStr]
  by_cases h : s = t
  · rw [if_pos (decide_eq_true h), if_neg (not_not.2 h)]
    rfl
  · rw [if_neg (by simpa using h), if_pos h]
    rfl

theorem requireIn_pyStr :
    requireIn checks (pyStr s) message = if s ∉ checks then throw (contractError message) else pure s := by
  rw [requireIn, inTexts_pyStr, ok_bind]
  cases hfind : checks.find? fun text => (pyStr s).isText text with
  | none =>
    have hnot : s ∉ checks := fun h => List.find?_eq_none.1 hfind s h (isText_pyStr.trans (decide_eq_true rfl))
    rw [if_pos hnot]
  | some text =>
    have hs : s = text := by simpa [isText_pyStr] using List.find?_some hfind
    rw [if_neg (not_not.2 (hs ▸ List.mem_of_find?_eq_some hfind)), hs]

theorem uuidV7Of_pyStr {rt : PcccRuntime} : uuidV7Of rt (pyStr s) field = (do uuidV7 rt s field; pure s) := rfl

theorem boundedTextOf_pyStr : boundedTextOf (pyStr s) field n = (do boundedText s field n; pure s) := rfl

theorem sha256HexOf_pyStr : sha256HexOf (pyStr s) field = (do sha256Hex s field; pure s) := rfl

theorem semverOf_pyStr : semverOf (pyStr s) field = (do semver s field; pure s) := rfl

theorem utcTextOf_pyStr {rt : EnvelopeRuntime} :
    utcTextOf rt (pyStr s) field = (do utcMicroseconds rt.pccc s field; pure s) := rfl

theorem uintOf_int : uintOf (.int i) field minimum maximum = (do uint i field minimum maximum; pure i) := rfl

theorem validateOperationScopeOf_pyStr :
    validateOperationScopeOf (pyStr s) (pyStr t) (pyStr u) = validateOperationScope s t u := by
  simp only [validateOperationScopeOf, validateOperationScope, inTexts_pyStr, isText_pyStr, ok_bind, decide_eq_true_eq,
    ne_eq]

theorem guard_bind {ε α β : Type} {e : ε} {c : Prop} [Decidable c] {x : α} {f : α → Except ε β} :
    ((if c then throw e else pure x) >>= f) = if c then throw e else f x := by
  by_cases h : c
  · rw [if_pos h, if_pos h, throw_bind]
    rfl
  · rw [if_neg h, if_neg h, pure_bind]

/-- The attributes of an object are these fields. -/
def HasFields (object : Attributes) (fields : List (String × Scalar)) : Prop :=
  ∀ entry ∈ fields, object entry.1 = entry.2.toPy

/-- The attributes that an object made of these fields has. -/
def attributesOf (fields : List (String × Scalar)) : Attributes := fun field =>
  ((fields.find? fun entry => entry.1 = field).map fun entry => entry.2.toPy).getD .none

theorem hasFields_attributesOf {fields : List (String × Scalar)} (h : (fields.map Prod.fst).Nodup) :
    HasFields (attributesOf fields) fields := by
  intro entry hentry
  have hfind : fields.find? (fun other => other.1 = entry.1) = some entry := by
    induction fields with
    | nil => exact absurd hentry List.not_mem_nil
    | cons first rest ih =>
      rw [List.map_cons, List.nodup_cons] at h
      obtain rfl | hrest := List.mem_cons.1 hentry
      · exact List.find?_cons_of_pos (decide_eq_true rfl)
      · have hne : first.1 ≠ entry.1 := fun heq => h.1 (heq ▸ List.mem_map_of_mem hrest)
        rw [List.find?_cons_of_neg (by simpa using hne)]
        exact ih h.2 hrest
  rw [attributesOf, hfind]
  rfl

theorem toPy_text : (Scalar.text s).toPy = pyStr s := rfl

theorem toPy_number : (Scalar.number i).toPy = .int i := rfl

end Declared

theorem JobEnvelope.validateObject_eq {rt : EnvelopeRuntime} {job : JobEnvelope} (h : HasFields self job.fields) :
    JobEnvelope.validateObject rt self = job.validate rt := by
  simp only [HasFields, fields, List.forall_mem_cons, toPy_text, toPy_number] at h
  simp only [JobEnvelope.validateObject, List.mapM_cons, List.mapM_nil, h, uuidV7Of_pyStr, boundedTextOf_pyStr,
    sha256HexOf_pyStr, semverOf_pyStr, utcTextOf_pyStr, uintOf_int, requireIs_pyStr, requireIn_pyStr,
    validateOperationScopeOf_pyStr, validate, instantOf, bind_assoc, pure_bind, guard_bind, ↓throw_bind, bind_pure_unit]
  rfl

theorem AuthorizationEnvelope.validateObject_eq {rt : EnvelopeRuntime} {authorization : AuthorizationEnvelope}
    (h : HasFields self authorization.fields) :
    AuthorizationEnvelope.validateObject rt self = authorization.validate rt := by
  simp only [HasFields, fields, List.forall_mem_cons, toPy_text, toPy_number] at h
  simp only [AuthorizationEnvelope.validateObject, List.mapM_cons, List.mapM_nil, h, uuidV7Of_pyStr,
    boundedTextOf_pyStr, sha256HexOf_pyStr, semverOf_pyStr, utcTextOf_pyStr, uintOf_int, requireIs_pyStr,
    validateOperationScopeOf_pyStr, validate, instantOf, bind_assoc, pure_bind, guard_bind, ↓throw_bind, bind_pure_unit]
  rfl

end VeraMono

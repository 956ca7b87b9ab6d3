import VeraMono.Proof.StoredMemory

/-!
# Admissions that are repeated

What is stored for an operation stays as it is. The digest of its request tells a repeated
admission from another one, since the request can be read off its canonical text, and the head of a
ledger tells how many records it has, so that no head comes back. `memory_admission` says both of
any later admissions (`Remembers.replay`, `head_used`); a second record admitted at the head that
the first left gets that head back (`replay_shares_head`).
-/

namespace VeraMono

open Framework

namespace StoredMemory

structure LedgerAdmission where
  projectId : String
  identityId : String
  call : Admission

abbrev LedgerAdmission.request (a : LedgerAdmission) : AdmissionRequest := a.call.request

def admitTo (R : PyRuntime) (a : LedgerAdmission) (m : StoredMemory) : Except Failure (PyValue × StoredMemory) :=
  admitRecord R a.projectId a.identityId a.call m

variable {R : PyRuntime} {request request' : AdmissionRequest} {m m' : StoredMemory}
  {doc doc' : List (String × Json)} {n n' : Nat}

/-! ## Digests of documents -/

theorem digestOf_settled (h : Settled R.py doc) :
    digestOf R (docFields doc) = .ok (R.sha256Text (String.ofList (Json.obj (sortEntries doc)).dumps)) := by
  rw [digestOf, canonicalJsonBytes_ok h.normalizes]
  rfl

theorem docs_eq_of_digest (hsha : Function.Injective R.sha256) (h : Settled R.py doc) (h' : Settled R.py doc')
    (hkeys : doc.map Prod.fst = doc'.map Prod.fst)
    (hd : digestOf R (docFields doc) = digestOf R (docFields doc')) : doc = doc' := by
  rw [digestOf_settled h, digestOf_settled h', Except.ok.injEq] at hd
  have htext := hsha hd
  rw [String.toByteArray_inj, String.ofList_inj] at htext
  have hsorted := Json.obj.inj (dumps_injective h.readable h'.readable htext)
  refine entries_eq_of_perm hkeys h.nodup ?_
  exact (sortEntries_perm doc).symm.trans (hsorted ▸ sortEntries_perm doc')

/-- What is digested with a document of these keys. -/
theorem settled_of_digest {fields : List (String × PyValue)} {d : String} (hn : (fields.map Prod.fst).Nodup)
    (h : digestOf R fields = .ok d) : ∃ kvs, List.Forall₂ (FieldNormalizes R.py) fields kvs := by
  obtain ⟨_, hbytes, -⟩ := map_eq_ok.1 h
  obtain ⟨_, htext, -⟩ := map_eq_ok.1 hbytes
  obtain ⟨_, hj, -⟩ := map_eq_ok.1 htext
  obtain ⟨kvs, hkvs, -⟩ := (normalizeValue_dictOf hn).1 hj
  exact ⟨kvs, hkvs⟩

/-! ## Requests -/

/-- The document of `AdmissionRequest.payload`. -/
def requestDoc (request : AdmissionRequest) : List (String × Json) := (recordDoc request "").dropLast

theorem fields_eq : request.fields = docFields (requestDoc request) := by
  simp [AdmissionRequest.fields, docFields, requestDoc, recordDoc, Json.toPy, toPyItems_strs,
    jsonOptional_toPy, pyStr]

theorem requestDoc_settled (py : Stdlib) : Settled py (requestDoc request) where
  nodup := recordDoc_nodup.sublist ((List.dropLast_sublist _).map Prod.fst)
  settled f hf := (recordDoc_settled py).settled f (List.dropLast_subset _ hf)

theorem jsonOptional_injective : Function.Injective jsonOptional := by
  intro a b h
  cases a <;> cases b <;> cases h <;> rfl

theorem memoryClass_value_injective : Function.Injective MemoryClass.value := by
  intro a b h
  cases a <;> cases b <;> first | rfl | exact absurd h (by decide)

theorem requestDoc_injective (h : requestDoc request = requestDoc request') : request = request' := by
  obtain ⟨_, _, c, _, _, _, refs, _, _, _, sup⟩ := request
  obtain ⟨_, _, c', _, _, _, refs', _, _, _, sup'⟩ := request'
  simp only [requestDoc, recordDoc, List.dropLast, List.cons.injEq, Prod.mk.injEq, Json.str.injEq,
    Json.arr.injEq, true_and, and_true] at h
  obtain ⟨rfl, rfl, hclass, rfl, rfl, rfl, hrefs, rfl, rfl, rfl, hsup⟩ := h
  obtain rfl := memoryClass_value_injective hclass
  have hstr : Function.Injective Json.str := fun _ _ => Json.str.inj
  obtain rfl := hstr.list_map hrefs
  obtain rfl := jsonOptional_injective hsup
  rfl

theorem requestDigest_ne (hsha : Function.Injective R.sha256) (hne : request' ≠ request) {d : String}
    (h : requestDigest R request = .ok d) : requestDigest R request' ≠ .ok d := by
  intro h'
  simp only [requestDigest, bind_eq_ok, fields_eq] at h h'
  obtain ⟨_, -, h⟩ := h
  obtain ⟨_, -, h'⟩ := h'
  exact hne (requestDoc_injective (docs_eq_of_digest hsha (requestDoc_settled R.py)
    (requestDoc_settled R.py) rfl (h'.trans h.symm)))

/-! ## Heads -/

/-- The document of `head_material`. -/
def headDoc (previousHead : String) (n : Nat) (request : AdmissionRequest) (recordDigest : String) :
    List (String × Json) :=
  [("previous_head", .str previousHead), ("generation", .int n), ("record_id", .str request.recordId),
    ("record_digest", .str recordDigest), ("supersedes", jsonOptional request.supersedes)]

variable {previousHead head recordDigest : String}

theorem headFields_eq :
    headFields previousHead n request recordDigest = docFields (headDoc previousHead n request recordDigest) := by
  simp [headFields, docFields, headDoc, Json.toPy, jsonOptional_toPy, pyStr]

def ledgerKeys : List String :=
  ["previous_head", "generation", "record_id", "record_digest", "supersedes", "schema", "operation_id",
    "request_digest", "memory_class", "project_id", "governed_identity_id", "authority_ref", "privacy_ref",
    "provenance_refs", "store_head", "claim_ceiling"]

theorem ledgerKeys_plain : (ledgerKeys.all fun key => keyHint key = .plain) = true := by decide +kernel

/-- They are not those of a path or a timestamp. -/
theorem keyHint_plain {key : String} (h : key ∈ ledgerKeys) : keyHint key = .plain :=
  of_decide_eq_true (List.all_eq_true.1 ledgerKeys_plain _ h)

theorem settled_of_ledgerKeys (hnodup : (doc.map Prod.fst).Nodup) (hkeys : doc.map Prod.fst ⊆ ledgerKeys)
    (hvalues : ∀ f ∈ doc, normalizeValue R.py .plain f.2.toPy = .ok f.2) : Settled R.py doc where
  nodup := hnodup
  settled f hf := by
    rw [keyHint_plain (hkeys (List.mem_map_of_mem hf))]
    exact hvalues f hf

theorem headDoc_nodup : ((headDoc previousHead n request recordDigest).map Prod.fst).Nodup :=
  (by decide : ["previous_head", "generation", "record_id", "record_digest", "supersedes"].Nodup)

/-- A head was digested with a generation that canonical JSON can hold. -/
theorem safe_of_head (h : digestOf R (headFields previousHead n request recordDigest) = .ok head) :
    normalizeValue R.py .plain (.int n) = .ok (.int n) := by
  have hn : ((headFields previousHead n request recordDigest).map Prod.fst).Nodup :=
    (by decide : ["previous_head", "generation", "record_id", "record_digest", "supersedes"].Nodup)
  obtain ⟨kvs, hkvs⟩ := settled_of_digest hn h
  obtain ⟨kv, -, -, hkv⟩ := forall₂_mem_left hkvs (a := ("generation", .int n)) (by simp [headFields])
  rw [keyHint_plain (by decide : "generation" ∈ ledgerKeys)] at hkv
  rw [normalizeValue] at hkv ⊢
  split at hkv
  · cases hkv
  · rw [if_neg ‹_›]

theorem normalizeValue_optional (s : Option String) :
    normalizeValue R.py .plain (jsonOptional s).toPy = .ok (jsonOptional s) := by
  cases s <;> rfl

theorem headDoc_settled (hn : normalizeValue R.py .plain (.int n) = .ok (.int n)) :
    Settled R.py (headDoc previousHead n request recordDigest) := by
  refine settled_of_ledgerKeys headDoc_nodup
    (by decide : ["previous_head", "generation", "record_id", "record_digest", "supersedes"] ⊆ ledgerKeys)
    fun f hf => ?_
  simp only [headDoc, List.mem_cons, List.not_mem_nil, or_false] at hf
  rcases hf with rfl | rfl | rfl | rfl | rfl
  · rfl
  · exact hn
  · rfl
  · rfl
  · exact normalizeValue_optional _

/-- A head of a ledger with `n` records. -/
def HeadOf (R : PyRuntime) (n : Nat) (head : String) : Prop :=
  (n = 0 ∧ head = R.sha256Text "vera-memory-genesis-v1") ∨
    ∃ previousHead request recordDigest,
      digestOf R (headFields previousHead n request recordDigest) = .ok head

theorem digestOf_ne_genesis (hsha : Function.Injective R.sha256) (h : Settled R.py doc) :
    digestOf R (docFields doc) ≠ .ok (R.sha256Text "vera-memory-genesis-v1") := by
  rw [digestOf_settled h]
  intro heq
  have htext := hsha (Except.ok.inj heq)
  rw [String.toByteArray_inj] at htext
  have hchars := congrArg String.toList htext
  rw [String.toList_ofList, Json.dumps] at hchars
  have hv : "vera-memory-genesis-v1".toList.head? = some 'v' := by decide +kernel
  have hhead := congrArg List.head? hchars
  rw [hv, List.head?_cons, Option.some.injEq] at hhead
  exact absurd hhead (by decide)

theorem HeadOf.unique (hsha : Function.Injective R.sha256) (h : HeadOf R n head) (h' : HeadOf R n' head) :
    n = n' := by
  have hdocs {a b : Nat} {p : String} {r : AdmissionRequest} {d : String}
      (hd : digestOf R (headFields p a r d) = .ok head) (hb : HeadOf R b head) : a = b := by
    have hs : Settled R.py (headDoc p a r d) := headDoc_settled (safe_of_head hd)
    rcases hb with ⟨-, rfl⟩ | ⟨p', r', d', hd'⟩
    · exact absurd (headFields_eq ▸ hd) (digestOf_ne_genesis hsha hs)
    · have hs' : Settled R.py (headDoc p' b r' d') := headDoc_settled (safe_of_head hd')
      rw [headFields_eq] at hd hd'
      have hdoc := docs_eq_of_digest hsha hs hs' rfl (hd.trans hd'.symm)
      simp only [headDoc, List.cons.injEq, Prod.mk.injEq, Json.int.injEq] at hdoc
      exact Int.ofNat.inj hdoc.2.1.2
  rcases h with ⟨rfl, hg⟩ | ⟨p, r, d, hd⟩
  · rcases h' with ⟨rfl, -⟩ | ⟨p, r, d, hd⟩
    · rfl
    · exact (hdocs hd (.inl ⟨rfl, hg⟩)).symm
  · exact hdocs hd h'

/-! ## Receipts -/

def receiptDoc (request : AdmissionRequest) (requestDigest recordDigest storeHead : String) (n : Nat) :
    List (String × Json) :=
  [("schema", .str "VERA_MONO_MEMORY_ADMISSION_RECEIPT_V1"), ("operation_id", .str request.operationId),
    ("record_id", .str request.recordId), ("request_digest", .str requestDigest),
    ("record_digest", .str recordDigest), ("memory_class", .str request.memoryClass.value),
    ("project_id", .str request.projectId), ("governed_identity_id", .str request.governedIdentityId),
    ("authority_ref", .str request.authorityRef), ("privacy_ref", .str request.privacyRef),
    ("provenance_refs", .arr (request.provenanceRefs.map .str)), ("store_head", .str storeHead),
    ("generation", .int n),
    ("claim_ceiling", .str "LOCAL_DURABLE_RECORD_NOT_SELF_AUTHENTICATING_POLICY_OR_CURRENT_TRUTH")]

variable {digest : String}

theorem receiptFields_eq : receiptFields request digest recordDigest head n =
    docFields (receiptDoc request digest recordDigest head n) := by
  simp [receiptFields, docFields, receiptDoc, Json.toPy, toPyItems_strs, pyStr]

theorem receiptDoc_settled (hn : normalizeValue R.py .plain (.int n) = .ok (.int n)) :
    Settled R.py (receiptDoc request digest recordDigest head n) := by
  have hkeys : (receiptDoc request digest recordDigest head n).map Prod.fst = ["schema", "operation_id",
    "record_id", "request_digest", "record_digest", "memory_class", "project_id", "governed_identity_id",
    "authority_ref", "privacy_ref", "provenance_refs", "store_head", "generation", "claim_ceiling"] := rfl
  refine settled_of_ledgerKeys (hkeys ▸ by decide) (hkeys ▸ by decide) fun f hf => ?_
  simp only [receiptDoc, List.mem_cons, List.not_mem_nil, or_false] at hf
  rcases hf with rfl | rfl | rfl | rfl | rfl | rfl | rfl | rfl | rfl | rfl | rfl | rfl | rfl | rfl
  case inr.inr.inr.inr.inr.inr.inr.inr.inr.inr.inl =>
    rw [Json.toPy, toPyItems_strs, normalizeValue, normalizeValues_strs]
    rfl
  case inr.inr.inr.inr.inr.inr.inr.inr.inr.inr.inr.inr.inl => exact hn
  all_goals rfl

/-- Two values that are equal, dictionaries in any order of their entries. -/
def SameValue (v w : PyValue) : Prop :=
  v = w ∨ ∃ entries entries', v = .dict entries ∧ w = .dict entries' ∧ entries.Perm entries'

theorem toPyEntries_perm {es es' : List (String × Json)} (h : es.Perm es') :
    (Json.toPyEntries es).Perm (Json.toPyEntries es') := by
  rw [toPyEntries_eq, toPyEntries_eq]
  exact h.map _

theorem reads_back (h : Settled R.py doc) {text : String}
    (ht : canonicalJson R.py (StoredLedger.dictOf (docFields doc)) = .ok text) :
    ∃ stored, readJson R text = .ok stored ∧ SameValue (StoredLedger.dictOf (docFields doc)) stored := by
  rw [h.canonicalJson, Except.ok.injEq] at ht
  refine ⟨_, ht ▸ readJson_dumps h.readable, .inr ⟨_, _, dictOf_docFields, rfl, ?_⟩⟩
  exact toPyEntries_perm (sortEntries_perm doc).symm

/-! ## What an admission leaves -/

theorem admitNew_stored {call : Admission} {receipt : PyValue} (h : admitNew R call m = .ok (receipt, m')) :
    m.head = call.expectedHead ∧ m'.generation = m.generation + 1 ∧
      ∃ digest recordDigest receiptJson, requestDigest R call.request = .ok digest ∧
        digestOf R (headFields m.head (m.generation + 1) call.request recordDigest) = .ok m'.head ∧
        receipt = StoredLedger.dictOf
          (receiptFields call.request digest recordDigest m'.head (m.generation + 1)) ∧
        canonicalJson R.py receipt = .ok receiptJson ∧ m'.operations =
          m.operations.insert ⟨call.request.operationId, digest, call.request.recordId, receiptJson⟩ := by
  simp only [admitNew, bind_eq_ok, ite_error_ok, ↓throw_bind, pure_ok, not_not] at h
  obtain ⟨hhead, -, _, -, digest, hdigest, payloadJson, -, _, -, head, hnew, receiptJson, hreceipt, h⟩ := h
  cases h
  exact ⟨hhead, rfl, digest, R.sha256Text payloadJson, receiptJson, hdigest, hnew, rfl, hreceipt, rfl⟩

variable {a : LedgerAdmission}

/-- An admission that returned found its operation, or is a new one. -/
theorem admitTo_ok {receipt : PyValue} (h : admitTo R a m = .ok (receipt, m')) :
    a.request.validate = .ok () ∧
      ¬ (a.request.projectId ≠ a.projectId ∨ a.request.governedIdentityId ≠ a.identityId) ∧
      ((∃ row, m.operations.get? a.request.operationId = some row ∧
        requestDigest R a.request = .ok row.requestDigest ∧ readJson R row.receiptJson = .ok receipt ∧
        m' = m) ∨
      m.operations.get? a.request.operationId = none ∧ admitNew R a.call m = .ok (receipt, m')) := by
  simp only [admitTo, admitRecord, bind_eq_ok, ite_error_ok, ↓throw_bind] at h
  obtain ⟨_, hv, hproject, -, h⟩ := h
  refine ⟨hv, hproject, ?_⟩
  cases hop : m.operations.get? a.call.request.operationId with
  | none =>
    rw [hop] at h
    exact .inr ⟨rfl, h⟩
  | some row =>
    simp only [hop, bind_eq_ok, ite_error_ok, pure_ok] at h
    obtain ⟨d, hd, hsame, stored, hread, h⟩ := h
    cases h
    exact .inl ⟨row, rfl, not_not.1 hsame ▸ hd, hread, rfl⟩

theorem get?_insert {operations : Table StoredOperation.operationId} {row : StoredOperation}
    (h : operations.get? row.operationId = none) :
    (operations.insert row).get? row.operationId = some row := Table.get?_insert_self h

/-- The ledger has the receipt of a request. -/
structure Remembers (R : PyRuntime) (a : LedgerAdmission) (receipt : PyValue) (m : StoredMemory) : Prop where
  valid : a.request.validate = .ok ()
  ledger : ¬ (a.request.projectId ≠ a.projectId ∨ a.request.governedIdentityId ≠ a.identityId)
  stored : ∃ row, m.operations.get? a.request.operationId = some row ∧
    requestDigest R a.request = .ok row.requestDigest ∧
    ∃ again, readJson R row.receiptJson = .ok again ∧ SameValue receipt again

theorem admit_remembers {receipt : PyValue} (h : admitTo R a m = .ok (receipt, m')) :
    Remembers R a receipt m' := by
  obtain ⟨hv, hl, ⟨row, hop, hd, hread, rfl⟩ | ⟨hop, hnew⟩⟩ := admitTo_ok h
  · exact ⟨hv, hl, row, hop, hd, receipt, hread, .inl rfl⟩
  · obtain ⟨-, -, digest, recordDigest, receiptJson, hd, hhead, rfl, hjson, hops⟩ := admitNew_stored hnew
    have hs : Settled R.py (receiptDoc a.request digest recordDigest m'.head _) :=
      receiptDoc_settled (safe_of_head hhead)
    rw [receiptFields_eq] at hjson ⊢
    obtain ⟨again, hread, hsame⟩ := reads_back hs hjson
    refine ⟨hv, hl, ⟨a.request.operationId, digest, a.request.recordId, receiptJson⟩, ?_, hd, again, hread,
      hsame⟩
    rw [hops]
    exact get?_insert hop

theorem operations_keep {receipt : PyValue} (h : admitTo R a m = .ok (receipt, m'))
    {operationId : String} {row : StoredOperation} (hrow : m.operations.get? operationId = some row) :
    m'.operations.get? operationId = some row := by
  obtain ⟨-, -, ⟨_, -, -, -, rfl⟩ | ⟨hop, hnew⟩⟩ := admitTo_ok h
  · exact hrow
  · obtain ⟨-, -, _, _, _, -, -, -, -, hops⟩ := admitNew_stored hnew
    rw [hops, Table.get?_insert_other]
    · exact hrow
    · rintro rfl
      rw [hop] at hrow
      cases hrow

theorem Remembers.keep {receipt : PyValue} (h : Remembers R a receipt m)
    (later : List LedgerAdmission) : Remembers R a receipt (runCalls (admitTo R) m later) := by
  obtain ⟨row, hrow, hrest⟩ := h.stored
  have hkept : (runCalls (admitTo R) m later).operations.get? a.request.operationId = some row :=
    runCalls_invariant (P := fun m => m.operations.get? a.request.operationId = some row) hrow
      fun _ _ _ _ hm hc => operations_keep hc hm
  exact ⟨h.valid, h.ledger, row, hkept, hrest⟩

/-- The same request, whatever head it names. -/
theorem Remembers.replay {receipt : PyValue} (h : Remembers R a receipt m)
    {expectedHead : String} (hne : expectedHead ≠ "") : ∃ again,
      admitTo R { a with call := ⟨a.request, expectedHead⟩ } m = .ok (again, m) ∧ SameValue receipt again := by
  obtain ⟨row, hrow, hd, again, hread, hsame⟩ := h.stored
  refine ⟨again, ?_, hsame⟩
  simp only [admitTo, admitRecord, bind_eq_ok, ite_error_ok, ↓throw_bind]
  refine ⟨(), h.valid, h.ledger, hne, ?_⟩
  simp only [hrow, bind_eq_ok, ite_error_ok, pure_ok]
  exact ⟨_, hd, not_not.2 rfl, again, hread, rfl⟩

theorem Remembers.conflict {a b : LedgerAdmission} {receipt : PyValue} (hsha : Function.Injective R.sha256)
    (h : Remembers R a receipt m) (hop : b.request.operationId = a.request.operationId)
    (hne : b.request ≠ a.request) : ∃ e, admitTo R b m = .error e := by
  cases hb : admitTo R b m with
  | error e => exact ⟨e, rfl⟩
  | ok r =>
    obtain ⟨receipt', m'⟩ := r
    obtain ⟨row, hrow, hd, -⟩ := h.stored
    rw [← hop] at hrow
    obtain ⟨-, -, ⟨row', hrow', hd', -, -⟩ | ⟨hnone, -⟩⟩ := admitTo_ok hb
    · rw [hrow, Option.some.injEq] at hrow'
      subst hrow'
      exact absurd hd' (requestDigest_ne hsha hne hd)
    · rw [hrow] at hnone
      cases hnone

/-! ## When an admission returns -/

theorem supersede_returns {records : StoredRecords} (h : ∀ p, request.supersedes = some p →
    ∃ row, records.get? p = some row ∧ row.status = .current) :
    ∃ records', supersede request records = .ok records' := by
  rw [supersede]
  cases hs : request.supersedes with
  | none => exact ⟨_, rfl⟩
  | some p =>
    obtain ⟨row, hrow, hcurrent⟩ := h p hs
    simp only [hrow, hcurrent, ne_eq, not_true, if_false]
    exact ⟨_, rfl⟩

theorem request_of_text {row : StoredMemoryRow} (h : Stores R request row) {digest : String}
    (ht : canonicalJson R.py (StoredLedger.dictOf (recordFields request' digest)) = .ok row.payloadJson) :
    request = request' := by
  obtain ⟨digest₀, htext⟩ := h.text
  have hs : Settled R.py (recordDoc request digest₀) := recordDoc_settled R.py
  have hs' : Settled R.py (recordDoc request' digest) := recordDoc_settled R.py
  rw [recordFields_eq, hs.canonicalJson, Except.ok.injEq] at htext
  rw [recordFields_eq, hs'.canonicalJson, Except.ok.injEq, ← htext, String.ofList_inj] at ht
  have hsorted := Json.obj.inj (dumps_injective hs'.readable hs.readable ht)
  have hdoc : recordDoc request digest₀ = recordDoc request' digest := entries_eq_of_perm rfl hs.nodup
    ((sortEntries_perm _).symm.trans (hsorted ▸ sortEntries_perm _))
  have hlist := congrArg List.dropLast hdoc
  exact requestDoc_injective hlist

/-- A valid admission at the head of the ledger returns when its record is new, what it supersedes
is current and the generation is one that canonical JSON can hold. -/
theorem admitNew_returns (hsha : Function.Injective R.sha256) {call : Admission}
    (hv : call.request.validate = .ok ()) (hhead : m.head = call.expectedHead)
    (hfresh : m.records.get? call.request.recordId = none)
    (hpred : ∀ p, call.request.supersedes = some p → ∃ row, m.records.get? p = some row ∧ row.status = .current)
    (hstored : ∀ row ∈ m.records.rows, ∃ request, Stores R request row ∧ request ≠ call.request)
    (hn : normalizeValue R.py .plain (.int (m.generation + 1 : Nat)) = .ok (.int (m.generation + 1 : Nat))) :
    ∃ receipt m', admitNew R call m = .ok (receipt, m') := by
  obtain ⟨records, hsup⟩ := supersede_returns hpred
  have hdigest : requestDigest R call.request =
      .ok (R.sha256Text (String.ofList (Json.obj (sortEntries (requestDoc call.request))).dumps)) := by
    rw [requestDigest, hv, ok_bind, fields_eq, digestOf_settled (requestDoc_settled R.py)]
  obtain ⟨payloadJson, htext⟩ : ∃ payloadJson, canonicalJson R.py (StoredLedger.dictOf
      (recordFields call.request
        (R.sha256Text (String.ofList (Json.obj (sortEntries (requestDoc call.request))).dumps)))) =
          .ok payloadJson := ⟨_, recordFields_eq ▸ (recordDoc_settled R.py).canonicalJson⟩
  have hinsert : ∀ row, row.recordDigest = R.sha256Text payloadJson →
      insertRecord row records = .ok (records.insert row) := by
    intro row hrow
    rw [insertRecord, if_neg]
    rw [List.any_eq_true]
    rintro ⟨r, hr, hsame⟩
    rw [(supersede_ok hsup).1] at hr
    obtain ⟨r₀, hr₀, rfl⟩ := List.mem_map.1 hr
    obtain ⟨request, hstores, hne⟩ := hstored r₀ hr₀
    have hmark : Stores R request (mark call.request r₀) := hstores.mark
    rw [decide_eq_true_eq, hmark.digest, hrow] at hsame
    have hpayload := String.toByteArray_inj.1 (hsha hsame)
    exact hne (request_of_text hmark (hpayload ▸ htext))
  simp only [admitNew, bind_eq_ok, ite_error_ok, ↓throw_bind, pure_ok]
  exact ⟨_, _, not_not.2 hhead, by simp [hfresh], records, hsup, _, hdigest, payloadJson, htext, _,
    hinsert _ rfl, _, headFields_eq ▸ digestOf_settled (headDoc_settled hn), _,
    receiptFields_eq ▸ (receiptDoc_settled hn).canonicalJson, rfl⟩

theorem admitTo_returns (hv : a.request.validate = .ok ())
    (hproject : a.request.projectId = a.projectId) (hidentity : a.request.governedIdentityId = a.identityId)
    (hne : a.call.expectedHead ≠ "") (hop : m.operations.get? a.request.operationId = none)
    (h : ∃ receipt m', admitNew R a.call m = .ok (receipt, m')) :
    ∃ receipt m', admitTo R a m = .ok (receipt, m') := by
  obtain ⟨receipt, m', h⟩ := h
  refine ⟨receipt, m', ?_⟩
  simp only [admitTo, admitRecord, bind_eq_ok, ite_error_ok, ↓throw_bind]
  refine ⟨(), hv, by simp [hproject, hidentity], hne, ?_⟩
  rw [hop]
  exact h

/-! ## Every run -/

theorem headOf_keep {receipt : PyValue} (hm : HeadOf R m.generation m.head)
    (h : admitTo R a m = .ok (receipt, m')) : HeadOf R m'.generation m'.head := by
  obtain ⟨-, -, ⟨_, -, -, -, rfl⟩ | ⟨-, hnew⟩⟩ := admitTo_ok h
  · exact hm
  · obtain ⟨-, hgen, _, recordDigest, _, -, hhead, -⟩ := admitNew_stored hnew
    exact hgen ▸ .inr ⟨_, _, recordDigest, hhead⟩

theorem headOf_run (calls : List LedgerAdmission) (h : HeadOf R m.generation m.head) :
    HeadOf R (runCalls (admitTo R) m calls).generation (runCalls (admitTo R) m calls).head :=
  runCalls_invariant (P := fun m => HeadOf R m.generation m.head) h fun _ _ _ _ hm ha => headOf_keep hm ha

theorem generation_le (calls : List LedgerAdmission) :
    m.generation ≤ (runCalls (admitTo R) m calls).generation := by
  refine runCalls_invariant (P := fun m' : StoredMemory => m.generation ≤ m'.generation) le_rfl fun s a receipt s' hs ha => ?_
  obtain ⟨-, -, ⟨_, -, -, -, rfl⟩ | ⟨-, hnew⟩⟩ := admitTo_ok ha
  · exact hs
  · exact hs.trans ((Nat.le_succ _).trans_eq (admitNew_stored hnew).2.1.symm)

/-- The admission raises, and changes nothing. -/
def Rejected (R : PyRuntime) (a : LedgerAdmission) (m : StoredMemory) : Prop :=
  (∃ e, admitTo R a m = .error e) ∧ commit (admitTo R) m a = m

theorem rejected_of (h : ∃ e, admitTo R a m = .error e) : Rejected R a m :=
  ⟨h, h.elim fun _ => commit_error⟩

/-- No operation that is new is admitted at the head at which another was. -/
theorem head_used (hsha : Function.Injective R.sha256) {a b : LedgerAdmission} {receipt : PyValue}
    (hm : HeadOf R m.generation m.head) (ha : admitTo R a m = .ok (receipt, m'))
    (hnew : m.operations.get? a.request.operationId = none) {later : List LedgerAdmission}
    (hb : (runCalls (admitTo R) m' later).operations.get? b.request.operationId = none)
    (hhead : b.call.expectedHead = a.call.expectedHead) :
    ∃ e, admitTo R b (runCalls (admitTo R) m' later) = .error e := by
  obtain ⟨-, -, ⟨_, hop, -⟩ | ⟨-, ha'⟩⟩ := admitTo_ok ha
  · rw [hnew] at hop
    cases hop
  · cases hr : admitTo R b (runCalls (admitTo R) m' later) with
    | error e => exact ⟨e, rfl⟩
    | ok r =>
      obtain ⟨receipt', m''⟩ := r
      obtain ⟨-, -, ⟨_, hop, -⟩ | ⟨-, hb'⟩⟩ := admitTo_ok hr
      · rw [hb] at hop
        cases hop
      · obtain ⟨hmh, hgen, -⟩ := admitNew_stored ha'
        have hbh := (admitNew_stored hb').1
        have hrun := headOf_run later (headOf_keep hm ha)
        rw [hbh, hhead, ← hmh] at hrun
        have hsame := hrun.unique hsha hm
        have hle := generation_le (R := R) (m := m') later
        omega

/-- After an admission, and whatever admissions come later: the same request gets the same receipt
and changes nothing, whatever head it names; another request of its operation is rejected; and if the
operation was new, so is every operation that is new and names the head it was admitted at. -/
theorem memory_admission (hsha : Function.Injective R.sha256) (before : List LedgerAdmission) :
    let m := runCalls (admitTo R) (new R) before
    ∀ a receipt m₁, admitTo R a m = .ok (receipt, m₁) → ∀ later,
      let m₂ := runCalls (admitTo R) m₁ later
      (∀ expectedHead, expectedHead ≠ "" → ∃ again,
        admitTo R { a with call := ⟨a.request, expectedHead⟩ } m₂ = .ok (again, m₂) ∧
          SameValue receipt again) ∧
      (∀ b : LedgerAdmission, b.request.operationId = a.request.operationId → b.request ≠ a.request →
        Rejected R b m₂) ∧
      ∀ b : LedgerAdmission, b.call.expectedHead = a.call.expectedHead →
        m.operations.get? a.request.operationId = none →
        m₂.operations.get? b.request.operationId = none → Rejected R b m₂ := by
  intro m a receipt m₁ ha later m₂
  have hremembers : Remembers R a receipt m₂ := (admit_remembers ha).keep later
  have hm : HeadOf R m.generation m.head := headOf_run before (.inl ⟨rfl, rfl⟩)
  refine ⟨fun _ hne => hremembers.replay hne, fun b hop hne => ?_, fun b hhead hnew hb => ?_⟩
  · exact rejected_of (hremembers.conflict hsha hop hne)
  · exact rejected_of (head_used hsha hm ha hnew hb hhead)

/-! ### Two admissions at a runtime that computes -/

/-- The admission of a record by an operation of its name. -/
def plainAdmission (id : String) (supersedes : Option String) (expectedHead : String) : LedgerAdmission :=
  ⟨"p", "g", ⟨⟨id, "t", .workingProject, "s", "r", "v", [], id, "p", "g", supersedes⟩, expectedHead⟩⟩

/-- The admissions of a record and of one that supersedes it. -/
def plainSuccession : List LedgerAdmission :=
  let first := plainAdmission "a" none (new plainRuntime).head
  [first, plainAdmission "b" (some "a") (runCalls (admitTo plainRuntime) (new plainRuntime) [first]).head]

/-- What holds of admissions after these two. -/
theorem memory_admission_plain :
    let m := runCalls (admitTo plainRuntime) (new plainRuntime) plainSuccession
    ∀ a receipt m₁, admitTo plainRuntime a m = .ok (receipt, m₁) → ∀ later,
      let m₂ := runCalls (admitTo plainRuntime) m₁ later
      (∀ expectedHead, expectedHead ≠ "" → ∃ again,
        admitTo plainRuntime { a with call := ⟨a.request, expectedHead⟩ } m₂ = .ok (again, m₂) ∧
          SameValue receipt again) ∧
      (∀ b : LedgerAdmission, b.request.operationId = a.request.operationId → b.request ≠ a.request →
        Rejected plainRuntime b m₂) ∧
      ∀ b : LedgerAdmission, b.call.expectedHead = a.call.expectedHead →
        m.operations.get? a.request.operationId = none →
        m₂.operations.get? b.request.operationId = none → Rejected plainRuntime b m₂ :=
  memory_admission plainDigest_injective plainSuccession

theorem plain_first : ∃ receipt m, admitTo plainRuntime (plainAdmission "a" none (new plainRuntime).head)
    (new plainRuntime) = .ok (receipt, m) := by
  have hfirst : (admitTo plainRuntime (plainAdmission "a" none (new plainRuntime).head)
      (new plainRuntime)).toBool = true := by decide +kernel
  obtain ⟨⟨receipt, m⟩, hm⟩ := toBool_iff.1 hfirst
  exact ⟨receipt, m, hm⟩

theorem plain_head_ne (h : HeadOf plainRuntime (n + 1) head) : head ≠ "" := by
  obtain ⟨h0, -⟩ | ⟨p, r, d, hd⟩ := h
  · cases h0
  · have hs : Settled plainRuntime.py (headDoc p (n + 1) r d) := headDoc_settled (safe_of_head hd)
    rw [headFields_eq, digestOf_settled hs, Except.ok.injEq] at hd
    rintro rfl
    have hempty : plainRuntime.sha256Text "" = "" := by decide +kernel
    have htext := String.toByteArray_inj.1 (plainDigest_injective (hd.trans hempty.symm))
    have hchars := congrArg String.toList htext
    rw [String.toList_ofList, Json.dumps, String.toList_empty] at hchars
    cases hchars

variable {receipt : PyValue}

theorem plain_ledger (h : admitTo plainRuntime (plainAdmission "a" none (new plainRuntime).head)
      (new plainRuntime) = .ok (receipt, m)) :
    (∃ row, m.records.rows = [row] ∧ row.status = .current ∧ row.supersededBy = none ∧
      Stores plainRuntime (plainAdmission "a" none "").request row) ∧ m.generation = 1 ∧ m.head ≠ "" ∧
      m.operations.get? "b" = none := by
  have hhead := headOf_keep (.inl ⟨rfl, rfl⟩) h
  obtain ⟨hv, -, ⟨_, hop, -⟩ | ⟨-, hnew⟩⟩ := admitTo_ok h
  · cases hop
  · obtain ⟨row, hstores, hcurrent, hby, hrows⟩ := (admitNew_ok hv hnew).rows
    obtain ⟨-, hgen, _, _, _, -, -, -, -, hops⟩ := admitNew_stored hnew
    refine ⟨⟨row, hrows, hcurrent, hby, hstores⟩, hgen, ?_, ?_⟩
    · rw [hgen] at hhead
      exact plain_head_ne hhead
    · rw [hops, Table.get?_insert_other]
      · rfl
      · exact fun heq => absurd (show "b" = "a" from heq) (by decide)

theorem plain_second (h : admitTo plainRuntime (plainAdmission "a" none (new plainRuntime).head)
      (new plainRuntime) = .ok (receipt, m)) {supersedes : Option String}
    (hs : supersedes = none ∨ supersedes = some "a") :
    ∃ receipt m', admitTo plainRuntime (plainAdmission "b" supersedes m.head) m = .ok (receipt, m') := by
  obtain ⟨⟨row, hrows, hcurrent, -, hstores⟩, hgen, hne, hop⟩ := plain_ledger h
  have hget : m.records.get? "a" = some row := by
    rw [← show row.recordId = "a" from hstores.recordId]
    exact Table.get?_of_mem (hrows ▸ List.mem_singleton_self row)
  have hv : (plainAdmission "b" supersedes m.head).request.validate = .ok () := by
    rcases hs with rfl | rfl <;> rfl
  refine admitTo_returns hv rfl rfl hne hop (admitNew_returns plainDigest_injective hv rfl ?_ ?_ ?_ ?_)
  · rw [Table.get?_eq_none, hrows, List.map_singleton, hstores.recordId, List.mem_singleton]
    exact fun heq => absurd (show "b" = "a" from heq) (by decide)
  · intro p hp
    rcases hs with rfl | rfl
    · cases hp
    · cases hp
      exact ⟨row, hget, hcurrent⟩
  · intro r hr
    rw [hrows, List.mem_singleton] at hr
    subst hr
    refine ⟨_, hstores, fun heq => ?_⟩
    exact absurd (show "a" = "b" from congrArg AdmissionRequest.recordId heq) (by decide)
  · rw [hgen]
    rfl

/-- A second record is admitted at the head that the first left, and then the first again. -/
theorem replay_shares_head : ¬ ∀ (before : List LedgerAdmission) (a b : LedgerAdmission) (receipt : PyValue)
    (m₁ : StoredMemory) (later : List LedgerAdmission),
    admitTo plainRuntime a (runCalls (admitTo plainRuntime) (new plainRuntime) before) = .ok (receipt, m₁) →
    b.request.operationId ≠ a.request.operationId → b.call.expectedHead = a.call.expectedHead →
    ∃ e, admitTo plainRuntime b (runCalls (admitTo plainRuntime) m₁ later) = .error e := by
  intro h
  obtain ⟨receipt, m, hm⟩ := plain_first
  obtain ⟨receipt', m₁, hm₁⟩ := plain_second hm (.inl rfl)
  have hbefore : runCalls (admitTo plainRuntime) (new plainRuntime)
      [plainAdmission "a" none (new plainRuntime).head] = m := commit_ok hm
  obtain ⟨again, hagain, -⟩ :=
    ((admit_remembers hm).keep [plainAdmission "b" none m.head]).replay (plain_ledger hm).2.2.1
  have hcommit : runCalls (admitTo plainRuntime) m [plainAdmission "b" none m.head] = m₁ := commit_ok hm₁
  rw [hcommit] at hagain
  obtain ⟨e, he⟩ := h [plainAdmission "a" none (new plainRuntime).head] (plainAdmission "b" none m.head)
    (plainAdmission "a" none m.head) receipt' m₁ [] (hbefore ▸ hm₁) (by simp [plainAdmission]) rfl
  cases hagain.symm.trans he

end StoredMemory

end VeraMono

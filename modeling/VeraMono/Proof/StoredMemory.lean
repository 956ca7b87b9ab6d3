import VeraMono.Framework.Lineage
import VeraMono.Model.StoredMemory
import VeraMono.Proof.StoredLedgers

/-!
# Memory supersession

What `admit` stored of a record parses back to the values it was given
(`strictRecordPayload_stored`), since none of its keys is that of a path or a timestamp.
An admission that adds a record adds a link to the lineage of the ledger and changes
the columns of the record it supersedes (`admit_ok`), so the columns always say what
the lineage says (`Inv.run`), and that is all `read` compares.
-/

namespace VeraMono

open Framework

/-! ## Dictionaries of a fixed form -/

section Documents
variable {py : Stdlib} {doc : List (String × Json)}

/-- The fields of a dictionary that holds normalised values. -/
def docFields (doc : List (String × Json)) : List (String × PyValue) := doc.map fun f => (f.1, f.2.toPy)

/-- Each value is normalised under its key already. -/
structure Settled (py : Stdlib) (doc : List (String × Json)) : Prop where
  nodup : (doc.map Prod.fst).Nodup
  settled : ∀ f ∈ doc, normalizeValue py (keyHint f.1) f.2.toPy = .ok f.2

theorem dictOf_docFields : StoredLedger.dictOf (docFields doc) = .dict (Json.toPyEntries doc) := by
  rw [toPyEntries_eq, StoredLedger.dictOf, docFields, List.map_map]
  rfl

theorem Settled.sorted (h : Settled py doc) : Settled py (sortEntries doc) where
  nodup := ((sortEntries_perm doc).map Prod.fst).nodup_iff.2 h.nodup
  settled f hf := h.settled f ((sortEntries_perm doc).mem_iff.1 hf)

theorem Settled.normalizes (h : Settled py doc) :
    normalizeValue py .plain (StoredLedger.dictOf (docFields doc)) = .ok (.obj (sortEntries doc)) := by
  have hkeys : (docFields doc).map Prod.fst = doc.map Prod.fst := by simp [docFields]
  refine (normalizeValue_dictOf (hkeys ▸ h.nodup)).2 ⟨doc, ?_, rfl⟩
  rw [docFields, List.forall₂_map_left_iff, List.forall₂_same]
  exact fun f hf => ⟨rfl, h.settled f hf⟩

/-- The text of the dictionary parses to one with the same text. -/
theorem Settled.canonicalJson (h : Settled py doc) :
    canonicalJson py (StoredLedger.dictOf (docFields doc)) =
      .ok (String.ofList (Json.obj (sortEntries doc)).dumps) := canonicalJson_ok h.normalizes

theorem Settled.reencodes (h : Settled py doc) :
    VeraMono.canonicalJson py (.dict (Json.toPyEntries (sortEntries doc))) =
      .ok (String.ofList (Json.obj (sortEntries doc)).dumps) := by
  have hs := h.sorted.canonicalJson
  rwa [dictOf_docFields, sortEntries_of_sorted (sortEntries_sorted doc)] at hs

theorem Settled.readable (h : Settled py doc) : (Json.obj (sortEntries doc)).Readable :=
  (normalizeValue_canonical _ h.normalizes).readable py _

theorem dictGet?_toPyEntries {es : List (String × Json)} (hn : (es.map Prod.fst).Nodup) {key : String}
    {j : Json} (h : (key, j) ∈ es) : dictGet? key (Json.toPyEntries es) = some j.toPy := by
  induction es with
  | nil => cases h
  | cons e es ih =>
    obtain ⟨hne, hn⟩ := List.nodup_cons.1 hn
    rcases List.mem_cons.1 h with rfl | h
    · simp [dictGet?, Json.toPyEntries, PyValue.keyText]
    · have hk : e.1 ≠ key := fun heq => hne (heq ▸ List.mem_map_of_mem (f := Prod.fst) h)
      have ih := ih hn h
      simp only [dictGet?] at ih ⊢
      rw [Json.toPyEntries, List.find?_cons_of_neg (by simpa [PyValue.keyText] using hk), ih]

theorem dictGet?_sorted (hn : (doc.map Prod.fst).Nodup) {key : String} {j : Json} (hj : (key, j) ∈ doc) :
    dictGet? key (Json.toPyEntries (sortEntries doc)) = some j.toPy :=
  dictGet?_toPyEntries (((sortEntries_perm doc).map Prod.fst).nodup_iff.2 hn)
    ((sortEntries_perm doc).mem_iff.2 hj)

end Documents

/-- What an element of the second list is related to. -/
theorem forall₂_mem_right {α β : Type} {r : α → β → Prop} {as : List α} {bs : List β}
    (h : List.Forall₂ r as bs) {b : β} (hb : b ∈ bs) : ∃ a ∈ as, r a b := by
  induction h with
  | nil => cases hb
  | @cons a b' as bs hr _ ih =>
    rcases List.mem_cons.1 hb with rfl | hb
    · exact ⟨a, List.mem_cons_self, hr⟩
    · obtain ⟨a', ha', hr'⟩ := ih hb
      exact ⟨a', List.mem_cons_of_mem _ ha', hr'⟩

theorem forall₂_mem_left {α β : Type} {r : α → β → Prop} {as : List α} {bs : List β}
    (h : List.Forall₂ r as bs) {a : α} (ha : a ∈ as) : ∃ b ∈ bs, r a b :=
  forall₂_mem_right h.flip ha

namespace StoredMemory

variable {R : PyRuntime} {request : AdmissionRequest} {digest : String} {m m' : StoredMemory}

/-! ## A record and its text -/

/-- A string or `null`. -/
def jsonOptional : Option String → Json
  | some s => .str s
  | none => .null

/-- The document of `_record_payload`. -/
def recordDoc (request : AdmissionRequest) (digest : String) : List (String × Json) :=
  [("record_id", .str request.recordId), ("text", .str request.text),
    ("memory_class", .str request.memoryClass.value), ("source_actor", .str request.sourceActor),
    ("authority_ref", .str request.authorityRef), ("privacy_ref", .str request.privacyRef),
    ("provenance_refs", .arr (request.provenanceRefs.map .str)),
    ("operation_id", .str request.operationId), ("project_id", .str request.projectId),
    ("governed_identity_id", .str request.governedIdentityId),
    ("supersedes", jsonOptional request.supersedes), ("request_digest", .str digest)]

theorem toPyItems_strs (refs : List String) : Json.toPyItems (refs.map .str) = refs.map pyStr := by
  rw [toPyItems_eq, List.map_map]
  rfl

theorem jsonOptional_toPy (s : Option String) : (jsonOptional s).toPy = pyOptional s := by
  cases s <;> rfl

theorem recordFields_eq : recordFields request digest = docFields (recordDoc request digest) := by
  simp [recordFields, AdmissionRequest.fields, docFields, recordDoc, Json.toPy, toPyItems_strs,
    jsonOptional_toPy, pyStr]

theorem normalizeValues_strs {py : Stdlib} (refs : List String) :
    normalizeValues py (refs.map pyStr) = .ok (refs.map .str) := by
  induction refs with
  | nil => rfl
  | cons r refs ih =>
    rw [List.map_cons, List.map_cons, normalizeValues, ih]
    rfl

theorem recordDoc_plain : ∀ f ∈ recordDoc request digest, keyHint f.1 = .plain := by
  have hkeys : (["record_id", "text", "memory_class", "source_actor", "authority_ref", "privacy_ref",
      "provenance_refs", "operation_id", "project_id", "governed_identity_id", "supersedes",
      "request_digest"].all fun key => keyHint key = .plain) = true := by decide +kernel
  intro f hf
  have hmem : f.1 ∈ (recordDoc request digest).map Prod.fst := List.mem_map_of_mem hf
  exact of_decide_eq_true (List.all_eq_true.1 hkeys _ hmem)

theorem recordDoc_nodup : ((recordDoc request digest).map Prod.fst).Nodup :=
  (by decide : ["record_id", "text", "memory_class", "source_actor", "authority_ref", "privacy_ref",
    "provenance_refs", "operation_id", "project_id", "governed_identity_id", "supersedes",
    "request_digest"].Nodup)

theorem recordDoc_settled (py : Stdlib) : Settled py (recordDoc request digest) where
  nodup := recordDoc_nodup
  settled f hf := by
    rw [recordDoc_plain f hf]
    simp only [recordDoc, List.mem_cons, List.not_mem_nil, or_false] at hf
    rcases hf with rfl | rfl | rfl | rfl | rfl | rfl | rfl | rfl | rfl | rfl | rfl | rfl
    case inr.inr.inr.inr.inr.inr.inl =>
      rw [Json.toPy, toPyItems_strs, normalizeValue, normalizeValues_strs]
      rfl
    case inr.inr.inr.inr.inr.inr.inr.inr.inr.inr.inl => cases request.supersedes <;> rfl
    all_goals rfl

/-- A row has the text of a record and its digest. -/
structure Stores (R : PyRuntime) (request : AdmissionRequest) (row : StoredMemoryRow) : Prop where
  valid : request.validate = .ok ()
  recordId : row.recordId = request.recordId
  supersedes : row.supersedesId = request.supersedes
  text : ∃ digest, canonicalJson R.py (StoredLedger.dictOf (recordFields request digest)) = .ok row.payloadJson
  digest : row.recordDigest = R.sha256Text row.payloadJson

def parsed (request : AdmissionRequest) (digest : String) : List (PyValue × PyValue) :=
  Json.toPyEntries (sortEntries (recordDoc request digest))

theorem uniqueObject_pairsOf : ∀ (es : List (String × Json)) (seen : List Text),
    (es.map Prod.fst).Nodup → (∀ k ∈ es.map Prod.fst, Text.valid k ∉ seen) →
    uniqueObject seen (pairsOf es) = .ok (Json.toPyEntries es)
  | [], _, _, _ => rfl
  | (k, j) :: es, seen, hn, hs => by
    obtain ⟨hk, hn⟩ := List.nodup_cons.mp hn
    have hrest : ∀ l ∈ es.map Prod.fst, Text.valid l ∉ Text.valid k :: seen := by
      intro l hl hm
      rcases List.mem_cons.mp hm with h | h
      · exact hk (Text.valid.inj h ▸ hl)
      · exact hs l (List.mem_cons_of_mem _ hl) h
    have ih := uniqueObject_pairsOf es (.valid k :: seen) hn hrest
    have hks : Text.valid k ∉ seen := hs k (by simp)
    rw [pairsOf] at ih ⊢
    simp [uniqueObject, hks, ih, Except.map, Json.toPyEntries]

theorem recordHooks_keepsEntries : (recordHooks R).KeepsEntries := fun es hn =>
  uniqueObject_pairsOf es [] hn (by simp)

/-- A value of the record, read back. -/
theorem parsed_get? {key : String} {j : Json} (hj : (key, j) ∈ recordDoc request digest) :
    dictGet? key (parsed request digest) = some j.toPy := dictGet?_sorted recordDoc_nodup hj

theorem parsed_get {key : String} {j : Json} (hj : (key, j) ∈ recordDoc request digest) :
    dictGet key (parsed request digest) = .ok j.toPy := by rw [dictGet, parsed_get? hj]

theorem parsed_id : dictGet? "record_id" (parsed request digest) = some (pyStr request.recordId) :=
  parsed_get? (j := .str request.recordId) (by simp [recordDoc])

theorem parsed_supersedes :
    dictGet? "supersedes" (parsed request digest) = some (pyOptional request.supersedes) :=
  jsonOptional_toPy request.supersedes ▸
    parsed_get? (j := jsonOptional request.supersedes) (by simp [recordDoc])

variable {admitted : List AdmissionRequest} {row : StoredMemoryRow}
  {records records' : StoredRecords}

theorem strictRecordPayload_stored (h : Stores R request row) :
    ∃ digest, strictRecordPayload R row.payloadJson row.recordId row.recordDigest =
      .ok (parsed request digest) := by
  obtain ⟨digest, htext⟩ := h.text
  have hs : Settled R.py (recordDoc request digest) := recordDoc_settled R.py
  rw [recordFields_eq, hs.canonicalJson, Except.ok.injEq] at htext
  have hload : jsonLoads (recordHooks R) row.payloadJson = .ok (.dict (parsed request digest)) :=
    htext ▸ jsonLoads_dumps recordHooks_keepsEntries hs.readable
  have hcanon : canonicalJson R.py (.dict (parsed request digest)) = .ok row.payloadJson :=
    htext ▸ hs.reencodes
  refine ⟨digest, ?_⟩
  rw [strictRecordPayload, hload]
  simp [parsed_id, pyStr, PyValue.isText, h.recordId, hcanon, h.digest]

/-! ## Admissions -/

/-- The records and what they supersede. -/
def lineage (m : StoredMemory) : Lineage String := m.records.rows.map fun r => ⟨r.recordId, r.supersedesId⟩

/-- What an admission does to a row that is there. -/
def mark (request : AdmissionRequest) (row : StoredMemoryRow) : StoredMemoryRow :=
  if request.supersedes = some row.recordId then
    { row with status := .superseded, supersededBy := some request.recordId }
  else row

@[simp] theorem mark_recordId {row : StoredMemoryRow} : (mark request row).recordId = row.recordId := by
  unfold mark; split <;> rfl

@[simp] theorem mark_supersedesId {row : StoredMemoryRow} :
    (mark request row).supersedesId = row.supersedesId := by
  unfold mark; split <;> rfl

theorem Stores.mark {request' : AdmissionRequest} (h : Stores R request row) :
    Stores R request (mark request' row) := by
  unfold StoredMemory.mark
  split
  · exact ⟨h.valid, h.recordId, h.supersedes, h.text, h.digest⟩
  · exact h

structure Adds (R : PyRuntime) (request : AdmissionRequest) (m m' : StoredMemory) : Prop where
  fresh : m.records.get? request.recordId = none
  predecessor : ∀ p, request.supersedes = some p → ∃ row, m.records.get? p = some row ∧ row.status = .current
  rows : ∃ row, Stores R request row ∧ row.status = .current ∧ row.supersededBy = none ∧
    m'.records.rows = m.records.rows.map (mark request) ++ [row]
  generation : m'.generation = m.generation + 1

theorem supersede_ok (h : supersede request records = .ok records') :
    records'.rows = records.rows.map (mark request) ∧
      ∀ p, request.supersedes = some p → ∃ row, records.get? p = some row ∧ row.status = .current := by
  unfold supersede at h
  cases hs : request.supersedes with
  | none =>
    rw [hs] at h
    cases h
    refine ⟨?_, fun p hp => (by cases hp)⟩
    have hmark : mark request = id := funext fun row => by simp [mark, hs]
    rw [hmark, List.map_id]
  | some p =>
    simp only [hs] at h
    cases hrow : records.get? p with
    | none =>
      rw [hrow] at h
      cases h
    | some row =>
      simp only [hrow, ite_error_ok, not_not] at h
      obtain ⟨hcur, h⟩ := h
      cases h
      refine ⟨List.map_congr_left fun r hr => ?_, fun q hq => ?_⟩
      · have hid : row.recordId = p := Table.get?_key hrow
        by_cases heq : r.recordId = row.recordId
        · have hr' : r = row := List.inj_on_of_nodup_map records.nodup hr (Table.mem_of_get? hrow) heq
          rw [if_pos heq, mark, if_pos (by rw [hs, hr', hid]), hr']
        · rw [if_neg heq, mark, if_neg fun h => heq (by rw [hid]; exact (Option.some.inj (hs ▸ h)).symm)]
      · cases hq
        exact ⟨row, hrow, hcur⟩

theorem get?_of_ids {k : String}
    (h : records'.rows.map StoredMemoryRow.recordId = records.rows.map StoredMemoryRow.recordId)
    (hk : records.get? k = none) : records'.get? k = none := by
  rw [Table.get?_eq_none, h]
  exact Table.get?_eq_none.1 hk

theorem insertRecord_ok
    (h : insertRecord row records = .ok records') (hk : records.get? row.recordId = none) :
    records'.rows = records.rows ++ [row] := by
  rw [insertRecord, ite_error_ok] at h
  cases h.2
  exact Table.rows_insert hk

theorem admitNew_ok {call : Admission} {receipt : PyValue} (hv : call.request.validate = .ok ())
    (h : admitNew R call m = .ok (receipt, m')) : Adds R call.request m m' := by
  simp only [admitNew, bind_eq_ok, ite_error_ok, ↓throw_bind, pure_ok, Bool.not_eq_true,
    Option.isSome_eq_false_iff, Option.isNone_iff_eq_none] at h
  obtain ⟨-, hfresh, records, hsup, digest, -, payloadJson, htext, records', hins, head, -, receiptJson, -,
    h⟩ := h
  cases h
  obtain ⟨hrows, hpred⟩ := supersede_ok hsup
  have hnone : records.get? call.request.recordId = none := get?_of_ids (by simp [hrows]) hfresh
  have hins := insertRecord_ok hins hnone
  exact ⟨hfresh, hpred, ⟨_, ⟨hv, rfl, rfl, ⟨digest, htext⟩, rfl⟩, rfl, rfl, by rw [hins, hrows]⟩, rfl⟩

/-- An admission that returns adds a record, or its operation was seen before. -/
theorem admit_ok {projectId identityId : String} {call : Admission} {receipt : PyValue}
    (h : admitRecord R projectId identityId call m = .ok (receipt, m')) :
    (m.operations.get? call.request.operationId = none ∧ Adds R call.request m m') ∨
      (m.operations.get? call.request.operationId ≠ none ∧ m' = m) := by
  simp only [admitRecord, bind_eq_ok, ite_error_ok, ↓throw_bind] at h
  obtain ⟨_, hv, -, -, h⟩ := h
  cases hop : m.operations.get? call.request.operationId with
  | none =>
    rw [hop] at h
    exact .inl ⟨rfl, admitNew_ok hv h⟩
  | some replay =>
    simp only [hop, bind_eq_ok, ite_error_ok, pure_ok] at h
    obtain ⟨_, -, -, _, -, hr⟩ := h
    cases hr
    exact .inr ⟨by simp, rfl⟩

/-! ## The invariant -/

/-- The columns say what the lineage says, and each row holds the record it was admitted with. -/
structure Inv (R : PyRuntime) (m : StoredMemory) (admitted : List AdmissionRequest) : Prop where
  lineage : m.lineage.Admitted
  stored : List.Forall₂ (Stores R) admitted m.records.rows
  supersededBy : ∀ row ∈ m.records.rows, row.supersededBy = m.lineage.successor row.recordId
  status : ∀ row ∈ m.records.rows, row.status = .current ↔ row.supersededBy = none
  generation : m.generation = admitted.length

theorem Inv.new : Inv R (new R) [] where
  lineage := .nil
  stored := .nil
  supersededBy _ h := (by cases h)
  status _ h := (by cases h)
  generation := rfl

theorem ids_lineage : m.lineage.ids = m.records.rows.map StoredMemoryRow.recordId := by
  rw [StoredMemory.lineage, Lineage.ids, List.map_map]
  rfl

theorem Inv.adds (hi : Inv R m admitted) (ha : Adds R request m m') :
    Inv R m' (admitted ++ [request]) := by
  obtain ⟨row, hstores, hcur, hby, hrows⟩ := ha.rows
  have hlin : m'.lineage = m.lineage ++ [⟨request.recordId, request.supersedes⟩] := by
    simp [StoredMemory.lineage, hrows, Function.comp_def, hstores.recordId, hstores.supersedes]
  have hfresh : request.recordId ∉ m.lineage.ids := by
    rw [ids_lineage]
    exact Table.get?_eq_none.1 ha.fresh
  -- the record that is superseded was current, so it had no successor
  have hpred : ∀ p, request.supersedes = some p → p ∈ m.lineage.ids ∧ m.lineage.successor p = none := by
    intro p hp
    obtain ⟨r, hr, hc⟩ := ha.predecessor p hp
    have hmem := Table.mem_of_get? hr
    have hid := Table.get?_key hr
    refine ⟨ids_lineage ▸ hid ▸ List.mem_map_of_mem hmem, ?_⟩
    rw [← hid, ← hi.supersededBy r hmem]
    exact (hi.status r hmem).1 hc
  have hother : m.lineage.successor request.recordId = none :=
    Lineage.successor_eq_none.2 fun k hk => hfresh (hi.lineage.mem_of_supersedes hk)
  have hself : request.supersedes ≠ some request.recordId := fun h => hfresh (hpred _ h).1
  have hforall {P : StoredMemoryRow → Prop} (hold : ∀ r ∈ m.records.rows, P (mark request r)) (hnew : P row) :
      ∀ r ∈ m'.records.rows, P r := by
    rw [hrows]
    refine List.forall_mem_append.2 ⟨List.forall_mem_map.2 hold, ?_⟩
    exact fun r hr => List.mem_singleton.1 hr ▸ hnew
  refine ⟨?_, ?_, hforall (fun r hr => ?_) ?_, hforall (fun r hr => ?_) ?_, ?_⟩
  · rw [hlin]
    exact .append hi.lineage hfresh fun p hp => ⟨(hpred p hp).1, Lineage.successor_eq_none.1 (hpred p hp).2⟩
  · rw [hrows]
    refine List.rel_append ?_ (.cons hstores .nil)
    rw [List.forall₂_map_right_iff]
    exact hi.stored.imp fun _ _ h => h.mark
  · rw [hlin, mark_recordId]
    by_cases hs : request.supersedes = some r.recordId
    · rw [mark, if_pos hs, Lineage.successor_append_self hs (hpred _ hs).2]
    · rw [mark, if_neg hs, Lineage.successor_append hs]
      exact hi.supersededBy r hr
  · rw [hby, hlin, hstores.recordId, Lineage.successor_append hself, hother]
  · unfold mark
    split
    · simp
    · exact hi.status r hr
  · simp [hcur, hby]
  · rw [ha.generation, hi.generation, List.length_append]
    rfl

/-- The records that a run of calls adds. -/
def admissions (R : PyRuntime) (projectId identityId : String) (m : StoredMemory) :
    List Admission → List AdmissionRequest
  | [] => []
  | call :: calls =>
    (match StoredMemory.admitRecord R projectId identityId call m with
      | .ok _ => if m.operations.get? call.request.operationId = none then [call.request] else []
      | .error _ => []) ++
    admissions R projectId identityId (commit (StoredMemory.admitRecord R projectId identityId) m call) calls

theorem Inv.run {projectId identityId : String} {calls : List Admission}
    (hi : Inv R m admitted) : Inv R (runCalls (StoredMemory.admitRecord R projectId identityId) m calls)
      (admitted ++ admissions R projectId identityId m calls) := by
  induction calls generalizing m admitted with
  | nil => simpa [admissions, runCalls] using hi
  | cons call calls ih =>
    rw [admissions, ← List.append_assoc]
    refine ih ?_
    cases h : StoredMemory.admitRecord R projectId identityId call m with
    | error e => simpa [commit_error h] using hi
    | ok r =>
      obtain ⟨receipt, m'⟩ := r
      rw [commit_ok h]
      rcases admit_ok h with ⟨hop, hadds⟩ | ⟨hop, hsame⟩
      · simpa only [if_pos hop] using hi.adds hadds
      · simpa only [if_neg hop, List.append_nil, hsame] using hi

/-! ## What `read` returns -/

/-- A record has the fields of a request. -/
structure Carries (record : MemoryRecord) (request : AdmissionRequest) : Prop where
  recordId : record.recordId = pyStr request.recordId
  text : record.text = pyStr request.text
  memoryClass : record.memoryClass = request.memoryClass
  sourceActor : record.sourceActor = pyStr request.sourceActor
  authorityRef : record.authorityRef = pyStr request.authorityRef
  privacyRef : record.privacyRef = pyStr request.privacyRef
  provenanceRefs : record.provenanceRefs = request.provenanceRefs.map pyStr
  operationId : record.operationId = pyStr request.operationId
  projectId : record.projectId = pyStr request.projectId
  governedIdentityId : record.governedIdentityId = pyStr request.governedIdentityId
  supersedes : record.supersedes = pyOptional request.supersedes

theorem toRecord_parsed (row : StoredMemoryRow) : ∃ record, toRecord (parsed request digest) row = .ok record ∧
    Carries record request ∧ record.status = row.status ∧ record.supersededBy = row.supersededBy := by
  have hclass : MemoryClass.ofValue (Json.str request.memoryClass.value).toPy = .ok request.memoryClass := by
    cases request.memoryClass <;> decide
  have hget : ∀ f ∈ recordDoc request digest, dictGet f.1 (parsed request digest) = .ok f.2.toPy :=
    fun f hf => parsed_get hf
  simp only [recordDoc, List.forall_mem_cons, List.not_mem_nil, false_implies, implies_true, and_true] at hget
  obtain ⟨h1, h2, h3, h4, h5, h6, h7, h8, h9, h10, h11, -⟩ := hget
  simp only [toRecord, h1, h2, h3, h4, h5, h6, h7, h8, h9, h10, h11, ok_bind, hclass]
  refine ⟨_, rfl, ⟨rfl, rfl, rfl, rfl, rfl, rfl, ?_, rfl, rfl, rfl, jsonOptional_toPy _⟩, rfl, rfl⟩
  exact toPyItems_strs _

theorem supersedes_of_row {p : String} (hrow : row ∈ m.records.rows)
    (hs : row.supersedesId = some p) : m.lineage.Supersedes p row.recordId :=
  List.mem_map.2 ⟨row, hrow, by rw [hs]⟩

/-- The rows that name a record as the one they supersede. -/
theorem filter_of_successor_none {recordId : String} (h : m.lineage.successor recordId = none) :
    (m.records.rows.filter fun r => r.supersedesId = some recordId) = [] := by
  rw [List.filter_eq_nil_iff]
  intro r hr hs
  rw [decide_eq_true_eq] at hs
  exact Lineage.successor_eq_none.1 h r.recordId (supersedes_of_row hr hs)

theorem filter_of_successor {recordId k : String} (hl : m.lineage.Admitted)
    (h : m.lineage.successor recordId = some k) :
    ∃ row ∈ m.records.rows, row.recordId = k ∧ row.supersedesId = some recordId ∧
      (m.records.rows.filter fun r => r.supersedesId = some recordId) = [row] := by
  obtain ⟨row, hrow, hlink⟩ := List.mem_map.1 (Lineage.supersedes_of_successor h)
  obtain ⟨hid, hsup⟩ : row.recordId = k ∧ row.supersedesId = some recordId := by simpa using hlink
  refine ⟨row, hrow, hid, hsup, ?_⟩
  have honly : ∀ r ∈ m.records.rows.filter (fun r => r.supersedesId = some recordId), r = row := by
    intro r hr
    obtain ⟨hmem, hs⟩ := List.mem_filter.1 hr
    rw [decide_eq_true_eq] at hs
    have hid' := hl.unique (supersedes_of_row hmem hs) (Lineage.supersedes_of_successor h)
    exact List.inj_on_of_nodup_map m.records.nodup hmem hrow (hid'.trans hid.symm)
  have hnodup : (m.records.rows.filter fun r => r.supersedesId = some recordId).Nodup :=
    (List.Nodup.of_map _ m.records.nodup).filter _
  have hmem : row ∈ m.records.rows.filter fun r => r.supersedesId = some recordId :=
    List.mem_filter.2 ⟨hrow, by simpa using hsup⟩
  refine List.perm_singleton.1 ((List.perm_ext_iff_of_nodup hnodup (List.nodup_singleton _)).2 fun r => ?_)
  rw [List.mem_singleton]
  exact ⟨honly r, fun h => h ▸ hmem⟩

theorem recordId_ne_empty (h : request.validate = .ok ()) : request.recordId ≠ "" := by
  intro he
  simp [AdmissionRequest.validate, he] at h

/-- The columns of a row pass the check against the record of its successor. -/
theorem Inv.columnsAgree (hi : Inv R m admitted)
    (hrow : row ∈ m.records.rows) : ∃ successorId, successorOf R row.recordId m.records = .ok successorId ∧
      columnsAgree row successorId = true := by
  have hby := hi.supersededBy row hrow
  have hst := hi.status row hrow
  cases hs : m.lineage.successor row.recordId with
  | none =>
    refine ⟨none, by rw [successorOf, filter_of_successor_none hs], ?_⟩
    simp [StoredMemory.columnsAgree, hby, hs, hst.2 (hby.trans hs)]
  | some k =>
    obtain ⟨next, hnext, hid, hsup, hfilter⟩ := filter_of_successor hi.lineage hs
    obtain ⟨request, -, hstores⟩ := forall₂_mem_right hi.stored hnext
    obtain ⟨digest, hread⟩ := strictRecordPayload_stored hstores
    have hne : k ≠ "" := hid ▸ hstores.recordId ▸ recordId_ne_empty hstores.valid
    have hpred : request.supersedes = some row.recordId := hstores.supersedes.symm.trans hsup
    refine ⟨some (pyStr k), ?_, ?_⟩
    · have hid' : request.recordId = k := hstores.recordId.symm.trans hid
      rw [successorOf, hfilter]
      simp [hread, parsed_supersedes, hpred, pyOptional, pyStr, PyValue.isText, parsed_id, ok_bind, hid']
      rfl
    · have hsuper : row.status = .superseded := by
        cases hcur : row.status with
        | superseded => rfl
        | current => exact absurd (hst.1 hcur) (by simp [hby, hs])
      simp [StoredMemory.columnsAgree, hby, hs, hsuper, pyStr, PyValue.isText, hne]

theorem Inv.read (hi : Inv R m admitted) (hreq : request ∈ admitted)
    {expectedHead : Option String} (hhead : expectedHead.all fun head => head = m.head) :
    ∃ row ∈ m.records.rows, ∃ record, StoredMemory.read R request.recordId expectedHead m = .ok record ∧
      Carries record request ∧ row.recordId = request.recordId ∧ record.status = row.status ∧
      record.supersededBy = row.supersededBy := by
  obtain ⟨row, hrow, hstores⟩ := forall₂_mem_left hi.stored hreq
  obtain ⟨digest, hread⟩ := strictRecordPayload_stored hstores
  obtain ⟨successorId, hsucc, hagree⟩ := hi.columnsAgree hrow
  obtain ⟨record, hrecord, hcarries, hstatus, hby⟩ :=
    @toRecord_parsed request digest row
  have hget : m.records.get? request.recordId = some row := hstores.recordId ▸ Table.get?_of_mem hrow
  have hlin : (pyOptional request.supersedes).isOptional row.supersedesId = true := by
    rw [hstores.supersedes]
    cases request.supersedes <;> simp [pyOptional, pyStr, PyValue.isOptional, PyValue.isText]
  rw [hstores.recordId] at hread hsucc
  refine ⟨row, hrow, record, ?_, hcarries, hstores.recordId, hstatus, hby⟩
  have hstale : ¬ (expectedHead.any fun head => head ≠ m.head) = true := by
    cases expectedHead <;> simp_all
  rw [StoredMemory.read, if_neg hstale]
  simp [hget, hread, parsed_supersedes, hlin, hsucc, hagree, hrecord, ok_bind]

/-! ## Every run -/

/-- What holds of a ledger and the records that were admitted to it, in that order. -/
structure SupersessionLaw (R : PyRuntime) (m : StoredMemory) (admitted : List AdmissionRequest) : Prop where
  /-- The records are those that were admitted, each with the link it was admitted with. -/
  links : m.lineage = admitted.map fun request => ⟨request.recordId, request.supersedes⟩
  distinct : m.lineage.ids.Nodup
  chains : ∃ chains, m.lineage.Chains chains
  acyclic : ∀ k, ¬ Relation.TransGen m.lineage.Supersedes k k
  unique : ∀ p k k', m.lineage.Supersedes p k → m.lineage.Supersedes p k' → k = k'
  current : ∀ row ∈ m.records.rows, row.status = .current ↔ ∀ k, ¬ m.lineage.Supersedes row.recordId k
  supersededBy : ∀ row ∈ m.records.rows, ∀ k,
    row.supersededBy = some k ↔ m.lineage.Supersedes row.recordId k
  reads : ∀ request ∈ admitted, ∀ expectedHead, (expectedHead.all fun head => head = m.head) →
    ∃ row ∈ m.records.rows, ∃ record, read R request.recordId expectedHead m = .ok record ∧
      Carries record request ∧ row.recordId = request.recordId ∧ record.status = row.status ∧
      record.supersededBy = row.supersededBy
  generation : m.generation = admitted.length

theorem links_of_stored {rows : List StoredMemoryRow}
    (h : List.Forall₂ (Stores R) admitted rows) :
    admitted.map (fun request => (⟨request.recordId, request.supersedes⟩ : Link String)) =
      rows.map fun row => ⟨row.recordId, row.supersedesId⟩ := by
  induction h with
  | nil => rfl
  | cons h _ ih => rw [List.map_cons, List.map_cons, ih, h.recordId, h.supersedes]

theorem Inv.law (hi : Inv R m admitted) : SupersessionLaw R m admitted where
  links := (links_of_stored hi.stored).symm
  distinct := hi.lineage.nodup
  chains := hi.lineage.chains
  acyclic := hi.lineage.acyclic
  unique _ _ _ := hi.lineage.unique
  current row hrow := by rw [hi.status row hrow, hi.supersededBy row hrow, Lineage.successor_eq_none]
  supersededBy row hrow k := by rw [hi.supersededBy row hrow, hi.lineage.successor_iff]
  reads _ hreq _ hhead := hi.read hreq hhead
  generation := hi.generation

/-- Whatever admissions are asked of a new ledger, in whatever order, and with whatever
heads: the records form disjoint chains that the columns and `read` report as they are,
and an admission that raises leaves the database as it was. -/
theorem memory_supersession (R : PyRuntime) (projectId identityId : String) (calls : List Admission) :
    let m := runCalls (admitRecord R projectId identityId) (new R) calls
    SupersessionLaw R m (admissions R projectId identityId (new R) calls) ∧
      ∀ call e, admitRecord R projectId identityId call m = .error e →
        commit (admitRecord R projectId identityId) m call = m :=
  ⟨(Inv.new.run).law, fun _ _ => commit_error⟩

end StoredMemory

end VeraMono

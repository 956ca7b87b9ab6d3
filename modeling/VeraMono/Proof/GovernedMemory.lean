import VeraMono.Framework.Checks
import VeraMono.Framework.Lineage
import VeraMono.Framework.Readers
import VeraMono.Model.GovernedMemory

/-!
# The governed memory store keeps its integrity

The store is determined by the list of its admissions (`Holds`): each has a record, sealed with the
status that the links of all admissions give it, and an operation. So it verifies whenever it is
read (`readUnlocked_ok`), and an admission appends itself to the list (`admit_ok`).
`Holds.chained_iff` says when the records form chains, and `store_integrity` that the rest holds
whatever the processes do; `blank_superseded` is the record that a chain loses.
-/

namespace VeraMono.GovernedMemory

open Framework GovernedMemoryStore

variable {D Key : Type}

/-! ## The store of a list of admissions -/

/-- A request that was admitted, and the bindings it was admitted on. -/
structure Admission (D : Type) where
  payload : AdmissionPayload
  authority : PolicyBinding D
  privacy : PolicyBinding D

/-- The records and what they supersede. -/
def links (admissions : List (Admission D)) : Lineage String :=
  admissions.map fun a => ⟨a.payload.recordId, a.payload.predecessor⟩

namespace Admission

variable (S : GovernedMemoryStore D Key) (ls : Lineage String) (a : Admission D)

def body : AdmissionBody D := S.admissionBody a.payload a.authority a.privacy

/-- The record of an admission among others. -/
def record : MemoryRecord D :=
  S.sealRecord (a.body S) (if (ls.successor a.payload.recordId).isSome then "SUPERSEDED" else "CURRENT")
    (ls.successor a.payload.recordId)

def operation : String × MemoryOperation D :=
  (a.payload.operationId, S.sealOperation (S.requestDigest a.payload) (S.sealReceipt (S.receiptBody (a.body S))))

variable {S ls a}

@[simp] theorem record_recordId : (a.record S ls).recordId = a.payload.recordId := rfl

theorem status_iff : (a.record S ls).status = "CURRENT" ↔ ls.successor a.payload.recordId = none := by
  change (if (ls.successor a.payload.recordId).isSome then "SUPERSEDED" else "CURRENT") = "CURRENT" ↔ _
  cases ls.successor a.payload.recordId <;> simp

end Admission

section Holds
variable [DecidableEq D] {S : GovernedMemoryStore D Key} {admissions : List (Admission D)} {a b : Admission D}
  {data : MemoryStore D} {file file' : StoreFile D} {ls : Lineage String}

/-- The request is about the store's identity, and its bindings were checked. -/
structure Admission.Bound (S : GovernedMemoryStore D Key) (a : Admission D) : Prop where
  project : a.payload.projectId = S.project
  identity : a.payload.governedIdentityId = S.identity
  authority : S.binding a.payload.authorityBindingId (S.requestDigest a.payload) .authority = .ok a.authority
  privacy : S.binding a.payload.privacyBindingId (S.requestDigest a.payload) .privacy = .ok a.privacy

structure Admissible (S : GovernedMemoryStore D Key) (admissions : List (Admission D)) : Prop where
  lineage : (links admissions).Admitted
  operations : (admissions.map fun a => a.payload.operationId).Nodup
  bound : ∀ a ∈ admissions, a.Bound S

/-- The store that the admissions make. -/
structure Holds (S : GovernedMemoryStore D Key) (admissions : List (Admission D)) (data : MemoryStore D) :
    Prop where
  schema : data.schema = "VERA_R8A0_GOVERNED_MEMORY_STORE_V4"
  sealed : data = S.sealStore data.toStoreBody
  generation : data.generation = admissions.length
  records : data.records = admissions.map (Admission.record S (links admissions))
  operations : data.operations = admissions.map (Admission.operation S)

omit [DecidableEq D] in
theorem ids_links : (links admissions).ids = admissions.map fun a => a.payload.recordId := by
  rw [links, Lineage.ids, List.map_map]
  rfl

omit [DecidableEq D] in
theorem links_append : links (admissions ++ [a]) = links admissions ++ [⟨a.payload.recordId, a.payload.predecessor⟩] := by
  rw [links, List.map_append]
  rfl

omit [DecidableEq D] in
theorem Holds.genesis : Holds S [] S.genesis := ⟨rfl, rfl, rfl, rfl, rfl⟩

theorem Admissible.nil : Admissible S [] := ⟨.nil, List.nodup_nil, fun a ha => (by cases ha)⟩

/-! ### The store verifies -/

theorem verifyStore_ok (hs : data.schema = "VERA_R8A0_GOVERNED_MEMORY_STORE_V4")
    (h : data = S.sealStore data.toStoreBody) : S.verifyStore data = .ok () := by
  have hdigest : data.headDigest = S.storeDigest data.toStoreBody := by rw [h]; rfl
  have hmac : data.headMac = S.storeMac data.toStoreBody data.headDigest := by rw [h]; rfl
  simp only [verifyStore, hs, ne_eq, not_true_eq_false, if_false, ← hmac, ← hdigest, or_self]
  rfl

theorem verifyRecord_iff {r : MemoryRecord D} : S.verifyRecord r = .ok () ↔
    (r.projectId = S.project ∧ r.governedIdentityId = S.identity) ∧
      (r.recordMac = S.recordMac r.toRecordBody r.recordDigest ∧ r.recordDigest = S.recordDigest r.toRecordBody) ∧
      r.requestDigest = S.requestDigest r.toAdmissionPayload ∧
      (∃ x, S.binding r.authorityBindingId (S.requestDigest r.toAdmissionPayload) .authority = .ok x) ∧
      ∃ x, S.binding r.privacyBindingId (S.requestDigest r.toAdmissionPayload) .privacy = .ok x := by
  simp only [verifyRecord, bind_eq_ok, ite_error_ok, ↓throw_bind, not_or, not_not, pure_ok, and_true,
    exists_and_right]

theorem Admission.Bound.verifyRecord (h : a.Bound S) (status : String) (by_ : Option String) :
    S.verifyRecord (S.sealRecord (a.body S) status by_) = .ok () :=
  verifyRecord_iff.2 ⟨⟨h.project, h.identity⟩, ⟨rfl, rfl⟩, rfl, ⟨_, h.authority⟩, _, h.privacy⟩

theorem Holds.find (h : Holds S admissions data) (hok : Admissible S admissions) (ha : a ∈ admissions) :
    data.records.find? (fun r => r.recordId = a.payload.recordId) = some (a.record S (links admissions)) := by
  have hmem : a.record S (links admissions) ∈ data.records := h.records ▸ List.mem_map_of_mem ha
  cases hf : data.records.find? fun r => r.recordId = a.payload.recordId with
  | none =>
    have hid : (a.record S (links admissions)).recordId = a.payload.recordId := rfl
    exact absurd (List.find?_eq_none.1 hf _ hmem) (by simp)
  | some r =>
    have hid : r.recordId = a.payload.recordId := by simpa using List.find?_some hf
    obtain ⟨b, hb, rfl⟩ := List.mem_map.1 (h.records ▸ List.mem_of_find?_eq_some hf)
    rw [List.inj_on_of_nodup_map (ids_links ▸ hok.lineage.nodup) hb ha hid]

theorem Holds.verifyOperation (h : Holds S admissions data) (hok : Admissible S admissions)
    (ha : a ∈ admissions) :
    ∃ receipt, S.verifyOperation (a.operation S).1 (a.operation S).2 (a.operation S).2.requestDigest data.records
      false = .ok receipt := by
  have hb := hok.bound a ha
  have hreceipt : S.verifyReceipt (a.operation S).2.receipt (a.operation S).2.requestDigest (a.operation S).1 =
      .ok () := by
    simp only [verifyReceipt, ite_error_ok, ↓throw_bind, ite_throw_ok, not_or, not_not]
    exact ⟨rfl, ⟨rfl, rfl, rfl⟩, ⟨hb.project, hb.identity⟩, rfl⟩
  have hmatch : receiptMatches (a.record S (links admissions)) (a.operation S).2.receipt :=
    ⟨rfl, rfl, rfl, rfl, rfl, rfl, rfl, rfl⟩
  refine ⟨(a.operation S).2.receipt, ?_⟩
  have hfind : data.records.find? (fun r => r.recordId = (a.operation S).2.receipt.recordId) =
      some (a.record S (links admissions)) := h.find hok ha
  simp only [GovernedMemoryStore.verifyOperation, bind_eq_ok, ite_error_ok, ↓throw_bind, hreceipt, hfind, not_or,
    not_not]
  exact ⟨⟨rfl, trivial⟩, (), trivial, (), hb.verifyRecord _ _, by simp, hmatch, rfl⟩

theorem Holds.verifyGraph (h : Holds S admissions data) (hok : Admissible S admissions) :
    S.verifyGraph data = .ok () := by
  have hops : (data.records.map fun r => r.operationId) = admissions.map fun a => a.payload.operationId := by
    rw [h.records, List.map_map]
    rfl
  have hkeys : data.operations.map Prod.fst = admissions.map fun a => a.payload.operationId := by
    rw [h.operations, List.map_map]
    rfl
  simp only [GovernedMemoryStore.verifyGraph, bind_eq_ok, ite_error_ok, ↓throw_bind, hops, hkeys, not_not]
  refine ⟨(), forM_ok.2 fun r hr => ?_, ⟨hok.operations, fun _ => id, fun _ => id⟩, forM_ok.2 fun op hop => ?_⟩
  · obtain ⟨a, ha, rfl⟩ := List.mem_map.1 (h.records ▸ hr)
    exact (hok.bound a ha).verifyRecord _ _
  · obtain ⟨a, ha, rfl⟩ := List.mem_map.1 (h.operations ▸ hop)
    obtain ⟨receipt, hreceipt⟩ := h.verifyOperation hok ha
    rw [hreceipt]
    rfl

/-- What a process finds is the store of some admissions. -/
def Sound (S : GovernedMemoryStore D Key) (file : StoreFile D) : Prop :=
  ∃ admissions, Admissible S admissions ∧ Holds S admissions (file.getD S.genesis)

theorem Sound.readUnlocked (h : Sound S file) : S.readUnlocked file = .ok (file.getD S.genesis) := by
  obtain ⟨admissions, hok, h⟩ := h
  cases file with
  | none => rfl
  | some data =>
    have h : Holds S admissions data := h
    rw [GovernedMemoryStore.readUnlocked, verifyStore_ok h.schema h.sealed, ok_bind, h.verifyGraph hok, ok_bind]
    rfl

/-! ### An admission -/

theorem Holds.supersede (h : Holds S admissions data) {records : List (MemoryRecord D)}
    (hs : S.supersede data.records a.payload = .ok records) :
    records = admissions.map (Admission.record S (links (admissions ++ [a]))) ∧
      ∀ p, a.payload.predecessor = some p → p ∈ (links admissions).ids ∧ (links admissions).successor p = none := by
  rw [links_append]
  cases hp : a.payload.predecessor with
  | none =>
    rw [GovernedMemoryStore.supersede, hp, Except.ok.injEq, h.records] at hs
    refine ⟨?_, fun p hp => (by cases hp)⟩
    rw [← hs]
    exact List.map_congr_left fun b _ => by rw [Admission.record, Admission.record, Lineage.successor_append (by simp)]
  | some p =>
    simp only [GovernedMemoryStore.supersede, hp] at hs
    cases hf : data.records.find? fun r => r.recordId = p with
    | none =>
      rw [hf] at hs
      cases hs
    | some old =>
      simp only [hf, bind_eq_ok, ite_error_ok, ↓throw_bind, not_not, pure_ok] at hs
      obtain ⟨hcurrent, -, -, rfl⟩ := hs
      have hid : old.recordId = p := by simpa using List.find?_some hf
      obtain ⟨b, hb, rfl⟩ := List.mem_map.1 (h.records ▸ List.mem_of_find?_eq_some hf)
      have hid : b.payload.recordId = p := hid
      have hnone : (links admissions).successor p = none := hid ▸ Admission.status_iff.1 hcurrent
      refine ⟨?_, fun q hq => ?_⟩
      · rw [h.records, List.map_map]
        refine List.map_congr_left fun b' _ => ?_
        by_cases hb' : b'.payload.recordId = p
        · have hsucc := Lineage.successor_append_self (l := ⟨a.payload.recordId, some p⟩) rfl hnone
          rw [Function.comp_apply, Admission.record_recordId, if_pos hb']
          change S.sealRecord (b'.body S) "SUPERSEDED" (some a.payload.recordId) = _
          rw [Admission.record, hb', hsucc]
          rfl
        · have hsucc : Lineage.successor (links admissions ++ [⟨a.payload.recordId, some p⟩]) b'.payload.recordId =
              (links admissions).successor b'.payload.recordId :=
            Lineage.successor_append fun heq => hb' (Option.some.inj heq).symm
          rw [Function.comp_apply, Admission.record_recordId, if_neg hb', Admission.record, Admission.record, hsucc]
      · cases hq
        refine ⟨ids_links ▸ List.mem_map.2 ⟨b, hb, hid⟩, hnone⟩

theorem Holds.admitNew (h : Holds S admissions data) (hok : Admissible S admissions) {payload : AdmissionPayload}
    {expectedHead : D} {reply : AdmissionReply D} (hproject : payload.projectId = S.project)
    (hidentity : payload.governedIdentityId = S.identity)
    (hnew : data.operations.lookup payload.operationId = none)
    (hadmits : S.admitNew payload expectedHead data = .ok (reply, file')) :
    data.headDigest = expectedHead ∧ ∃ a data', file' = some data' ∧ a.payload = payload ∧
      Admissible S (admissions ++ [a]) ∧ Holds S (admissions ++ [a]) data' := by
  simp only [GovernedMemoryStore.admitNew, bind_eq_ok, ite_error_ok, ↓throw_bind, not_not, pure_ok,
    Prod.mk.injEq] at hadmits
  obtain ⟨hhead, authority, hauthority, privacy, hprivacy, hfresh, records, hrecords, file, hwrite, -, rfl⟩ := hadmits
  simp only [writeUnlocked, bind_eq_ok, pure_ok] at hwrite
  obtain ⟨-, -, rfl⟩ := hwrite
  obtain ⟨hrecords, hpred⟩ := h.supersede (a := ⟨payload, authority, privacy⟩) hrecords
  have hfresh' : payload.recordId ∉ (links admissions).ids := by
    rw [ids_links, List.mem_map]
    rintro ⟨b, hb, hid⟩
    exact hfresh ⟨_, h.records ▸ List.mem_map_of_mem hb, hid⟩
  have hself : Lineage.successor (links (admissions ++ [⟨payload, authority, privacy⟩])) payload.recordId = none := by
    rw [links_append, Lineage.successor_append fun hp => hfresh' (hpred _ hp).1]
    exact Lineage.successor_eq_none.2 fun k hk => hfresh' (hok.lineage.mem_of_supersedes hk)
  refine ⟨hhead, ⟨payload, authority, privacy⟩, _, rfl, rfl, ⟨?_, ?_, ?_⟩, h.schema, rfl, ?_, ?_, ?_⟩
  · rw [links_append]
    exact .append hok.lineage hfresh' fun p hp => ⟨(hpred p hp).1, Lineage.successor_eq_none.1 (hpred p hp).2⟩
  · have hfreshOp : payload.operationId ∉ admissions.map fun a => a.payload.operationId := by
      rw [List.mem_map]
      rintro ⟨b, hb, hid⟩
      have hmem : b.operation S ∈ data.operations := h.operations ▸ List.mem_map_of_mem hb
      have hnone : ∀ o op, (o, op) ∈ data.operations → payload.operationId ≠ o := by simpa using hnew
      exact hnone _ _ hmem hid.symm
    rw [List.map_append, List.nodup_append]
    refine ⟨hok.operations, List.nodup_singleton _, fun o ho o' ho' heq => ?_⟩
    rw [List.map_singleton, List.mem_singleton] at ho'
    exact hfreshOp (ho' ▸ heq ▸ ho)
  · refine List.forall_mem_append.2 ⟨hok.bound, fun a ha => ?_⟩
    obtain rfl := List.mem_singleton.1 ha
    exact ⟨hproject, hidentity, hauthority, hprivacy⟩
  · rw [List.length_append, ← h.generation]
    rfl
  · change records ++ [_] = _
    rw [List.map_append, ← hrecords, List.map_singleton, Admission.record, hself]
    rfl
  · change data.operations ++ [_] = _
    rw [List.map_append, ← h.operations]
    rfl

/-- What an admission that adds a record does to the file. -/
structure Adds (S : GovernedMemoryStore D Key) (payload : AdmissionPayload) (expectedHead : D)
    (file file' : StoreFile D) : Prop where
  head : (file.getD S.genesis).headDigest = expectedHead
  complete : ∃ admissions a data, file' = some data ∧ a.payload = payload ∧
    Holds S admissions (file.getD S.genesis) ∧ Admissible S (admissions ++ [a]) ∧ Holds S (admissions ++ [a]) data

/-- An admission leaves the file, or adds its record. -/
theorem Sound.admits (h : Sound S file) {request : AdmissionRequest} {expectedHead : D} {reply : AdmissionReply D}
    (hadmits : S.admitRecord request expectedHead file = .ok (reply, file')) :
    file' = file ∨ Adds S request.toAdmissionPayload expectedHead file file' := by
  simp only [GovernedMemoryStore.admitRecord, h.readUnlocked, ok_bind, ite_error_ok, ↓throw_bind, not_or,
    not_not] at hadmits
  obtain ⟨⟨hproject, hidentity⟩, -, -, hadmits⟩ := hadmits
  obtain ⟨admissions, hok, h⟩ := h
  cases hop : (file.getD S.genesis).operations.lookup request.operationId with
  | some op =>
    simp only [hop, bind_eq_ok, pure_ok, Prod.mk.injEq] at hadmits
    obtain ⟨-, -, -, rfl⟩ := hadmits
    exact .inl rfl
  | none =>
    rw [hop] at hadmits
    obtain ⟨hhead, a, data, rfl, ha, hok', h'⟩ := h.admitNew hok hproject hidentity hop hadmits
    exact .inr ⟨hhead, admissions, a, data, rfl, ha, h, hok', h'⟩

theorem Adds.sound {payload : AdmissionPayload} {expectedHead : D} (h : Adds S payload expectedHead file file') :
    Sound S file' := by
  obtain ⟨admissions, a, data, rfl, -, -, hok, h⟩ := h.complete
  exact ⟨_, hok, h⟩

end Holds

/-! ## The integrity of a store -/

/-- A binding of the registry of a kind, signed by a trusted key under the expected head. -/
structure Attested (S : GovernedMemoryStore D Key) (purpose : BindingKind) (bindingId : String) (digest : D)
    (x : PolicyBinding D) : Prop where
  registered : (S.registry purpose).lookup bindingId = some x
  signed : ∃ key, S.policyKeys.lookup x.issuer = some key ∧ S.publicKeyId key = x.keyId ∧
    S.verifySignature x key = true
  kind : x.kind = purpose.name
  bindingId : x.bindingId = bindingId
  requestDigest : x.requestDigest = digest
  head : x.registryHeadDigest = S.registryHead purpose
  decision : x.decision = purpose.decision

/-- The bindings that a record carries. -/
structure Evidenced (S : GovernedMemoryStore D Key) (r : MemoryRecord D) : Prop where
  requestDigest : r.requestDigest = S.requestDigest r.toAdmissionPayload
  authority : ∃ x, Attested S .authority r.authorityBindingId r.requestDigest x ∧ r.authoritySource = x.source ∧
    r.authoritySourceDigest = x.sourceDigest
  privacy : ∃ x, Attested S .privacy r.privacyBindingId r.requestDigest x ∧ r.privacySource = x.source ∧
    r.privacySourceDigest = x.sourceDigest

section Integrity
variable [DecidableEq D] {S : GovernedMemoryStore D Key} {admissions : List (Admission D)} {a : Admission D}
  {data : MemoryStore D} {file file' : StoreFile D}

structure Intact (S : GovernedMemoryStore D Key) (data : MemoryStore D) : Prop where
  store : S.verifyStore data = .ok ()
  graph : S.verifyGraph data = .ok ()
  recordIds : (data.records.map fun r => r.recordId).Nodup
  operationIds : (data.operations.map Prod.fst).Nodup
  paired : data.operations.map (fun op => (op.1, op.2.receipt.recordId)) =
    data.records.map fun r => (r.operationId, r.recordId)
  evidenced : ∀ r ∈ data.records, Evidenced S r
  generation : data.generation = data.records.length

def storedLinks (data : MemoryStore D) : Lineage String :=
  data.records.map fun r => ⟨r.recordId, r.supersedes.filter fun p => p ∈ data.records.map fun r => r.recordId⟩

/-- The records form chains, each with the status of its place. -/
structure Chained (data : MemoryStore D) : Prop where
  chains : ∃ cs, (storedLinks data).Chains cs
  current : ∀ r ∈ data.records, r.status = "CURRENT" ↔ ∀ k, ¬ (storedLinks data).Supersedes r.recordId k
  supersededBy : ∀ r ∈ data.records, ∀ k, r.supersededBy = some k ↔ (storedLinks data).Supersedes r.recordId k

/-- A record with the empty id is stored, and one that was to supersede the empty id. -/
def BlankLink (data : MemoryStore D) : Prop :=
  (∃ r ∈ data.records, r.recordId = "") ∧ ∃ r ∈ data.records, r.supersedes = some ""

theorem binding_ok {bindingId : String} {digest : D} {kind : BindingKind} {x : PolicyBinding D}
    (h : S.binding bindingId digest kind = .ok x) : Attested S kind bindingId digest x := by
  rw [binding] at h
  cases hx : (S.registry kind).lookup bindingId with
  | none =>
    rw [hx] at h
    cases h
  | some y =>
    cases hkey : S.policyKeys.lookup y.issuer with
    | none =>
      simp only [hx, hkey] at h
      cases h
    | some key =>
      simp only [hx, hkey, ite_error_ok, ↓throw_bind, not_or, not_not, pure_ok] at h
      obtain ⟨⟨hid, hsig⟩, ⟨hkind, hbinding, hdigest⟩, hhead, -, hdecision, rfl⟩ := h
      exact ⟨hx, ⟨key, hkey, hid, hsig⟩, hkind, hbinding, hdigest, hhead, hdecision⟩

theorem Admission.Bound.evidenced (h : a.Bound S) (ls : Lineage String) : Evidenced S (a.record S ls) :=
  ⟨rfl, ⟨_, binding_ok h.authority, rfl, rfl⟩, _, binding_ok h.privacy, rfl, rfl⟩

theorem Holds.intact (h : Holds S admissions data) (hok : Admissible S admissions) : Intact S data where
  store := verifyStore_ok h.schema h.sealed
  graph := h.verifyGraph hok
  recordIds := by
    have hids := hok.lineage.nodup
    rw [ids_links] at hids
    rw [h.records, List.map_map]
    exact hids
  operationIds := by
    rw [h.operations, List.map_map]
    exact hok.operations
  paired := by
    rw [h.operations, h.records, List.map_map, List.map_map]
    rfl
  evidenced := fun r hr => by
    obtain ⟨a, ha, rfl⟩ := List.mem_map.1 (h.records ▸ hr)
    exact (hok.bound a ha).evidenced _
  generation := by
    rw [h.records, List.length_map, h.generation]

omit [DecidableEq D] in
theorem Holds.recordIds (h : Holds S admissions data) :
    (data.records.map fun r => r.recordId) = (links admissions).ids := by
  rw [h.records, List.map_map, ids_links]
  rfl

/-- A link of an admission is one of the store, and conversely but for the empty id. -/
theorem Holds.storedLinks_eq (h : Holds S admissions data) (hok : Admissible S admissions)
    (hblank : ¬ BlankLink data) : storedLinks data = links admissions := by
  rw [storedLinks, h.recordIds, h.records, List.map_map]
  refine List.map_congr_left fun a ha => Link.mk.injEq .. ▸ ⟨rfl, ?_⟩
  change a.payload.supersedes.filter (fun p => p ∈ (links admissions).ids) = a.payload.predecessor
  cases hs : a.payload.supersedes with
  | none => rw [AdmissionPayload.predecessor, hs, Option.filter_none, Option.filter_none]
  | some p =>
    have hr : a.record S (links admissions) ∈ data.records := h.records ▸ List.mem_map_of_mem ha
    rw [AdmissionPayload.predecessor, hs, Option.filter_some, Option.filter_some]
    congr 1
    by_cases hp : p = ""
    · subst hp
      have hstored : "" ∉ (links admissions).ids := fun hin => by
        obtain ⟨r, hr', hid⟩ := List.mem_map.1 (h.recordIds ▸ hin)
        exact hblank ⟨⟨r, hr', hid⟩, _, hr, hs⟩
      simp [hstored]
    · have hpred : a.payload.predecessor = some p := by
        rw [AdmissionPayload.predecessor, hs, Option.filter_some, if_pos (by simpa using hp)]
      have hstored : p ∈ (links admissions).ids :=
        hok.lineage.mem_of_supersedes (k := a.payload.recordId) (List.mem_map.2 ⟨a, ha, by rw [hpred]⟩)
      simp [hstored, hp]

/-- The records form chains exactly where no record was to supersede a stored empty id. -/
theorem Holds.chained_iff (h : Holds S admissions data) (hok : Admissible S admissions) :
    Chained data ↔ ¬ BlankLink data := by
  constructor
  · rintro hc ⟨⟨r, hr, hid⟩, r', hr', hs⟩
    have hlink : (storedLinks data).Supersedes r.recordId r'.recordId := by
      refine List.mem_map.2 ⟨r', hr', ?_⟩
      have hstored : "" ∈ data.records.map fun r => r.recordId := hid ▸ List.mem_map_of_mem hr
      rw [hs, hid, Option.filter_some, if_pos (by simpa using hstored)]
    refine (hc.current r hr).1 ?_ _ hlink
    obtain ⟨a, -, rfl⟩ := List.mem_map.1 (h.records ▸ hr)
    refine Admission.status_iff.2 (Lineage.successor_eq_none.2 fun k hk => ?_)
    obtain ⟨b, -, hb⟩ := List.mem_map.1 hk
    have hpred : b.payload.predecessor = some a.payload.recordId := congrArg Link.supersedes hb
    have hid : a.payload.recordId = "" := hid
    rw [hid, AdmissionPayload.predecessor, Option.filter_eq_some_iff] at hpred
    simp at hpred
  · intro hblank
    have hlinks := h.storedLinks_eq hok hblank
    refine ⟨hlinks ▸ hok.lineage.chains, fun r hr => ?_, fun r hr k => ?_⟩
    · obtain ⟨a, -, rfl⟩ := List.mem_map.1 (h.records ▸ hr)
      rw [Admission.status_iff, hlinks]
      exact Lineage.successor_eq_none
    · obtain ⟨a, -, rfl⟩ := List.mem_map.1 (h.records ▸ hr)
      rw [hlinks]
      exact hok.lineage.successor_iff

end Integrity

/-! ## Every run -/

section Runs
variable [DecidableEq D] {S : GovernedMemoryStore D Key} {c : MemoryCall D} {h : List (Move Empty (StoreFile D))}
  {file file' : StoreFile D}

/-- The store that a process finds. -/
def stored (S : GovernedMemoryStore D Key) (file : StoreFile D) : MemoryStore D := file.getD S.genesis

/-- The complete new store of an admission. -/
structure Completes (S : GovernedMemoryStore D Key) (payload : AdmissionPayload) (expectedHead : D)
    (file file' : StoreFile D) : Prop where
  head : (stored S file).headDigest = expectedHead
  isSome : file'.isSome
  payloads : (stored S file').records.map (fun r => r.toAdmissionPayload) =
    (stored S file).records.map (fun r => r.toAdmissionPayload) ++ [payload]

omit [DecidableEq D] in
theorem Holds.payloads {admissions : List (Admission D)} {data : MemoryStore D} (h : Holds S admissions data) :
    data.records.map (fun r => r.toAdmissionPayload) = admissions.map Admission.payload := by
  rw [h.records, List.map_map]
  rfl

theorem Adds.completes {payload : AdmissionPayload} {expectedHead : D}
    (h : Adds S payload expectedHead file file') : Completes S payload expectedHead file file' := by
  obtain ⟨admissions, a, data, rfl, rfl, hold, -, hnew⟩ := h.complete
  refine ⟨h.head, rfl, ?_⟩
  rw [stored, stored, Option.getD_some, hold.payloads, hnew.payloads, List.map_append]
  rfl

theorem Adds.generation {payload : AdmissionPayload} {expectedHead : D}
    (h : Adds S payload expectedHead file file') :
    (stored S file').generation = (stored S file).generation + 1 := by
  obtain ⟨admissions, a, data, rfl, -, hold, -, hnew⟩ := h.complete
  rw [stored, stored, Option.getD_some, hold.generation, hnew.generation, List.length_append]
  rfl

theorem program_steps (hsound : Sound S file) (hs : ((S.program c).after h).Steps file file') :
    file' = file ∨ ∃ request expectedHead, c = .admitRecord request expectedHead ∧
      Adds S request.toAdmissionPayload expectedHead file file' := by
  cases c with
  | readback | verifyHead => exact .inl ((Prog.All.after (Prog.ReadOnly.readM _)).steps hs)
  | admitRecord request expectedHead =>
    obtain ⟨-, rfl⟩ := Prog.steps_txn.1 hs
    cases hadmits : S.admitRecord request expectedHead file with
    | error e => exact .inl rfl
    | ok r => exact (hsound.admits hadmits).imp id fun hadds => ⟨request, expectedHead, rfl, hadds⟩

theorem program_commitsLast : (S.program c).CommitsLast := by
  cases c with
  | admitRecord request expectedHead => exact .txn _
  | readback | verifyHead => exact fun file => ⟨.inl rfl, .ofExcept _⟩

theorem Sound.none : Sound S none := ⟨[], .nil, .genesis⟩

theorem program_sound (hsound : Sound S file) (hs : ((S.program c).after h).Steps file file') :
    Sound S file' ∧ (stored S file).generation ≤ (stored S file').generation := by
  rcases program_steps hsound hs with rfl | ⟨request, expectedHead, -, hadds⟩
  · exact ⟨hsound, Nat.le_refl _⟩
  · exact ⟨hadds.sound, hadds.generation ▸ Nat.le_succ _⟩

theorem Sound.generation_eq (hdigest : ∀ body body', S.storeDigest body = S.storeDigest body' →
    body.generation = body'.generation) (h : Sound S file) (h' : Sound S file')
    (hhead : (stored S file).headDigest = (stored S file').headDigest) :
    (stored S file).generation = (stored S file').generation := by
  obtain ⟨_, -, h⟩ := h
  obtain ⟨_, -, h'⟩ := h'
  have hseal : (stored S file).headDigest = S.storeDigest (stored S file).toStoreBody :=
    congrArg MemoryStore.headDigest h.sealed
  have hseal' : (stored S file').headDigest = S.storeDigest (stored S file').toStoreBody :=
    congrArg MemoryStore.headDigest h'.sealed
  exact hdigest _ _ (hseal ▸ hhead.trans hseal')

theorem Adds.not_again {payload payload' : AdmissionPayload} {expectedHead : D} {next next' : StoreFile D}
    (hdigest : ∀ body body', S.storeDigest body = S.storeDigest body' → body.generation = body'.generation)
    (h : Adds S payload expectedHead file next) (h' : Adds S payload' expectedHead file' next')
    (hsound : Sound S file) (hsound' : Sound S file')
    (hle : (stored S next).generation ≤ (stored S file').generation) : False := by
  have hsame := hsound.generation_eq hdigest hsound' (h.head.trans h'.head.symm)
  rw [h.generation, ← hsame] at hle
  exact Nat.not_succ_le_self _ hle

theorem run_sound (S : GovernedMemoryStore D Key) (es : List (Event (MemoryCall D))) :
    Sound S ((Pool.init none).run S.program es).store :=
  (Pool.follows S.program none es).traced.invariant .none fun _ _ _ _ hs hsound => (program_sound hsound hs).1

end Runs

/-- The store is intact whatever the processes do, and its records form chains as long as none
was to supersede a stored empty id; of the admissions on one head one adds a record, and an
admission leaves the store or completes the new one. -/
theorem store_integrity [DecidableEq D] (S : GovernedMemoryStore D Key)
    (hdigest : ∀ body body', S.storeDigest body = S.storeDigest body' → body.generation = body'.generation)
    (es : List (Event (MemoryCall D))) :
    let P := (Pool.init none).run S.program es
    S.readUnlocked P.store = .ok (stored S P.store) ∧ Intact S (stored S P.store) ∧
    (Chained (stored S P.store) ↔ ¬ BlankLink (stored S P.store)) ∧
    (∀ st ∈ P.trace, st.move.after = st.move.before ∨ ∃ request expectedHead,
      st.call = .admitRecord request expectedHead ∧
      Completes S request.toAdmissionPayload expectedHead st.move.before st.move.after) ∧
    (∀ st ∈ P.trace, ∀ st' ∈ P.trace, ∀ request request' expectedHead,
      st.call = .admitRecord request expectedHead → st'.call = .admitRecord request' expectedHead →
      st.move.after ≠ st.move.before → st'.move.after ≠ st'.move.before → st = st') ∧
    ∀ i call e, P.thread i = some ⟨call, some (.raise e)⟩ →
      ∀ st ∈ P.trace, st.thread = i → st.move.after = st.move.before := by
  intro P
  have hP : Follows S.program none P := Pool.follows _ none es
  have hinv {trace : List (Step Empty (StoreFile D) (MemoryCall D))} {file : StoreFile D}
      (h : Traced S.program none trace file) : Sound S file :=
    h.invariant .none fun _ _ _ _ hs hsound => (program_sound hsound hs).1
  have hstep {st : Step Empty (StoreFile D) (MemoryCall D)} (hst : st ∈ P.trace) :
      Sound S st.move.before ∧ (st.move.after = st.move.before ∨ ∃ request expectedHead,
        st.call = .admitRecord request expectedHead ∧
        Adds S request.toAdmissionPayload expectedHead st.move.before st.move.after) := by
    obtain ⟨later, earlier, htrace⟩ := List.append_of_mem hst
    obtain ⟨hbefore, -, hs⟩ := (htrace ▸ hP.traced).split
    exact ⟨hinv hbefore, program_steps (hinv hbefore) hs⟩
  have hsound := run_sound S es
  obtain ⟨admissions, hok, h⟩ := id hsound
  refine ⟨hsound.readUnlocked, h.intact hok, h.chained_iff hok, fun st hst => ?_,
    fun st hst st' hst' request request' expectedHead hcall hcall' hne hne' => ?_,
    fun i call e hi st hst hth => hP.raised program_commitsLast hi hst hth⟩
  · exact (hstep hst).2.imp id fun ⟨request, expectedHead, hcall, hadds⟩ =>
      ⟨request, expectedHead, hcall, hadds.completes⟩
  · obtain ⟨hsound₁, hadds₁⟩ := hstep hst
    obtain ⟨hsound₂, hadds₂⟩ := hstep hst'
    obtain ⟨request₁, head₁, hcall₁, hadds₁⟩ := hadds₁.resolve_left hne
    obtain ⟨request₂, head₂, hcall₂, hadds₂⟩ := hadds₂.resolve_left hne'
    rw [hcall, MemoryCall.admitRecord.injEq] at hcall₁
    rw [hcall', MemoryCall.admitRecord.injEq] at hcall₂
    obtain ⟨-, rfl⟩ := hcall₁
    obtain ⟨-, rfl⟩ := hcall₂
    rcases hP.traced.ordered
      (R := fun file file' => Sound S file → Sound S file' ∧ (stored S file).generation ≤ (stored S file').generation)
      (fun file hsound => ⟨hsound, Nat.le_refl _⟩)
      (fun _ _ _ h h' hsound => ⟨(h' (h hsound).1).1, Nat.le_trans (h hsound).2 (h' (h hsound).1).2⟩)
      (fun _ _ _ _ hs hsound => program_sound hsound hs) hst hst' with heq | hle | hle
    · exact heq
    · exact (hadds₁.not_again hdigest hadds₂ hsound₁ hsound₂ (hle hadds₁.sound).2).elim
    · exact (hadds₂.not_again hdigest hadds₁ hsound₂ hsound₁ (hle hadds₂.sound).2).elim

/-! ## An empty id -/

instance (data : MemoryStore D) : Decidable (BlankLink data) := inferInstanceAs (Decidable (_ ∧ _))

def sampleBinding (purpose : BindingKind) : String × PolicyBinding Nat :=
  (purpose.name,
    { bindingId := purpose.name, requestDigest := 0, source := "source"
      sourceDigest := String.ofList (List.replicate 64 '0'), decision := purpose.decision, kind := purpose.name
      registryHeadDigest := "head", issuer := "issuer", keyId := "key", signature := "signature" })

def sampleMemory : GovernedMemoryStore Nat Unit where
  authorityRegistry := [sampleBinding .authority]
  privacyRegistry := [sampleBinding .privacy]
  policyKeys := [("issuer", ())]
  authorityHead := "head"
  privacyHead := "head"
  project := "project"
  identity := "identity"
  publicKeyId _ := "key"
  verifySignature _ _ := true
  encodes _ := true
  zeroHead := 0
  requestDigest _ := 0
  admissionDigest _ := 0
  recordDigest _ := 0
  recordMac _ digest := digest
  receiptMac _ := 0
  operationMac digest _ := digest
  storeDigest body := body.generation
  storeMac _ head := head

/-- An admission on the store of a generation. -/
def sampleAdmit (recordId : String) (supersedes : Option String) (generation : Nat) : MemoryCall Nat :=
  .admitRecord
    { recordId, text := "text", memoryClass := .workingProject, sourceActor := "actor", provenance := "provenance"
      operationId := "operation " ++ recordId, authorityBindingId := "authority", privacyBindingId := "privacy"
      projectId := "project", governedIdentityId := "identity", supersedes, status := "CURRENT" } generation

/-- A record with the empty id stays current when it is superseded. -/
theorem blank_superseded :
    let P := (Pool.init none).run sampleMemory.program
      [.spawn 0 (sampleAdmit "" none 0), .step 0, .spawn 1 (sampleAdmit "record" (some "") 1), .step 1]
    (stored sampleMemory P.store).records.map (fun r => (r.recordId, r.status, r.supersedes)) =
      [("", "CURRENT", none), ("record", "CURRENT", some "")] ∧ ¬ Chained (stored sampleMemory P.store) := by
  intro P
  obtain ⟨admissions, hok, h⟩ := run_sound sampleMemory
    [.spawn 0 (sampleAdmit "" none 0), .step 0, .spawn 1 (sampleAdmit "record" (some "") 1), .step 1]
  have hblank : BlankLink (stored sampleMemory P.store) := by decide +kernel
  exact ⟨by decide +kernel, fun hc => (h.chained_iff hok).1 hc hblank⟩

/-- The theorem at a record that is superseded. -/
theorem store_integrity_sample :
    let P := (Pool.init none).run sampleMemory.program
      [.spawn 0 (sampleAdmit "first" none 0), .step 0, .spawn 1 (sampleAdmit "second" (some "first") 1), .step 1]
    (stored sampleMemory P.store).records.map (fun r => (r.recordId, r.status, r.supersededBy)) =
      [("first", "SUPERSEDED", some "second"), ("second", "CURRENT", none)] ∧
    Intact sampleMemory (stored sampleMemory P.store) ∧ Chained (stored sampleMemory P.store) := by
  intro P
  have hblank : ¬ BlankLink (stored sampleMemory P.store) := by decide +kernel
  obtain ⟨-, hintact, hchained, -⟩ := store_integrity sampleMemory (fun _ _ h => h)
    [.spawn 0 (sampleAdmit "first" none 0), .step 0, .spawn 1 (sampleAdmit "second" (some "first") 1), .step 1]
  exact ⟨by decide +kernel, hintact, hchained.2 hblank⟩

end VeraMono.GovernedMemory

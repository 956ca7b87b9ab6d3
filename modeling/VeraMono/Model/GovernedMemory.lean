import Mathlib.Data.List.Basic
import VeraMono.Framework.Prog

/-!
# The governed memory store

`memory.py` of R8A0: `GovernedMemoryStore`, which admits records on the evidence of two signed
policy bindings, marks the record that an admission supersedes, and seals records, operations,
receipts and the whole store with the store's key. The lock serializes admissions and the file is
replaced atomically, so an admission is one transaction.
-/

namespace VeraMono.GovernedMemory

open Framework

inductive MemoryErrorClass
  | memoryAdmissionError | staleMemoryHead | keyError | unicodeEncodeError
  deriving DecidableEq

structure MemoryFailure where
  kind : MemoryErrorClass
  message : String
  deriving DecidableEq

def admissionError (message : String) : MemoryFailure := ⟨.memoryAdmissionError, message⟩

inductive MemoryClass
  | autobiographical | workingProject | historicalAudit
  deriving DecidableEq

def MemoryClass.readbackPrefix : MemoryClass → String
  | autobiographical => "I remember this through my persistent memory."
  | workingProject => "I have this in my working or project memory."
  | historicalAudit => "The historical or audit record shows this."

/-- `AdmissionRequest.payload`. -/
structure AdmissionPayload where
  recordId : String
  text : String
  memoryClass : MemoryClass
  sourceActor : String
  provenance : String
  operationId : String
  authorityBindingId : String
  privacyBindingId : String
  projectId : String
  governedIdentityId : String
  supersedes : Option String
  deriving DecidableEq

structure AdmissionRequest extends AdmissionPayload where
  status : String

/-- The record that a request supersedes: an empty id is none. -/
def AdmissionPayload.predecessor (payload : AdmissionPayload) : Option String :=
  payload.supersedes.filter fun p => p ≠ ""

structure PolicyBinding (D : Type) where
  bindingId : String
  requestDigest : D
  source : String
  sourceDigest : String
  decision : String
  kind : String
  registryHeadDigest : String
  issuer : String
  keyId : String
  signature : String

/-- What the admission digest of a record is taken of. -/
structure AdmissionBody (D : Type) extends AdmissionPayload where
  identityOwner : String
  runtimeOwner : Bool
  requestDigest : D
  authoritySource : String
  authoritySourceDigest : String
  privacySource : String
  privacySourceDigest : String

structure RecordBody (D : Type) extends AdmissionBody D where
  status : String
  supersededBy : Option String
  admissionDigest : D

structure MemoryRecord (D : Type) extends RecordBody D where
  recordDigest : D
  recordMac : D

structure ReceiptBody (D : Type) where
  schema : String
  operationId : String
  recordId : String
  memoryClass : MemoryClass
  identityOwner : String
  runtimeOwner : Bool
  requestDigest : D
  admissionDigest : D
  authorityBindingId : String
  privacyBindingId : String
  projectId : String
  governedIdentityId : String
  result : String

structure AdmissionReceipt (D : Type) extends ReceiptBody D where
  receiptMac : D

structure MemoryOperation (D : Type) where
  requestDigest : D
  receipt : AdmissionReceipt D
  operationMac : D

structure StoreBody (D : Type) where
  schema : String
  generation : Nat
  predecessorHead : D
  records : List (MemoryRecord D)
  operations : List (String × MemoryOperation D)

structure MemoryStore (D : Type) extends StoreBody D where
  headDigest : D
  headMac : D

/-- A `GovernedMemoryStore`, with the hashes and the MACs under its key. -/
structure GovernedMemoryStore (D Key : Type) where
  authorityRegistry : List (String × PolicyBinding D)
  privacyRegistry : List (String × PolicyBinding D)
  policyKeys : List (String × Key)
  authorityHead : String
  privacyHead : String
  project : String
  identity : String
  publicKeyId : Key → String
  verifySignature : PolicyBinding D → Key → Bool
  encodes : AdmissionPayload → Bool
  zeroHead : D
  requestDigest : AdmissionPayload → D
  admissionDigest : AdmissionBody D → D
  recordDigest : RecordBody D → D
  recordMac : RecordBody D → D → D
  receiptMac : ReceiptBody D → D
  operationMac : D → AdmissionReceipt D → D
  storeDigest : StoreBody D → D
  storeMac : StoreBody D → D → D

abbrev StoreFile (D : Type) := Option (MemoryStore D)

namespace GovernedMemoryStore

variable {D Key : Type} (S : GovernedMemoryStore D Key)

/-! ## Seals -/

def sealStore (body : StoreBody D) : MemoryStore D :=
  { body with headDigest := S.storeDigest body, headMac := S.storeMac body (S.storeDigest body) }

def genesis : MemoryStore D := S.sealStore ⟨"VERA_R8A0_GOVERNED_MEMORY_STORE_V4", 0, S.zeroHead, [], []⟩

def sealRecord (body : AdmissionBody D) (status : String) (supersededBy : Option String) : MemoryRecord D :=
  let body : RecordBody D := { body with status, supersededBy, admissionDigest := S.admissionDigest body }
  { body with recordDigest := S.recordDigest body, recordMac := S.recordMac body (S.recordDigest body) }

def sealReceipt (body : ReceiptBody D) : AdmissionReceipt D := { body with receiptMac := S.receiptMac body }

def sealOperation (digest : D) (receipt : AdmissionReceipt D) : MemoryOperation D :=
  ⟨digest, receipt, S.operationMac digest receipt⟩

/-! ## Checks -/

inductive BindingKind
  | authority | privacy

def BindingKind.name : BindingKind → String
  | authority => "authority"
  | privacy => "privacy"

def BindingKind.decision : BindingKind → String
  | authority => "AUTHORIZED"
  | privacy => "ELIGIBLE"

def registry : BindingKind → List (String × PolicyBinding D)
  | .authority => S.authorityRegistry
  | .privacy => S.privacyRegistry

def registryHead : BindingKind → String
  | .authority => S.authorityHead
  | .privacy => S.privacyHead

variable [DecidableEq D]

def binding (bindingId : String) (requestDigest : D) (kind : BindingKind) :
    Except MemoryFailure (PolicyBinding D) :=
  let name := kind.name
  match (S.registry kind).lookup bindingId with
  | none => .error (admissionError s!"unknown {name} binding")
  | some x =>
    match S.policyKeys.lookup x.issuer with
    | none => .error (admissionError s!"invalid {name} binding signature")
    | some key => do
      if S.publicKeyId key ≠ x.keyId ∨ ¬ S.verifySignature x key then
        throw (admissionError s!"invalid {name} binding signature")
      if x.kind ≠ name ∨ x.bindingId ≠ bindingId ∨ x.requestDigest ≠ requestDigest then
        throw (admissionError s!"{name} binding mismatch")
      if x.registryHeadDigest ≠ S.registryHead kind then
        throw (admissionError s!"{name} registry head mismatch")
      if x.sourceDigest.length ≠ 64 then throw (admissionError s!"invalid {name} source digest")
      if x.decision ≠ kind.decision then throw (admissionError s!"{name} binding denies admission")
      return x

def verifyStore (data : MemoryStore D) : Except MemoryFailure Unit := do
  if data.schema ≠ "VERA_R8A0_GOVERNED_MEMORY_STORE_V4" then
    throw (admissionError "invalid memory store schema or fields")
  if data.headMac ≠ S.storeMac data.toStoreBody data.headDigest ∨
      data.headDigest ≠ S.storeDigest data.toStoreBody then
    throw (admissionError "memory store head authentication mismatch")

def verifyRecord (r : MemoryRecord D) : Except MemoryFailure Unit := do
  if r.projectId ≠ S.project ∨ r.governedIdentityId ≠ S.identity then
    throw (admissionError "persistent-memory project or identity mismatch")
  if r.recordMac ≠ S.recordMac r.toRecordBody r.recordDigest ∨ r.recordDigest ≠ S.recordDigest r.toRecordBody then
    throw (admissionError "persistent-memory record authentication mismatch")
  let digest := S.requestDigest r.toAdmissionPayload
  if r.requestDigest ≠ digest then
    throw (admissionError "persistent-memory request digest mismatch")
  let _ ← S.binding r.authorityBindingId digest .authority
  let _ ← S.binding r.privacyBindingId digest .privacy

def verifyReceipt (r : AdmissionReceipt D) (requestDigest : D) (operationId : String) :
    Except MemoryFailure Unit := do
  if r.receiptMac ≠ S.receiptMac r.toReceiptBody then
    throw (admissionError "admission receipt authentication mismatch")
  if r.schema ≠ "VERA_R8A0_GOVERNED_MEMORY_ADMISSION_RECEIPT_V1" ∨ r.operationId ≠ operationId ∨
      r.requestDigest ≠ requestDigest then
    throw (admissionError "admission receipt binding mismatch")
  if r.projectId ≠ S.project ∨ r.governedIdentityId ≠ S.identity then
    throw (admissionError "admission receipt project or identity mismatch")

/-- The fields that a receipt shares with its record. -/
def receiptMatches (record : MemoryRecord D) (receipt : AdmissionReceipt D) : Prop :=
  record.operationId = receipt.operationId ∧ record.requestDigest = receipt.requestDigest ∧
    record.admissionDigest = receipt.admissionDigest ∧ record.memoryClass = receipt.memoryClass ∧
    record.identityOwner = receipt.identityOwner ∧ record.runtimeOwner = receipt.runtimeOwner ∧
    record.projectId = receipt.projectId ∧ record.governedIdentityId = receipt.governedIdentityId

instance (record : MemoryRecord D) (receipt : AdmissionReceipt D) : Decidable (receiptMatches record receipt) :=
  inferInstanceAs (Decidable (_ ∧ _))

def verifyOperation (operationId : String) (op : MemoryOperation D) (digest : D)
    (records : List (MemoryRecord D)) (requireCurrent : Bool) : Except MemoryFailure (AdmissionReceipt D) := do
  if op.operationMac ≠ S.operationMac op.requestDigest op.receipt ∨ op.requestDigest ≠ digest then
    throw (admissionError "operation replay authentication mismatch")
  S.verifyReceipt op.receipt digest operationId
  match records.find? fun r => r.recordId = op.receipt.recordId with
  | none => throw (admissionError "operation replay record is missing")
  | some record => do
    S.verifyRecord record
    if requireCurrent ∧ record.status ≠ "CURRENT" then
      throw (admissionError "operation replay record is not current")
    if ¬ receiptMatches record op.receipt then
      throw (admissionError "operation replay receipt-to-record binding mismatch")
    return op.receipt

def verifyGraph (data : MemoryStore D) : Except MemoryFailure Unit := do
  data.records.forM S.verifyRecord
  let recordOps := data.records.map fun r => r.operationId
  if ¬ (recordOps.Nodup ∧ (∀ o ∈ recordOps, o ∈ data.operations.map Prod.fst) ∧
      ∀ o ∈ data.operations.map Prod.fst, o ∈ recordOps) then
    throw (admissionError "memory store record-operation graph mismatch")
  data.operations.forM fun op => do
    let _ ← S.verifyOperation op.1 op.2 op.2.requestDigest data.records false

def readUnlocked (file : StoreFile D) : Except MemoryFailure (MemoryStore D) :=
  match file with
  | none => .ok S.genesis
  | some data => do
    S.verifyStore data
    S.verifyGraph data
    return data

/-! ## Operations -/

def admissionBody (payload : AdmissionPayload) (authority privacy : PolicyBinding D) : AdmissionBody D :=
  { payload with
    identityOwner := if payload.memoryClass = .autobiographical then "VERA" else "PROJECT_RECORD"
    runtimeOwner := false
    requestDigest := S.requestDigest payload
    authoritySource := authority.source, authoritySourceDigest := authority.sourceDigest
    privacySource := privacy.source, privacySourceDigest := privacy.sourceDigest }

def receiptBody (body : AdmissionBody D) : ReceiptBody D where
  schema := "VERA_R8A0_GOVERNED_MEMORY_ADMISSION_RECEIPT_V1"
  operationId := body.operationId
  recordId := body.recordId
  memoryClass := body.memoryClass
  identityOwner := body.identityOwner
  runtimeOwner := false
  requestDigest := body.requestDigest
  admissionDigest := S.admissionDigest body
  authorityBindingId := body.authorityBindingId
  privacyBindingId := body.privacyBindingId
  projectId := body.projectId
  governedIdentityId := body.governedIdentityId
  result := "ADMITTED"

/-- The records, with the one that a request supersedes sealed anew. -/
def supersede (records : List (MemoryRecord D)) (payload : AdmissionPayload) :
    Except MemoryFailure (List (MemoryRecord D)) :=
  match payload.predecessor with
  | none => .ok records
  | some predecessor =>
    match records.find? fun r => r.recordId = predecessor with
    | none => .error (admissionError "supersession predecessor missing or non-current")
    | some old => do
      if old.status ≠ "CURRENT" then
        throw (admissionError "supersession predecessor missing or non-current")
      S.verifyRecord old
      return records.map fun r =>
        if r.recordId = predecessor then S.sealRecord r.toAdmissionBody "SUPERSEDED" (some payload.recordId)
        else r

/-- `_write_unlocked`: the file is replaced and read back. -/
def writeUnlocked (data : MemoryStore D) : Except MemoryFailure (StoreFile D) := do
  S.verifyStore data
  return some data

/-- A receipt and the head of the store. -/
structure AdmissionReply (D : Type) where
  receipt : AdmissionReceipt D
  storeHead : D

/-- The first admission of an operation. -/
def admitNew (payload : AdmissionPayload) (expectedHead : D) (data : MemoryStore D) :
    Except MemoryFailure (AdmissionReply D × StoreFile D) := do
  let digest := S.requestDigest payload
  if data.headDigest ≠ expectedHead then
    throw ⟨.staleMemoryHead, "stale expected memory store head"⟩
  let authority ← S.binding payload.authorityBindingId digest .authority
  let privacy ← S.binding payload.privacyBindingId digest .privacy
  if ∃ r ∈ data.records, r.recordId = payload.recordId then
    throw (admissionError "record ID already exists")
  let records ← S.supersede data.records payload
  let body := S.admissionBody payload authority privacy
  let receipt := S.sealReceipt (S.receiptBody body)
  let new := S.sealStore
    { schema := data.schema, generation := data.generation + 1, predecessorHead := data.headDigest
      records := records ++ [S.sealRecord body "CURRENT" none]
      operations := data.operations ++ [(payload.operationId, S.sealOperation digest receipt)] }
  let file ← S.writeUnlocked new
  return (⟨receipt, new.headDigest⟩, file)

/-- `admit`. -/
def admitRecord (request : AdmissionRequest) (expectedHead : D) (file : StoreFile D) :
    Except MemoryFailure (AdmissionReply D × StoreFile D) := do
  if request.projectId ≠ S.project ∨ request.governedIdentityId ≠ S.identity then
    throw (admissionError "memory request project or identity mismatch")
  if request.status ≠ "CURRENT" then throw (admissionError "only CURRENT records may be admitted")
  let data ← S.readUnlocked file
  let payload := request.toAdmissionPayload
  if ¬ S.encodes payload then throw ⟨.unicodeEncodeError, "surrogates not allowed"⟩
  match data.operations.lookup payload.operationId with
  | some op => do
    let receipt ← S.verifyOperation payload.operationId op (S.requestDigest payload) data.records true
    return (⟨receipt, data.headDigest⟩, file)
  | none => S.admitNew payload expectedHead data

def readback (recordId : String) (expectedHead : D) (file : StoreFile D) : Except MemoryFailure String := do
  let data ← S.readUnlocked file
  if data.headDigest ≠ expectedHead then throw ⟨.staleMemoryHead, "memory store head mismatch"⟩
  match data.records.find? fun r => r.recordId = recordId with
  | none => throw ⟨.keyError, recordId⟩
  | some r => do
    S.verifyRecord r
    if r.status ≠ "CURRENT" then throw (admissionError "record is not current")
    return r.memoryClass.readbackPrefix ++ " " ++ r.text

def verifyHead (expectedHead : D) (file : StoreFile D) : Except MemoryFailure D := do
  let data ← S.readUnlocked file
  if data.headDigest ≠ expectedHead then throw ⟨.staleMemoryHead, "memory store head mismatch"⟩
  data.records.forM S.verifyRecord
  data.operations.forM fun op => do
    let _ ← S.verifyOperation op.1 op.2 op.2.requestDigest data.records false
  return data.headDigest

/-! ## Calls -/

inductive MemoryCall (D : Type)
  | admitRecord (request : AdmissionRequest) (expectedHead : D)
  | readback (recordId : String) (expectedHead : D)
  | verifyHead (expectedHead : D)

inductive MemoryReply (D : Type)
  | admitted (reply : AdmissionReply D)
  | text (text : String)
  | head (head : D)

/-- A call of a process on the shared file. -/
def program : MemoryCall D → Prog Empty (StoreFile D) MemoryFailure (MemoryReply D)
  | .admitRecord request expectedHead =>
    .txn fun file => (S.admitRecord request expectedHead file).map fun r => (.admitted r.1, r.2)
  | .readback recordId expectedHead => .readM fun file => (S.readback recordId expectedHead file).map .text
  | .verifyHead expectedHead => .readM fun file => (S.verifyHead expectedHead file).map .head

end GovernedMemoryStore

end VeraMono.GovernedMemory

import VeraMono.Framework.Transactions
import VeraMono.Model.StoredLedgers

/-!
# The memory ledger as it is stored

`MemoryLedger` keeps a record as the text of its canonical JSON, beside the columns
that change when another record supersedes it; `read` parses the text again and
compares it with its digest, with the columns and with the record of the successor.
The texts are valid Unicode: the encoder of the digests refuses any other.
-/

namespace VeraMono

open Framework

/-- `MemoryClass`. -/
def MemoryClass.value : MemoryClass → String
  | .autobiographical => "AUTOBIOGRAPHICAL"
  | .workingProject => "WORKING_PROJECT"
  | .historicalAudit => "HISTORICAL_AUDIT"

def MemoryClass.ofValue (value : PyValue) : Except Failure MemoryClass :=
  match value with
  | .str (.valid text) =>
    if text = "AUTOBIOGRAPHICAL" then .ok .autobiographical
    else if text = "WORKING_PROJECT" then .ok .workingProject
    else if text = "HISTORICAL_AUDIT" then .ok .historicalAudit
    else .error ⟨.valueError, s!"'{text}' is not a valid MemoryClass"⟩
  | _ => .error ⟨.valueError, "not a valid MemoryClass"⟩

inductive MemoryStatus
  | current | superseded
  deriving DecidableEq

structure StoredMemoryRow where
  recordId : String
  payloadJson : String
  status : MemoryStatus
  supersededBy : Option String
  recordDigest : String
  supersedesId : Option String
  deriving DecidableEq

structure StoredOperation where
  operationId : String
  requestDigest : String
  recordId : String
  receiptJson : String
  deriving DecidableEq

abbrev StoredRecords := Table StoredMemoryRow.recordId

/-- The database of a ledger; `generation` and `head` are the rows of `meta`. -/
structure StoredMemory where
  records : StoredRecords
  operations : Table StoredOperation.operationId
  generation : Nat
  head : String

/-- What `read` returns. -/
structure MemoryRecord where
  recordId : PyValue
  text : PyValue
  memoryClass : MemoryClass
  sourceActor : PyValue
  authorityRef : PyValue
  privacyRef : PyValue
  provenanceRefs : List PyValue
  operationId : PyValue
  projectId : PyValue
  governedIdentityId : PyValue
  supersedes : PyValue
  status : MemoryStatus
  supersededBy : Option String
  recordDigest : String

def pyStr (s : String) : PyValue := .str (.valid s)

/-- A string or `None`. -/
def pyOptional : Option String → PyValue
  | some s => pyStr s
  | none => .none

/-- `d[key]` of a dictionary, if there is such a key. -/
def dictGet? (key : String) (entries : List (PyValue × PyValue)) : Option PyValue :=
  (entries.find? fun e => e.1.keyText = some (.valid key)).map Prod.snd

/-- `d[key]`. -/
def dictGet (key : String) (entries : List (PyValue × PyValue)) : Except Failure PyValue :=
  match dictGet? key entries with
  | some v => .ok v
  | none => .error ⟨.keyError, key⟩

/-- A value compared with a string. -/
def PyValue.isText (s : String) : PyValue → Bool
  | .str t => t = .valid s
  | _ => false

/-- A value compared with a string or `None`. -/
def PyValue.isOptional : Option String → PyValue → Bool
  | some s, v => v.isText s
  | Option.none, .none => true
  | Option.none, _ => false

def pyTuple : PyValue → Except Failure (List PyValue)
  | .list items => .ok items
  | .tuple items => .ok items
  | .dict entries => .ok (entries.map Prod.fst)
  | .str t => .ok (t.codePoints.map fun c => .str (Text.ofCodePoints [c]))
  | _ => .error ⟨.typeError, "object is not iterable"⟩

/-! ## What is stored and hashed -/

/-- `AdmissionRequest.payload`. -/
def AdmissionRequest.fields (request : AdmissionRequest) : List (String × PyValue) :=
  [("record_id", pyStr request.recordId), ("text", pyStr request.text),
    ("memory_class", pyStr request.memoryClass.value), ("source_actor", pyStr request.sourceActor),
    ("authority_ref", pyStr request.authorityRef), ("privacy_ref", pyStr request.privacyRef),
    ("provenance_refs", .list (request.provenanceRefs.map pyStr)),
    ("operation_id", pyStr request.operationId), ("project_id", pyStr request.projectId),
    ("governed_identity_id", pyStr request.governedIdentityId),
    ("supersedes", pyOptional request.supersedes)]

namespace StoredMemory

variable (R : PyRuntime)

/-- `sha256_hex(canonical_json_bytes(value))` of a dictionary. -/
def digestOf (fields : List (String × PyValue)) : Except Failure String :=
  (canonicalJsonBytes R.py (StoredLedger.dictOf fields)).map R.sha256

def requestDigest (request : AdmissionRequest) : Except Failure String := do
  request.validate
  digestOf R request.fields

/-- `_record_payload`. -/
def recordFields (request : AdmissionRequest) (requestDigest : String) : List (String × PyValue) :=
  request.fields ++ [("request_digest", pyStr requestDigest)]

/-- `head_material`. -/
def headFields (previousHead : String) (generation : Nat) (request : AdmissionRequest)
    (recordDigest : String) : List (String × PyValue) :=
  [("previous_head", pyStr previousHead), ("generation", .int generation),
    ("record_id", pyStr request.recordId), ("record_digest", pyStr recordDigest),
    ("supersedes", pyOptional request.supersedes)]

/-- `receipt`. -/
def receiptFields (request : AdmissionRequest) (requestDigest recordDigest storeHead : String)
    (generation : Nat) : List (String × PyValue) :=
  [("schema", pyStr "VERA_MONO_MEMORY_ADMISSION_RECEIPT_V1"),
    ("operation_id", pyStr request.operationId), ("record_id", pyStr request.recordId),
    ("request_digest", pyStr requestDigest), ("record_digest", pyStr recordDigest),
    ("memory_class", pyStr request.memoryClass.value), ("project_id", pyStr request.projectId),
    ("governed_identity_id", pyStr request.governedIdentityId),
    ("authority_ref", pyStr request.authorityRef), ("privacy_ref", pyStr request.privacyRef),
    ("provenance_refs", .list (request.provenanceRefs.map pyStr)), ("store_head", pyStr storeHead),
    ("generation", .int generation),
    ("claim_ceiling", pyStr "LOCAL_DURABLE_RECORD_NOT_SELF_AUTHENTICATING_POLICY_OR_CURRENT_TRUTH")]

def new : StoredMemory := ⟨.empty, .empty, 0, R.sha256Text "vera-memory-genesis-v1"⟩

/-! ## `admit` -/

/-- A call of `admit` on the ledger of a project and an identity. -/
structure Admission where
  request : AdmissionRequest
  expectedHead : String

/-- Marks the record that a request supersedes. -/
def supersede (request : AdmissionRequest) (records : StoredRecords) : Except Failure StoredRecords :=
  match request.supersedes with
  | none => .ok records
  | some predecessor =>
    match records.get? predecessor with
    | none => .error (memoryError "superseded predecessor is missing or non-current")
    | some row =>
      if row.status ≠ .current then
        .error (memoryError "superseded predecessor is missing or non-current")
      else .ok (records.update { row with status := .superseded, supersededBy := some request.recordId })

def insertRecord (row : StoredMemoryRow) (records : StoredRecords) : Except Failure StoredRecords :=
  if records.rows.any fun r => r.recordDigest = row.recordDigest then
    .error (integrityError "records.record_digest")
  else .ok (records.insert row)

def admitNew (call : Admission) (m : StoredMemory) : Except Failure (PyValue × StoredMemory) := do
  let request := call.request
  if m.head ≠ call.expectedHead then
    throw ⟨.staleMemoryHead, "stale expected memory head"⟩
  if (m.records.get? request.recordId).isSome then
    throw (memoryError "record_id already exists")
  let records ← supersede request m.records
  let digest ← requestDigest R request
  let payloadJson ← canonicalJson R.py (StoredLedger.dictOf (recordFields request digest))
  let recordDigest := R.sha256Text payloadJson
  let records ← insertRecord
    ⟨request.recordId, payloadJson, .current, none, recordDigest, request.supersedes⟩ records
  let generation := m.generation + 1
  let head ← digestOf R (headFields m.head generation request recordDigest)
  let receipt := StoredLedger.dictOf (receiptFields request digest recordDigest head generation)
  let receiptJson ← canonicalJson R.py receipt
  return (receipt,
    { records
      operations := m.operations.insert ⟨request.operationId, digest, request.recordId, receiptJson⟩
      generation, head })

def admitRecord (projectId identityId : String) (call : Admission) (m : StoredMemory) :
    Except Failure (PyValue × StoredMemory) := do
  let request := call.request
  request.validate
  if request.projectId ≠ projectId ∨ request.governedIdentityId ≠ identityId then
    throw (memoryError "memory request project or identity mismatch")
  if call.expectedHead = "" then
    throw (memoryError "expected_head is required")
  match m.operations.get? request.operationId with
  | some replay => do
    if replay.requestDigest ≠ (← requestDigest R request) then
      throw (memoryError "operation_id replay carries a different request")
    let receipt ← readJson R replay.receiptJson
    return (receipt, m)
  | none => admitNew R call m

/-! ## `read` -/

def uniqueObject (seen : List Text) : List (Text × PyValue) → Except ScanFailure (List (PyValue × PyValue))
  | [] => .ok []
  | (key, item) :: rest =>
    if key ∈ seen then .error (.raised (memoryError "duplicate JSON key in stored memory record"))
    else (uniqueObject (key :: seen) rest).map fun result => (.str key, item) :: result

def recordHooks : JsonHooks where
  parseFloat := R.pyFloat
  parseConstant value := .error (.raised (memoryError s!"non-finite stored memory value: {value}"))
  objectPairs := uniqueObject []

def strictRecordPayload (raw recordId digest : String) : Except Failure (List (PyValue × PyValue)) :=
  match jsonLoads (recordHooks R) raw with
  | .error (.decode _ _) => .error (memoryError "corrupt stored memory JSON")
  | .error (.raised failure) => .error failure
  | .ok (.dict payload) =>
    if !((dictGet? "record_id" payload).getD .none).isText recordId then
      .error (memoryError "stored memory canonical payload/digest mismatch")
    else
      match canonicalJson R.py (.dict payload) with
      | .error _ => .error (memoryError "corrupt stored memory canonical values")
      | .ok normalized =>
        if normalized ≠ raw ∨ R.sha256Text normalized ≠ digest then
          .error (memoryError "stored memory canonical payload/digest mismatch")
        else .ok payload
  | .ok _ => .error (memoryError "stored memory canonical payload/digest mismatch")

/-- The id in the record of the successor, once it is checked. -/
def successorOf (recordId : String) (records : StoredRecords) : Except Failure (Option PyValue) :=
  match records.rows.filter fun r => r.supersedesId = some recordId with
  | [] => .ok none
  | [row] => do
    let successor ← strictRecordPayload R row.payloadJson row.recordId row.recordDigest
    if !((dictGet? "supersedes" successor).getD .none).isText recordId then
      throw (memoryError "successor memory lineage relation mismatch")
    return dictGet? "record_id" successor
  | _ => .error (memoryError "multiple successors for one memory record")

/-- The columns that change agree with the successor: `successor_id` is a string that is not
empty, since it passed `_strict_record_payload` as one. -/
def columnsAgree (row : StoredMemoryRow) : Option PyValue → Bool
  | none => row.supersededBy = none ∧ row.status = .current
  | some successorId =>
    row.supersededBy.any (fun s => successorId.isText s) ∧
      row.status = if successorId.isText "" then .current else .superseded

/-- `MemoryRecord(...)`. -/
def toRecord (payload : List (PyValue × PyValue)) (row : StoredMemoryRow) : Except Failure MemoryRecord := do
  return {
    recordId := ← dictGet "record_id" payload
    text := ← dictGet "text" payload
    memoryClass := ← MemoryClass.ofValue (← dictGet "memory_class" payload)
    sourceActor := ← dictGet "source_actor" payload
    authorityRef := ← dictGet "authority_ref" payload
    privacyRef := ← dictGet "privacy_ref" payload
    provenanceRefs := ← pyTuple (← dictGet "provenance_refs" payload)
    operationId := ← dictGet "operation_id" payload
    projectId := ← dictGet "project_id" payload
    governedIdentityId := ← dictGet "governed_identity_id" payload
    supersedes := ← dictGet "supersedes" payload
    status := row.status
    supersededBy := row.supersededBy
    recordDigest := row.recordDigest }

def read (recordId : String) (expectedHead : Option String) (m : StoredMemory) :
    Except Failure MemoryRecord := do
  if expectedHead.any fun head => head ≠ m.head then
    throw ⟨.staleMemoryHead, "memory head mismatch"⟩
  match m.records.get? recordId with
  | none => .error ⟨.keyError, recordId⟩
  | some row => do
    let payload ← strictRecordPayload R row.payloadJson recordId row.recordDigest
    if !((dictGet? "supersedes" payload).getD .none).isOptional row.supersedesId then
      throw (memoryError "stored memory lineage relation mismatch")
    let successorId ← successorOf R recordId m.records
    if !columnsAgree row successorId then
      throw (memoryError "memory supersession status contradicts admitted successor")
    toRecord payload row

end StoredMemory

end VeraMono

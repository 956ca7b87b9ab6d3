import Mathlib
import VeraMono.Framework.WriteOnce
import VeraMono.Model.IntranelJson
import VeraMono.Proof.JsonRoundTrip

/-!
# The ingest pipeline

`vera_ingest`: `Ingestor.ingest` over a `FileSystemStore`, which creates each file by a link to a
temporary file that was written first. The store is a shelf of files that are written once; a JSON
file is the value it was written from, which `canonical_json` writes in one way and `json.loads`
reads back.
-/

namespace VeraMono.Ingest

open Framework

/-! ## Errors -/

inductive ErrorClass
  | unicodeDecodeError | unicodeEncodeError | jsonDecodeError | typeError | valueError | normalizationError
  | fileNotFoundError
  | other (name : String)
  deriving DecidableEq

structure PyError where
  kind : ErrorClass
  message : String
  deriving DecidableEq

inductive IngestError
  | storeConflict (message : String)
  | raised (error : PyError)
  deriving DecidableEq

/-- What the pipeline calls of Python's library; `V` is what `json.loads` makes of a payload. -/
structure Library (V : Type) where
  sha256 : ByteArray → String
  uuid : Nat → String
  loads : String → Except PyError V
  dumps : V → Except PyError Text
  decodeMessage : ByteArray → String
  encodeMessage : List Nat → String
  nfc : String → String
  strip : String → String
  lower : String → String
  splitlines : String → List String

/-! ## Values -/

abbrev JsonDict := { entries : List (String × Json) // (Json.obj entries).Readable }

def JsonDict.json (d : JsonDict) : Json := .obj d.val

inductive IngestStatus
  | accepted | duplicate | quarantined | rejected | failed
  deriving DecidableEq

def IngestStatus.value : IngestStatus → String
  | .accepted => "ACCEPTED"
  | .duplicate => "DUPLICATE"
  | .quarantined => "QUARANTINED"
  | .rejected => "REJECTED"
  | .failed => "FAILED"

structure SourceRef where
  scheme : String
  locator : String
  adapter : String
  adapterVersion : String
  observedAt : String
  sourceIdentity : JsonDict
  claimedMetadata : JsonDict
  observedMetadata : JsonDict
  deriving DecidableEq

def SourceRef.identityMaterial (source : SourceRef) : Json :=
  .obj [("scheme", .str source.scheme), ("locator", .str source.locator), ("adapter", .str source.adapter),
    ("adapter_version", .str source.adapterVersion), ("source_identity", source.sourceIdentity.json)]

def SourceRef.toDict (source : SourceRef) : Json :=
  .obj [("scheme", .str source.scheme), ("locator", .str source.locator), ("adapter", .str source.adapter),
    ("adapter_version", .str source.adapterVersion), ("source_identity", source.sourceIdentity.json),
    ("observed_at", .str source.observedAt), ("claimed_metadata", source.claimedMetadata.json),
    ("observed_metadata", source.observedMetadata.json)]

structure Acquisition where
  data : ByteArray
  source : SourceRef
  claimedMediaType : Option String

structure Artifact where
  artifactId : String
  sha256 : String
  sizeBytes : Nat
  mediaType : String
  kind : String
  storageLocator : String
  deriving DecidableEq

structure StageReceipt where
  receiptId : String
  ingestId : Option String
  stage : String
  stageVersion : String
  issuedAt : String
  outcome : String
  inputArtifactIds : List String
  outputArtifactIds : List String
  details : Json
  receiptDigest : String
  deriving DecidableEq

def optionalText : Option String → Json
  | none => .null
  | some text => .str text

def texts (values : List String) : Json := .arr (values.map .str)

def StageReceipt.body (receipt : StageReceipt) : Json :=
  .obj [("schema", .str "INGEST_STAGE_RECEIPT_V1"), ("receipt_id", .str receipt.receiptId),
    ("ingest_id", optionalText receipt.ingestId), ("stage", .str receipt.stage),
    ("stage_version", .str receipt.stageVersion), ("issued_at", .str receipt.issuedAt),
    ("outcome", .str receipt.outcome), ("input_artifact_ids", texts receipt.inputArtifactIds),
    ("output_artifact_ids", texts receipt.outputArtifactIds), ("details", receipt.details)]

structure Derivation where
  derivationId : String
  relation : String
  parentArtifactId : String
  childArtifactId : String
  receiptId : String
  deriving DecidableEq

structure IngestRecord where
  ingestId : String
  source : SourceRef
  rawArtifact : Artifact
  normalizedArtifact : Option Artifact
  status : IngestStatus
  evidenceClass : String
  normalizerVersion : String
  policyId : String
  receiptIds : List String
  derivationIds : List String := []
  warnings : List String
  error : Option String := none
  deriving DecidableEq

structure IngestResult where
  ingestId : Option String
  status : IngestStatus
  source : Option SourceRef := none
  rawArtifact : Option Artifact := none
  normalizedArtifact : Option Artifact := none
  receiptIds : List String := []
  derivationIds : List String := []
  warnings : List String := []
  error : Option String := none
  deriving DecidableEq

/-- The bound of a policy, and the digest of all its fields. -/
structure IngestPolicy where
  maxBytes : Int
  policyId : String

/-- What `policy.validate`, `_adapter` and `acquire` came to. -/
inductive Acquired
  | acquisition (acquisition : Acquisition)
  | policyRejected (message : String)
  | acquisitionFailed (message : String)
  | raised (error : PyError)

/-- A call of `ingest`; `clock` is what `now_iso` says at each of its receipts. -/
structure IngestCall where
  acquired : Acquired
  policy : IngestPolicy
  clock : Nat → String

/-! ## The store -/

inductive Path
  | blob (digest : String)
  | record (ingestId : String)
  | receipt (receiptId : String)
  | derivation (derivationId : String)
  deriving DecidableEq

inductive File
  | blob (data : ByteArray)
  | record (record : IngestRecord)
  | receipt (receipt : StageReceipt)
  | derivation (derivation : Derivation)
  deriving DecidableEq

abbrev FileSystemStore := Shelf Path File StageReceipt

abbrev Stored (α : Type) := Prog Empty FileSystemStore IngestError α

def Path.posix : Path → String
  | .blob digest => "blobs/sha256/" ++ (digest.take 2).toString ++ "/" ++ digest
  | .record ingestId => "records/" ++ ingestId ++ ".json"
  | .receipt receiptId => "receipts/" ++ receiptId ++ ".json"
  | .derivation derivationId => "derivations/" ++ derivationId ++ ".json"

def fileNotFound (path : Path) : IngestError := .raised ⟨.fileNotFoundError, path.posix⟩

def atomicCreate (path : Path) (file : File) : Stored Bool :=
  Shelf.createOnce path file (.storeConflict ("immutable path collision: " ++ path.posix)) (fileNotFound path)

def getRecord (ingestId : String) : Stored IngestRecord :=
  Shelf.look (.record ingestId) >>= fun
    | some (.record record) => .ret record
    | _ => .raise (fileNotFound (.record ingestId))

def getDerivation (derivationId : String) : Stored Derivation :=
  Shelf.look (.derivation derivationId) >>= fun
    | some (.derivation derivation) => .ret derivation
    | _ => .raise (fileNotFound (.derivation derivationId))

variable {V : Type} (py : Library V)

def canonicalDigest (value : Json) : String :=
  py.sha256 (String.ofList (Intranel.sortKeys value).dumps).toByteArray

def artifactOf (data : ByteArray) (mediaType kind : String) : Artifact where
  artifactId := "sha256:" ++ py.sha256 data
  sha256 := py.sha256 data
  sizeBytes := data.size
  mediaType := mediaType
  kind := kind
  storageLocator := (Path.blob (py.sha256 data)).posix

def putBlob (data : ByteArray) (mediaType kind : String) : Stored (Artifact × Bool) := do
  let created ← atomicCreate (.blob (py.sha256 data)) (.blob data)
  return (artifactOf py data mediaType kind, created)

/-! ## Normalisation -/

def normalizerVersion : String := "ingest-normalizer-v1"

def decode (data : ByteArray) : Except PyError String :=
  match String.fromUTF8? data with
  | some text => .ok text
  | none => .error ⟨.unicodeDecodeError, py.decodeMessage data⟩

def encode : Text → Except PyError ByteArray
  | .valid text => .ok text.toUTF8
  | .surrogates codePoints => .error ⟨.unicodeEncodeError, py.encodeMessage codePoints⟩

def cleanMediaType (mediaType : String) : String :=
  py.lower (py.strip (String.ofList (mediaType.toList.takeWhile fun c => c ≠ ';')))

def isSpaceByte (b : UInt8) : Bool := b = 32 || (9 ≤ b && b ≤ 13)

/-- Whether the content starts like a JSON container. -/
def opensJson (data : ByteArray) : Bool :=
  (data.data.toList.dropWhile isSpaceByte).head?.any fun b => b = 123 || b = 91

def sniffText (data : ByteArray) : String :=
  match String.fromUTF8? data with
  | none => "application/octet-stream"
  | some text => if Char.ofNat 0 ∈ text.toList then "application/octet-stream" else "text/plain"

def sniffMediaType (data : ByteArray) : Except PyError String :=
  if opensJson data then
    match decode py data >>= py.loads with
    | .ok _ => .ok "application/json"
    | .error e =>
      if e.kind = .unicodeDecodeError ∨ e.kind = .jsonDecodeError then .ok (sniffText data) else .error e
  else .ok (sniffText data)

def normalizationError (message : String) : PyError := ⟨.normalizationError, message⟩

def normalizeJson (data : ByteArray) : Except PyError ByteArray :=
  match (do encode py (← py.dumps (← py.loads (← decode py data)))) with
  | .ok normalized => .ok normalized
  | .error e =>
    if e.kind ∈ [.unicodeDecodeError, .unicodeEncodeError, .jsonDecodeError, .typeError, .valueError] then
      .error (normalizationError ("invalid JSON: " ++ e.message))
    else .error e

def canonicalLines (index : Nat) : List String → Except PyError (List Text)
  | [] => .ok []
  | line :: rest =>
    if py.strip line = "" then canonicalLines (index + 1) rest
    else
      match py.loads line >>= py.dumps with
      | .ok canonical => return canonical :: (← canonicalLines (index + 1) rest)
      | .error e =>
        if e.kind ∈ [.jsonDecodeError, .typeError, .valueError] then
          .error (normalizationError ("invalid JSONL line " ++ toString index ++ ": " ++ e.message))
        else .error e

def normalizeJsonl (data : ByteArray) : Except PyError ByteArray :=
  match decode py data with
  | .error _ => .error (normalizationError "JSONL is not valid UTF-8")
  | .ok text => do
    let lines ← canonicalLines py 1 (py.splitlines text)
    encode py (Text.ofCodePoints (lines.flatMap fun line => line.codePoints ++ [10]))

def normalizeText (data : ByteArray) : Except PyError ByteArray :=
  match decode py data with
  | .error _ => .error (normalizationError "text payload is not valid UTF-8")
  | .ok text => .ok (py.nfc ((text.replace "\r\n" "\n").replace "\r" "\n")).toUTF8

def normalizeBytes (data : ByteArray) (mediaType : String) : Except PyError (Option ByteArray) :=
  let cleaned := cleanMediaType py mediaType
  let mediaType := if cleaned = "" then "application/octet-stream" else cleaned
  if mediaType ∈ ["application/json", "text/json"] then (normalizeJson py data).map some
  else if mediaType ∈ ["application/x-ndjson", "application/jsonl"] then (normalizeJsonl py data).map some
  else if mediaType.startsWith "text/" then (normalizeText py data).map some
  else .ok none

/-! ## The pipeline -/

/-- `_receipt`: the `n`-th receipt of a call. -/
def receipt (call : IngestCall) (n : Nat) (ingestId : Option String) (stage outcome : String)
    (inputIds outputIds : List String) (details : Json) : Stored StageReceipt := do
  let receipt ← Shelf.record fun drawn =>
    let body : StageReceipt := {
      receiptId := py.uuid drawn.length
      ingestId
      stage
      stageVersion := "1"
      issuedAt := call.clock n
      outcome
      inputArtifactIds := inputIds
      outputArtifactIds := outputIds
      details
      receiptDigest := "" }
    { body with receiptDigest := canonicalDigest py body.body }
  let _ ← atomicCreate (.receipt receipt.receiptId) (.receipt receipt)
  return receipt

def resultFromExisting (call : IngestCall) (ingestId : String) (acquisition : Acquisition) (rawArtifact : Artifact)
    (receiptIds warnings : List String) (existing : IngestRecord) : Stored IngestResult := do
  let status := if existing.status = .accepted then IngestStatus.duplicate else existing.status
  let outcome := if status = .duplicate then "DUPLICATE" else "DUPLICATE_" ++ existing.status.value
  let duplicate ← receipt py call receiptIds.length (some ingestId) "duplicate_check" outcome
    [rawArtifact.artifactId] [] (.obj [("existing_status", .str existing.status.value)])
  return {
    ingestId := some ingestId
    status
    source := some acquisition.source
    rawArtifact := some rawArtifact
    normalizedArtifact := existing.normalizedArtifact
    receiptIds := receiptIds ++ [duplicate.receiptId]
    warnings := if status ≠ .duplicate then warnings ++ ["duplicate_existing_record"] else warnings
    error := existing.error }

/-- What `_record_semantics` keeps of a record. Dicts are equal whatever the order of their keys. -/
structure RecordSemantics where
  ingestId : String
  source : String × String × String × String × Json
  rawArtifact : Artifact
  normalizedArtifact : Option Artifact
  status : IngestStatus
  evidenceClass : String
  normalizerVersion : String
  policyId : String
  derivationIds : List String
  warnings : List String
  error : Option String
  deriving DecidableEq

/-- The identity of a source in `_record_semantics`. -/
def SourceRef.semantics (source : SourceRef) : String × String × String × String × Json :=
  (source.scheme, source.locator, source.adapter, source.adapterVersion, Intranel.sortKeys source.sourceIdentity.json)

/-- `_record_semantics`. -/
def IngestRecord.semantics (record : IngestRecord) : RecordSemantics where
  ingestId := record.ingestId
  source := record.source.semantics
  rawArtifact := record.rawArtifact
  normalizedArtifact := record.normalizedArtifact
  status := record.status
  evidenceClass := record.evidenceClass
  normalizerVersion := record.normalizerVersion
  policyId := record.policyId
  derivationIds := record.derivationIds
  warnings := record.warnings
  error := record.error

/-- The record that is there, if it says what the candidate says. -/
def existingRecord (candidate : IngestRecord) (conflict : IngestError) : Stored IngestRecord := do
  let existing ← getRecord candidate.ingestId
  if existing.semantics ≠ candidate.semantics then throw conflict
  return existing

/-- `_put_record_or_existing`: the record that was there, if there was one. -/
def putRecordOrExisting (record : IngestRecord) : Stored (Option IngestRecord) := do
  let put : Bool ⊕ IngestRecord ←
    tryCatch ((atomicCreate (.record record.ingestId) (.record record)).map .inl) fun e =>
      match e with
      | .storeConflict _ => (existingRecord record e).map .inr
      | .raised _ => throw e
  match put with
  | .inl true => return none
  | .inl false =>
    let existing ← existingRecord record
      (.storeConflict ("record at ingest_id=" ++ record.ingestId ++ " has conflicting semantics"))
    return some existing
  | .inr existing => return some existing

/-- What a call has come to once its content is stored. -/
structure Item where
  ingestId : String
  acquisition : Acquisition
  sniffed : String
  claimed : Option String
  rawArtifact : Artifact
  policyId : String

def mismatchWarning (claimed sniffed : String) : String :=
  "media_type_mismatch: claimed=" ++ claimed ++ " sniffed=" ++ sniffed

def claimedMediaType (acquisition : Acquisition) : Option String :=
  match acquisition.claimedMediaType with
  | none => none
  | some mediaType => if mediaType = "" then none else some (cleanMediaType py mediaType)

namespace Item

def claim (item : Item) : Option String := item.claimed.filter fun claimed => claimed ≠ ""

def effectiveMedia (item : Item) : String := item.claim.getD item.sniffed

def warnings (item : Item) : List String :=
  match item.claim with
  | none => []
  | some claimed => if claimed ≠ item.sniffed then [mismatchWarning claimed item.sniffed] else []

def record (item : Item) (normalized : Option Artifact) (status : IngestStatus)
    (receiptIds derivationIds : List String)
    (error : Option String) : IngestRecord where
  ingestId := item.ingestId
  source := item.acquisition.source
  rawArtifact := item.rawArtifact
  normalizedArtifact := normalized
  status := status
  evidenceClass := "DIRECT_SOURCE"
  normalizerVersion := normalizerVersion
  policyId := item.policyId
  receiptIds := receiptIds
  derivationIds := derivationIds
  warnings := item.warnings
  error := error

end Item

def IngestRecord.result (record : IngestRecord) : IngestResult where
  ingestId := some record.ingestId
  status := record.status
  source := some record.source
  rawArtifact := some record.rawArtifact
  normalizedArtifact := record.normalizedArtifact
  receiptIds := record.receiptIds
  derivationIds := record.derivationIds
  warnings := record.warnings
  error := record.error

def commit (call : IngestCall) (item : Item) (record : IngestRecord) : Stored IngestResult := do
  match ← putRecordOrExisting record with
  | some existing =>
    resultFromExisting py call item.ingestId item.acquisition item.rawArtifact record.receiptIds item.warnings
      existing
  | none => return record.result

/-- The record of a content that is not what it claims to be, or cannot be normalised. -/
def quarantine (call : IngestCall) (item : Item) (receiptIds : List String)
    (error : String) : Stored IngestResult := do
  let receipt ← receipt py call receiptIds.length (some item.ingestId) "normalize" "QUARANTINED"
    [item.rawArtifact.artifactId] [] (.obj [("error", .str error)])
  commit py call item (item.record none .quarantined (receiptIds ++ [receipt.receiptId]) [] (some error))

def derivationId (parent child : String) : String :=
  canonicalDigest py (.obj [("relation", .str "NORMALIZED_FROM"), ("parent", .str parent), ("child", .str child),
    ("normalizer_version", .str normalizerVersion)])

/-- The derivation of a normalised content, which may be there from another receipt. -/
def derive (derivation : Derivation) : Stored Unit :=
  tryCatch ((atomicCreate (.derivation derivation.derivationId) (.derivation derivation)).map fun _ => ()) fun e =>
    match e with
    | .storeConflict _ => do
      let existing ← getDerivation derivation.derivationId
      if existing.relation ≠ derivation.relation ∨ existing.parentArtifactId ≠ derivation.parentArtifactId ∨
          existing.childArtifactId ≠ derivation.childArtifactId then throw e
    | .raised _ => throw e

structure Normalized where
  artifact : Option Artifact
  receiptIds : List String
  derivationIds : List String

def storeNormalized (call : IngestCall) (item : Item) (receiptIds : List String) :
    Option ByteArray → Stored Normalized
  | some normalized => do
    let (artifact, _) ← putBlob py normalized item.effectiveMedia "normalized"
    let receipt ← receipt py call receiptIds.length (some item.ingestId) "normalize" "PASS"
      [item.rawArtifact.artifactId] [artifact.artifactId]
      (.obj [("normalizer_version", .str normalizerVersion), ("media_type", .str item.effectiveMedia)])
    let receiptIds := receiptIds ++ [receipt.receiptId]
    if artifact.artifactId ≠ item.rawArtifact.artifactId then
      let id := derivationId py item.rawArtifact.artifactId artifact.artifactId
      derive ⟨id, "NORMALIZED_FROM", item.rawArtifact.artifactId, artifact.artifactId, receipt.receiptId⟩
      return ⟨some artifact, receiptIds, [id]⟩
    else return ⟨some artifact, receiptIds, []⟩
  | none => do
    let receipt ← receipt py call receiptIds.length (some item.ingestId) "normalize" "SKIPPED_OPAQUE"
      [item.rawArtifact.artifactId] [] (.obj [("media_type", .str item.effectiveMedia)])
    return ⟨none, receiptIds ++ [receipt.receiptId], []⟩

/-- The last receipt before an accepted record, and the record. -/
def accept (call : IngestCall) (item : Item) (normalized : Normalized) : Stored IngestResult := do
  let ready ← receipt py call normalized.receiptIds.length (some item.ingestId) "record" "READY"
    [item.rawArtifact.artifactId] (normalized.artifact.toList.map Artifact.artifactId)
    (.obj [("policy_id", .str item.policyId), ("commit_semantics", .str "record_presence_commits_acceptance")])
  commit py call item (item.record normalized.artifact .accepted (normalized.receiptIds ++ [ready.receiptId])
    normalized.derivationIds none)

def claimedJsonError : String := "claimed structured JSON media type does not match parseable JSON content"

def normalizeItem (call : IngestCall) (item : Item) (receiptIds : List String) : Stored IngestResult :=
  if (item.claimed = some "application/json" ∨ item.claimed = some "text/json") ∧
      item.sniffed ≠ "application/json" then
    quarantine py call item receiptIds claimedJsonError
  else
    match normalizeBytes py item.acquisition.data item.effectiveMedia with
    | .error e => if e.kind = .normalizationError then quarantine py call item receiptIds e.message else .raise
        (.raised e)
    | .ok normalized => do accept py call item (← storeNormalized py call item receiptIds normalized)

/-- The digest under which an acquisition is recorded. -/
def ingestIdOf (source : SourceRef) (rawSha256 : String) (claimed : Option String) (policyId : String) : String :=
  canonicalDigest py (.obj [("schema", .str "INGEST_IDENTITY_V1"), ("source", source.identityMaterial),
    ("raw_sha256", .str rawSha256), ("claimed_media_type", optionalText claimed),
    ("normalizer_version", .str normalizerVersion), ("policy_id", .str policyId)])

/-- The item of an acquisition whose content was sniffed. -/
def itemOf (acquisition : Acquisition) (policyId sniffed : String) : Item where
  ingestId := ingestIdOf py acquisition.source (py.sha256 acquisition.data) (claimedMediaType py acquisition) policyId
  acquisition := acquisition
  sniffed := sniffed
  claimed := claimedMediaType py acquisition
  rawArtifact := artifactOf py acquisition.data sniffed "raw"
  policyId := policyId

def ingestContent (call : IngestCall) (acquisition : Acquisition)
    (receiptIds : List String) : Stored IngestResult := do
  let sniffed ← Prog.ofExcept ((sniffMediaType py acquisition.data).mapError .raised)
  let item := itemOf py acquisition call.policy.policyId sniffed
  let (rawArtifact, created) ← putBlob py acquisition.data sniffed "raw"
  let receipt ← receipt py call receiptIds.length none "persist_raw" (if created then "CREATED" else "EXISTS") []
    [rawArtifact.artifactId] (.obj [("media_type", .str sniffed), ("claimed_media_type", optionalText item.claimed)])
  let receiptIds := receiptIds ++ [receipt.receiptId]
  let present ← Shelf.look (.record item.ingestId)
  if present.isSome then
    let existing ← getRecord item.ingestId
    resultFromExisting py call item.ingestId acquisition rawArtifact receiptIds item.warnings existing
  else normalizeItem py call item receiptIds

def ingestAcquisition (call : IngestCall) (acquisition : Acquisition) : Stored IngestResult := do
  let acquired ← receipt py call 0 none "acquire" "PASS" [] []
    (.obj [("source", acquisition.source.toDict), ("size_bytes", .int acquisition.data.size)])
  if (acquisition.data.size : Int) > call.policy.maxBytes then
    let bounds ← receipt py call 1 none "bounds" "REJECTED" [] []
      (.obj [("max_bytes", .int call.policy.maxBytes), ("observed_bytes", .int acquisition.data.size)])
    return {
      ingestId := none
      status := .rejected
      source := some acquisition.source
      receiptIds := [acquired.receiptId, bounds.receiptId]
      error := some ("payload exceeds max_bytes=" ++ toString call.policy.maxBytes) }
  else ingestContent py call acquisition [acquired.receiptId]

def ingest (call : IngestCall) : Stored IngestResult :=
  match call.acquired with
  | .acquisition acquisition => ingestAcquisition py call acquisition
  | .policyRejected message => .ret { ingestId := none, status := .rejected, error := some message }
  | .acquisitionFailed message => .ret { ingestId := none, status := .failed, error := some message }
  | .raised error => .raise (.raised error)

def emptyStore : FileSystemStore := ⟨fun _ => none, []⟩

end VeraMono.Ingest

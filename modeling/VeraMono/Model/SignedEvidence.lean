import VeraMono.Model.StoredLedgers

/-!
# Signed evidence

What the transports of `behavior_attestation.py` and `independent_behavior_review.py` read:
a file with a JSON document, its digests and base64 fields, and the answer of a verifier
whose keys are not Vera's.
-/

namespace VeraMono

namespace PyValue

/-- The value is the string. -/
def equalsText (value : PyValue) (t : Text) : Bool := value.keyText = some t

def isNone : PyValue → Bool
  | .none => true
  | _ => false

/-- The value is the string, or `None` as this is. -/
def equalsOptional (value : PyValue) : Option Text → Bool
  | Option.none => value.isNone
  | some t => value.equalsText t

def isBool : PyValue → Bool
  | .bool _ => true
  | _ => false

def isTrue : PyValue → Bool
  | .bool b => b
  | _ => false

def ofText (t : Option Text) : PyValue := t.elim .none .str

end PyValue

namespace SignedEvidence

/-- What the code asks of the standard library. -/
structure EvidenceRuntime extends PyRuntime where
  /-- `int(value, 16)` raises nothing. -/
  hexInteger : Text → Bool
  /-- `base64.b64decode(value, validate=True)` of ASCII characters. -/
  b64decode : String → Option ByteArray

variable (R : EvidenceRuntime)

/-- `_digest` and `_require_digest`. -/
def exactDigest (kind : ExceptionClass) (label : String) (value : PyValue) : Except Failure Unit :=
  match value.keyText with
  | none => .error ⟨kind, s!"{label} must be an exact SHA-256 digest"⟩
  | some t =>
    if t.codePoints.length ≠ 64 then .error ⟨kind, s!"{label} must be an exact SHA-256 digest"⟩
    else if ¬ R.hexInteger t then .error ⟨kind, s!"{label} must be hexadecimal"⟩
    else .ok ()

/-- A text that is not empty. -/
def requireFilled (kind : ExceptionClass) (message : String) (value : PyValue) : Except Failure Unit :=
  if value.keyText.any fun t => t.codePoints ≠ [] then .ok () else .error ⟨kind, message⟩

/-! ## Files -/

inductive FileBytes
  | utf8 (text : String)
  | undecodable (data : ByteArray)

/-- A file that a transport reads, under its resolved path. -/
structure EvidenceFile where
  path : Text
  bytes : Option FileBytes

/-- `sha256_hex` of the bytes of a file. -/
def FileBytes.sha256 : FileBytes → String
  | .utf8 text => R.sha256Text text
  | .undecodable data => R.sha256 data

/-- `json.loads(raw.decode("utf-8"))`, with what is raised for bytes that are no JSON text. -/
def FileBytes.loads (invalid : Failure) : FileBytes → Except Failure PyValue
  | .undecodable _ => .error invalid
  | .utf8 text =>
    match jsonLoads (defaultHooks R.pyFloat) text with
    | .ok value => .ok value
    | .error (.decode _ _) => .error invalid
    | .error (.raised failure) => .error failure

abbrev JsonObject : Type := List (PyValue × PyValue)

/-- `payload[key]`. -/
def JsonObject.item (payload : JsonObject) (key : String) : Except Failure PyValue :=
  match payload.find? fun e => e.1.keyText = some (.valid key) with
  | some e => .ok e.2
  | none => .error ⟨.keyError, key⟩

def b64Bytes (value : PyValue) : Option ByteArray :=
  match value.keyText with
  | some (.valid s) => if s.toList.all fun c => c.toNat < 128 then R.b64decode s else none
  | _ => none

/-! ## Verifiers -/

structure SignatureVerifier where
  actorId : Text
  keyId : Text
  keyDigest : Text
  verify : ByteArray → PyValue → Except Failure Bool

/-- Only what the holder of the key signed is verified. -/
def SignatureVerifier.Unforgeable (v : SignatureVerifier) (signed : ByteArray → Prop) : Prop :=
  ∀ subject signature, v.verify subject signature = .ok true → signed subject

end SignedEvidence

/-! ## Behaviour and effect receipts -/

/-- The fields of a `BehaviorEffectRequirement` that reviews and attestations read. -/
structure BehaviorEffectRequirement where
  evidenceKind : Text
  expectedStimulusDigest : Text
  expectedOutcomeDigest : Text

/-- The fields of a `BehaviorEffectVerificationReceipt` that reviews and attestations read. -/
structure BehaviorEffectReceipt where
  consumerId : Text
  probeId : Text
  evidenceKind : Text
  observedProcessInstanceId : Option Text
  observedRuntimeStateDigest : Option Text
  observedStimulusDigest : Option Text
  observedOutcomeDigest : Option Text
  externalEffectId : Option Text
  externalEffectReceiptDigest : Option Text
  status : Text
  receiptDigest : Text

end VeraMono

import VeraMono.Framework.DepthFirst
import VeraMono.Model.StoredMemory
import VeraMono.Model.VeraWorks

/-!
# Evidence lineage

`validate_record` and `validate_evidence_graph` of Skeleton Key's `evidence.py`. A record is a mapping
with any values. The search for cycles is given as many levels as there are records, and one more.
-/

namespace VeraMono.EvidenceGraph

open Framework
open VeraWorks (hashable)

abbrev Record := List (PyValue × PyValue)

structure Printing where
  str : PyValue → Text
  repr : PyValue → String

variable (P : Printing)

def evidenceError (message : String) : Failure := ⟨.valueError, message⟩

/-! ## Values -/

def inTexts (texts : List String) (value : PyValue) : Except Failure Bool :=
  if hashable value then .ok (texts.any fun text => value.isText text)
  else .error ⟨.typeError, "unhashable type"⟩

/-- A value as an integer. A boolean is one. -/
def asInt? : PyValue → Option Int
  | .int i => some i
  | .bool b => some (if b then 1 else 0)
  | _ => none

def nonEmptyText? : PyValue → Option Text
  | .str t => if t.codePoints = [] then none else some t
  | _ => none

def textList? : PyValue → Option (List Text)
  | .list items => items.mapM nonEmptyText?
  | _ => none

def isHex (c : Char) : Bool := ('0' ≤ c && c ≤ '9') || ('a' ≤ c && c ≤ 'f')

/-- `_DIGEST_PATTERN`. -/
def isDigest : Text → Bool
  | .valid s => s.toList.take 7 = "sha256:".toList && (s.toList.drop 7).length = 64 && (s.toList.drop 7).all isHex
  | .surrogates _ => false

/-- A number between 0 and 1 that is no boolean. -/
def isConfidence : PyValue → Bool
  | .int i => 0 ≤ i && i ≤ 1
  | .float (some q) => 0 ≤ q && q ≤ 1
  | _ => false

/-! ## One record -/

def hasField (record : Record) (key : String) : Bool := (dictGet? key record).isSome

def requireFields (record : Record) (fields : List String) : Except Failure Unit :=
  let missing := (fields.filter fun field => !hasField record field).insertionSort (· ≤ ·)
  if missing = [] then .ok ()
  else .error (evidenceError ("missing required fields: " ++ ", ".intercalate missing))

def commonRequired : List String :=
  ["record_id", "capture_session_id", "evidence_class", "payload_digest", "clock_domain_id", "sequence_start",
    "sequence_end", "validity"]

def field (record : Record) (key : String) : PyValue := (dictGet? key record).getD .none

def recordId (record : Record) : Option Text := nonEmptyText? (field record "record_id")

/-- `record["evidence_class"] == evidenceClass`. -/
def hasClass (record : Record) (evidenceClass : String) : Bool := (field record "evidence_class").isText evidenceClass

def transformFields (record : Record) : List String :=
  ["parent_record_ids", "procedure_id", "rule_id"].filter (hasField record)

/-- Raises unless a condition holds. -/
def ensure (condition : Bool) (message : String) : Except Failure Unit :=
  if condition then .ok () else .error (evidenceError message)

/-- What is asked of a record that is not measured. -/
def validateTransform (record : Record) : Except Failure Unit := do
  let shown := (P.str (field record "evidence_class")).display
  ensure (textList? (field record "parent_record_ids") |>.any fun parents => !parents.isEmpty)
    s!"{shown} records require parent_record_ids"
  if hasClass record "DERIVED" then
    requireFields record ["procedure_id", "procedure_version", "parameter_digest"]
    ensure (!hasField record "rule_id") "DERIVED records cannot contain an inference rule"
  else
    requireFields record ["rule_id", "rule_version", "assumptions", "alternatives", "confidence"]
    ensure (!hasField record "procedure_id") "INFERRED records cannot masquerade as a deterministic derivation"
    ensure (isConfidence (field record "confidence")) "confidence must be numeric and between 0 and 1"

def validateLineage (record : Record) : Except Failure Unit :=
  if hasClass record "MEASURED" then
    let forbidden := transformFields record
    ensure forbidden.isEmpty ("MEASURED records cannot contain semantic-transform lineage: " ++
      ", ".intercalate (forbidden.insertionSort (· ≤ ·)))
  else validateTransform P record

def validateBounds (record : Record) : Except Failure Unit :=
  match asInt? (field record "sequence_start"), asInt? (field record "sequence_end") with
  | some start, some stop => ensure (start ≤ stop) "sequence_start cannot exceed sequence_end"
  | _, _ => .error (evidenceError "sequence bounds must be integers")

def validateRecord (record : Record) : Except Failure Unit := do
  requireFields record commonRequired
  let evidenceClass := field record "evidence_class"
  let known ← inTexts ["MEASURED", "DERIVED", "INFERRED"] evidenceClass
  ensure known s!"unknown evidence class: {P.repr evidenceClass}"
  let validity := field record "validity"
  let knownValidity ← inTexts ["VALID", "SUSPECT", "INVALID", "UNKNOWN"] validity
  ensure knownValidity s!"unknown validity: {P.repr validity}"
  ensure (isDigest (P.str (field record "payload_digest"))) "payload_digest must be a lowercase sha256 digest"
  validateBounds record
  validateLineage P record

/-! ## The graph -/

/-- `by_id`: the records by their identifiers, in order. -/
abbrev Index := List (Text × Record)

/-- `by_id.get(id)`. -/
def recordOf (index : Index) (id : Text) : Option Record := index.lookup id

/-- `record.get("parent_record_ids", [])`, of a valid record. -/
def parentsOf (record : Record) : List Text := (textList? (field record "parent_record_ids")).getD []

def indexRecord (index : Index) (record : Record) : Except Failure Index := do
  validateRecord P record
  match recordId record with
  | none => throw (evidenceError "record_id must be a non-empty string")
  | some id =>
    if (recordOf index id).isSome then throw (evidenceError s!"duplicate record_id: {id.display}")
    else return index ++ [(id, record)]

/-- The first loop. -/
def indexRecords (records : List Record) : Except Failure Index := records.foldlM (indexRecord P) []

def checkParent (index : Index) (id : Text) (record : Record) (parent : Text) : Except Failure Unit :=
  match recordOf index parent with
  | none => .error (evidenceError s!"record {id.display} has missing parent {parent.display}")
  | some parentRecord =>
    if hasClass record "DERIVED" && hasClass parentRecord "INFERRED" then
      .error (evidenceError s!"DERIVED record {id.display} cannot depend on INFERRED {parent.display}")
    else .ok ()

def parentIds (index : Index) (id : Text) : List Text := ((recordOf index id).map parentsOf).getD []

def cycleError (id : Text) : Failure := evidenceError s!"lineage cycle includes {id.display}"

def validateEvidenceGraph (records : List Record) : Except Failure Unit := do
  let index ← indexRecords P records
  index.forM fun entry => (parentsOf entry.2).forM (checkParent index entry.1 entry.2)
  let _ ← visitNodes (parentIds index) cycleError (index.length + 1) (index.map Prod.fst) {}

end VeraMono.EvidenceGraph

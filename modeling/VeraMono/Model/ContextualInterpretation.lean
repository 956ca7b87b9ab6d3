import VeraMono.Framework.Prog
import VeraMono.Framework.Table
import VeraMono.Model.TaskExecution
import Mathlib.Data.Finset.Sort

/-!
# Contextual interpretations

`ContextualInterpretationStore` of `vera_identity`'s `contextual_interpretation.py`. Nothing is
ever deleted or rewritten: two tables of rows that carry the canonical JSON of a record and its
digest.
-/

open VeraMono.Framework

namespace VeraMono.Contextual

/-- What a call raises: `ContextualInterpretationError`, `ContextualInterpretationConflict`, a
`KeyError`, or the `IntegrityError` of a key that another connection took. -/
inductive StoreError
  | invalid (message : String)
  | conflict (message : String)
  | missing (key : String)
  | integrity
  deriving DecidableEq, Repr

/-- `_CORRUPT_PREFIX`. -/
def corrupt (what : String) : StoreError := .invalid s!"CORRUPT_CONTEXTUAL_INTERPRETATION_STATE:{what}"

/-! ## Records -/

def requireExactNonempty (value field : String) : Except StoreError Unit :=
  if nonblank value then .ok () else .error (.invalid s!"{field} must be a non-empty exact string")

/-- `_validate_context_atoms`, and `_normalize_query_context` with the field `context`. -/
def validateContextAtoms (value : Finset String) (field : String) : Except StoreError Unit :=
  if ∀ atom ∈ value, nonblank atom then .ok () else .error (.invalid s!"{field} must be a non-empty exact string")

/-- What `ContextualInterpretation.__post_init__` accepts. -/
structure ValidInterpretation (interpretationId objectId meaning sourceRef : String)
    (requiredContext excludedContext : Finset String) (supersedesId : Option String) : Prop where
  textId : nonblank interpretationId
  textObject : nonblank objectId
  textMeaning : nonblank meaning
  textSource : nonblank sourceRef
  required : ∀ atom ∈ requiredContext, nonblank atom
  excluded : ∀ atom ∈ excludedContext, nonblank atom
  disjoint : requiredContext ∩ excludedContext = ∅
  supersedes : ∀ target, supersedesId = some target → nonblank target

structure ContextualInterpretation where
  interpretationId : String
  objectId : String
  meaning : String
  sourceRef : String
  requiredContext : Finset String
  excludedContext : Finset String
  supersedesId : Option String
  valid : ValidInterpretation interpretationId objectId meaning sourceRef requiredContext excludedContext supersedesId
  deriving DecidableEq

/-- The constructor: the first field that `__post_init__` rejects is the one it names. -/
def ContextualInterpretation.make (interpretationId objectId meaning sourceRef : String)
    (requiredContext excludedContext : Finset String) (supersedesId : Option String) :
    Except StoreError ContextualInterpretation :=
  if hid : nonblank interpretationId then
    if hobject : nonblank objectId then
      if hmeaning : nonblank meaning then
        if hsource : nonblank sourceRef then
          if hrequired : ∀ atom ∈ requiredContext, nonblank atom then
            if hexcluded : ∀ atom ∈ excludedContext, nonblank atom then
              if hdisjoint : requiredContext ∩ excludedContext = ∅ then
                if hsupersedes : ∀ target, supersedesId = some target → nonblank target then
                  .ok ⟨interpretationId, objectId, meaning, sourceRef, requiredContext, excludedContext,
                    supersedesId, ⟨hid, hobject, hmeaning, hsource, hrequired, hexcluded, hdisjoint, hsupersedes⟩⟩
                else .error (.invalid "supersedes_id must be a non-empty exact string")
              else .error (.invalid "required_context and excluded_context must be disjoint")
            else .error (.invalid "excluded_context must be a non-empty exact string")
          else .error (.invalid "required_context must be a non-empty exact string")
        else .error (.invalid "source_ref must be a non-empty exact string")
      else .error (.invalid "meaning must be a non-empty exact string")
    else .error (.invalid "object_id must be a non-empty exact string")
  else .error (.invalid "interpretation_id must be a non-empty exact string")

namespace ContextualInterpretation

def specificity (v : ContextualInterpretation) : Nat := v.requiredContext.card + v.excludedContext.card

/-- The manifest with its keys in the order in which `sort_keys` writes them. -/
def manifest (v : ContextualInterpretation) : Json :=
  .obj [("excluded_context", .arr ((v.excludedContext.sort (· ≤ ·)).map .str)),
    ("interpretation_id", .str v.interpretationId),
    ("meaning", .str v.meaning),
    ("object_id", .str v.objectId),
    ("required_context", .arr ((v.requiredContext.sort (· ≤ ·)).map .str)),
    ("source_ref", .str v.sourceRef),
    ("supersedes_id", v.supersedesId.elim .null .str)]

end ContextualInterpretation

inductive InterpretationRelationKind
  | contrastsWith | contradicts | supports | refines
  deriving DecidableEq, Repr

def InterpretationRelationKind.value : InterpretationRelationKind → String
  | .contrastsWith => "CONTRASTS_WITH"
  | .contradicts => "CONTRADICTS"
  | .supports => "SUPPORTS"
  | .refines => "REFINES"

def InterpretationRelationKind.ofText? : String → Option InterpretationRelationKind
  | "CONTRASTS_WITH" => some .contrastsWith
  | "CONTRADICTS" => some .contradicts
  | "SUPPORTS" => some .supports
  | "REFINES" => some .refines
  | _ => none

/-- What `InterpretationRelation.__post_init__` accepts. -/
structure ValidRelation (relationId leftId rightId sourceRef : String) : Prop where
  textId : nonblank relationId
  textLeft : nonblank leftId
  textRight : nonblank rightId
  textSource : nonblank sourceRef
  distinct : leftId ≠ rightId

structure InterpretationRelation where
  relationId : String
  leftId : String
  rightId : String
  kind : InterpretationRelationKind
  sourceRef : String
  valid : ValidRelation relationId leftId rightId sourceRef
  deriving DecidableEq

namespace InterpretationRelation

def make (relationId leftId rightId : String) (kind : InterpretationRelationKind) (sourceRef : String) :
    Except StoreError InterpretationRelation :=
  if hid : nonblank relationId then
    if hleft : nonblank leftId then
      if hright : nonblank rightId then
        if hsource : nonblank sourceRef then
          if hdistinct : leftId ≠ rightId then
            .ok ⟨relationId, leftId, rightId, kind, sourceRef, ⟨hid, hleft, hright, hsource, hdistinct⟩⟩
          else .error (.invalid "relation endpoints must be distinct")
        else .error (.invalid "source_ref must be a non-empty exact string")
      else .error (.invalid "right_id must be a non-empty exact string")
    else .error (.invalid "left_id must be a non-empty exact string")
  else .error (.invalid "relation_id must be a non-empty exact string")

def manifest (r : InterpretationRelation) : Json :=
  .obj [("kind", .str r.kind.value), ("left_id", .str r.leftId), ("relation_id", .str r.relationId),
    ("right_id", .str r.rightId), ("source_ref", .str r.sourceRef)]

def touches (r : InterpretationRelation) (id : String) : Prop := r.leftId = id ∨ r.rightId = id

end InterpretationRelation

/-! ## Rows -/

/-- The JSON library and the hash: texts of type `J`, digests of type `D`. -/
structure Library (J D : Type) where
  dumps : Json → J
  loads : J → Except Unit Json
  sha256 : J → D

variable {J D : Type} [DecidableEq D] (lib : Library J D)

/-- The library reads back what it wrote of a record. -/
structure Library.Faithful : Prop where
  interpretation : ∀ v : ContextualInterpretation, lib.loads (lib.dumps v.manifest) = .ok v.manifest
  relation : ∀ r : InterpretationRelation, lib.loads (lib.dumps r.manifest) = .ok r.manifest

variable (J D) in
structure InterpretationRow where
  interpretationId : String
  objectId : String
  digest : D
  canonicalJson : J

variable (J D) in
structure RelationRow where
  relationId : String
  leftId : String
  rightId : String
  kind : String
  digest : D
  canonicalJson : J

variable (J D) in
structure Store where
  interpretations : Table (InterpretationRow.interpretationId (J := J) (D := D))
  relations : Table (RelationRow.relationId (J := J) (D := D))

def Store.empty : Store J D := ⟨.empty, .empty⟩

/-- The row that `admit_interpretation` writes. -/
def interpretationRow (v : ContextualInterpretation) : InterpretationRow J D :=
  ⟨v.interpretationId, v.objectId, lib.sha256 (lib.dumps v.manifest), lib.dumps v.manifest⟩

/-- The row that `admit_relation` writes. -/
def relationRow (r : InterpretationRelation) : RelationRow J D :=
  ⟨r.relationId, r.leftId, r.rightId, r.kind.value, lib.sha256 (lib.dumps r.manifest), lib.dumps r.manifest⟩

/-- A value that is a string, the only type a field or an atom of a record may have. -/
def textOf : Json → Option String
  | .str s => some s
  | _ => none

/-- `value[key]` as a string. -/
def textAt (key : String) (entries : List (String × Json)) : Option String := (entries.lookup key).bind textOf

/-- `frozenset(value[key])`, where every element has to be a string. -/
def atomsAt (key : String) (entries : List (String × Json)) : Option (Finset String) :=
  match entries.lookup key with
  | some (.arr items) =>
    (items.mapM textOf).map List.toFinset
  | some (.str s) => some ((s.toList.map String.singleton).toFinset)
  | some (.obj inner) => some ((inner.map Prod.fst).toFinset)
  | _ => none

/-- `value.get("supersedes_id")`. -/
def optionalAt (key : String) (entries : List (String × Json)) : Option (Option String) :=
  match entries.lookup key with
  | some (.str s) => some (some s)
  | some .null | none => some none
  | _ => none

/-- The record of a decoded object, if its fields are of the right types and accepted. -/
def interpretationOf (entries : List (String × Json)) : Option ContextualInterpretation := do
  let interpretationId ← textAt "interpretation_id" entries
  let objectId ← textAt "object_id" entries
  let meaning ← textAt "meaning" entries
  let sourceRef ← textAt "source_ref" entries
  let required ← atomsAt "required_context" entries
  let excluded ← atomsAt "excluded_context" entries
  let supersedes ← optionalAt "supersedes_id" entries
  (ContextualInterpretation.make interpretationId objectId meaning sourceRef required excluded supersedes).toOption

def relationOf (entries : List (String × Json)) : Option InterpretationRelation := do
  let relationId ← textAt "relation_id" entries
  let leftId ← textAt "left_id" entries
  let rightId ← textAt "right_id" entries
  let kind ← (textAt "kind" entries).bind InterpretationRelationKind.ofText?
  let sourceRef ← textAt "source_ref" entries
  (InterpretationRelation.make relationId leftId rightId kind sourceRef).toOption

/-- `_decode_interpretation_row`: every failure is the same error. -/
def decodeInterpretationRow (row : InterpretationRow J D) : Except StoreError ContextualInterpretation :=
  match lib.loads row.canonicalJson with
  | .ok (.obj entries) =>
    if lib.sha256 (lib.dumps (.obj entries)) ≠ row.digest then .error (corrupt "interpretation")
    else
      match interpretationOf entries with
      | some v =>
        if v.objectId ≠ row.objectId ∨ v.interpretationId ≠ row.interpretationId then
          .error (corrupt "interpretation")
        else .ok v
      | none => .error (corrupt "interpretation")
  | _ => .error (corrupt "interpretation")

def decodeRelationRow (row : RelationRow J D) : Except StoreError InterpretationRelation :=
  match lib.loads row.canonicalJson with
  | .ok (.obj entries) =>
    if lib.sha256 (lib.dumps (.obj entries)) ≠ row.digest then .error (corrupt "relation")
    else
      match relationOf entries with
      | some r =>
        if r.relationId ≠ row.relationId ∨ r.leftId ≠ row.leftId ∨ r.rightId ≠ row.rightId ∨
            r.kind.value ≠ row.kind then
          .error (corrupt "relation")
        else .ok r
      | none => .error (corrupt "relation")
  | _ => .error (corrupt "relation")

/-! ## Admission -/

inductive AdmissionStatus
  | accepted | duplicate
  deriving DecidableEq, Repr

variable (D) in
/-- The receipt's three effects are always `NONE`. -/
structure ContextualAdmissionReceipt where
  recordId : String
  recordType : String
  digest : D
  status : AdmissionStatus

abbrev Reading (J D α : Type) := Prog Empty (Store J D) StoreError α

/-- `SELECT … WHERE interpretation_id=?`. -/
def selectInterpretation (id : String) : Reading J D (Option (InterpretationRow J D)) :=
  Prog.read fun s => s.interpretations.get? id

def selectRelation (id : String) : Reading J D (Option (RelationRow J D)) :=
  Prog.read fun s => s.relations.get? id

/-- The walk up the chain of superseded interpretations. The source's loop ends because an
interpretation met twice stops it; `fuel` is the number of rows there were when it began. -/
def walkSupersession (own : String) : Nat → List String → ContextualInterpretation → Reading J D Unit
  | fuel, seen, cursor =>
    match cursor.supersedesId with
    | none => pure ()
    | some next =>
      if cursor.interpretationId ∈ seen then throw (corrupt "supersession_cycle")
      else if next = own then throw (.invalid "supersession would create a cycle")
      else
        match fuel with
        | 0 => throw (corrupt "supersession_cycle")
        | fuel + 1 => do
          match ← selectInterpretation next with
          | none => throw (corrupt "dangling_supersession")
          | some row =>
            let cursor' ← Prog.ofExcept (decodeInterpretationRow lib row)
            walkSupersession own fuel (cursor.interpretationId :: seen) cursor'

def validateSupersession (v : ContextualInterpretation) : Reading J D Unit :=
  match v.supersedesId with
  | none => pure ()
  | some targetId =>
    if targetId = v.interpretationId then throw (.invalid "interpretation cannot supersede itself")
    else do
      let found ← Prog.read fun s : Store J D => (s.interpretations.get? targetId, s.interpretations.rows.length)
      match found.1 with
      | none => throw (.invalid "supersedes_id must reference an existing interpretation")
      | some row =>
        let target ← Prog.ofExcept (decodeInterpretationRow lib row)
        if target.objectId ≠ v.objectId then
          throw (.invalid "supersession must remain within one object_id")
        else walkSupersession lib v.interpretationId found.2 [] target

def insertInterpretation (v : ContextualInterpretation) : Reading J D (ContextualAdmissionReceipt D) :=
  Prog.txn fun s =>
    match s.interpretations.get? v.interpretationId with
    | some _ => .error .integrity
    | none =>
      .ok (⟨v.interpretationId, "INTERPRETATION", lib.sha256 (lib.dumps v.manifest), .accepted⟩,
        { s with interpretations := s.interpretations.insert (interpretationRow lib v) })

def admitInterpretation (v : ContextualInterpretation) : Reading J D (ContextualAdmissionReceipt D) := do
  match ← selectInterpretation v.interpretationId with
  | some row =>
    let existing ← Prog.ofExcept (decodeInterpretationRow lib row)
    if row.digest ≠ lib.sha256 (lib.dumps v.manifest) ∨ existing ≠ v then
      throw (.conflict "interpretation_id cannot be rebound to different content")
    else pure ⟨v.interpretationId, "INTERPRETATION", lib.sha256 (lib.dumps v.manifest), .duplicate⟩
  | none =>
    validateSupersession lib v
    insertInterpretation lib v

def requireEndpoint (e : StoreError) (endpoint : String) : Reading J D Unit := do
  match ← selectInterpretation endpoint with
  | none => throw e
  | some row =>
    let _ ← Prog.ofExcept (decodeInterpretationRow lib row)
    pure ()

def insertRelation (r : InterpretationRelation) : Reading J D (ContextualAdmissionReceipt D) :=
  Prog.txn fun s =>
    match s.relations.get? r.relationId with
    | some _ => .error .integrity
    | none =>
      .ok (⟨r.relationId, "RELATION", lib.sha256 (lib.dumps r.manifest), .accepted⟩,
        { s with relations := s.relations.insert (relationRow lib r) })

def admitRelation (r : InterpretationRelation) : Reading J D (ContextualAdmissionReceipt D) := do
  match ← selectRelation r.relationId with
  | some row =>
    let existing ← Prog.ofExcept (decodeRelationRow lib row)
    if row.digest ≠ lib.sha256 (lib.dumps r.manifest) ∨ existing ≠ r then
      throw (.conflict "relation_id cannot be rebound to different content")
    else pure ⟨r.relationId, "RELATION", lib.sha256 (lib.dumps r.manifest), .duplicate⟩
  | none =>
    requireEndpoint lib (.invalid "relation endpoint must reference an existing interpretation") r.leftId
    requireEndpoint lib (.invalid "relation endpoint must reference an existing interpretation") r.rightId
    insertRelation lib r

/-! ## Reading -/

def getInterpretation (id : String) : Reading J D ContextualInterpretation := do
  Prog.ofExcept (requireExactNonempty id "interpretation_id")
  match ← selectInterpretation id with
  | none => throw (.missing id)
  | some row => Prog.ofExcept (decodeInterpretationRow lib row)

/-- One value of the first pass of `_validate_persisted_supersession_graph`. -/
def validateTarget (v : ContextualInterpretation) : Reading J D Unit :=
  match v.supersedesId with
  | none => pure ()
  | some targetId => do
    match ← selectInterpretation targetId with
    | none => throw (corrupt "dangling_supersession")
    | some row =>
      let target ← Prog.ofExcept (decodeInterpretationRow lib row)
      if target.objectId ≠ v.objectId then throw (corrupt "cross_referent_supersession") else pure ()

/-- The walk of its second pass, over the values that were read. Every step but the last meets another
of them, so `fuel` is their number. -/
def walkValues (values : List ContextualInterpretation) :
    Nat → List String → ContextualInterpretation → Except StoreError Unit
  | fuel, seen, cursor =>
    match cursor.supersedesId with
    | none => .ok ()
    | some next =>
      if cursor.interpretationId ∈ seen then .error (corrupt "supersession_cycle")
      else
        match values.find? fun v => v.interpretationId = next, fuel with
        | none, _ => .error (corrupt "invalid_supersession_graph")
        | some _, 0 => .error (corrupt "supersession_cycle")
        | some target, fuel + 1 => walkValues values fuel (cursor.interpretationId :: seen) target

def validatePersistedSupersessionGraph (values : List ContextualInterpretation) : Reading J D Unit := do
  values.forM (validateTarget lib)
  Prog.ofExcept (values.forM (walkValues values values.length []))

/-- `ORDER BY interpretation_id`. -/
def selectObject (objectId : String) : Reading J D (List (InterpretationRow J D)) :=
  Prog.read fun s => (s.interpretations.rows.filter fun row => row.objectId = objectId).mergeSort
    fun a b => a.interpretationId ≤ b.interpretationId

def allInterpretations (objectId : String) : Reading J D (List ContextualInterpretation) := do
  let rows ← selectObject objectId
  let values ← Prog.ofExcept (rows.mapM (decodeInterpretationRow lib))
  validatePersistedSupersessionGraph lib values
  pure values

def supersededIds (values : List ContextualInterpretation) : List String := values.filterMap (·.supersedesId)

def listInterpretations (objectId : String) (includeSuperseded : Bool) :
    Reading J D (List ContextualInterpretation) := do
  Prog.ofExcept (requireExactNonempty objectId "object_id")
  let values ← allInterpretations lib objectId
  if includeSuperseded then pure values
  else pure (values.filter fun v => v.interpretationId ∉ supersededIds values)

def validatePersistedRelationEndpoints (r : InterpretationRelation) : Reading J D Unit := do
  requireEndpoint lib (corrupt "relation_endpoint") r.leftId
  requireEndpoint lib (corrupt "relation_endpoint") r.rightId

def getRelation (id : String) : Reading J D InterpretationRelation := do
  Prog.ofExcept (requireExactNonempty id "relation_id")
  match ← selectRelation id with
  | none => throw (.missing id)
  | some row =>
    let r ← Prog.ofExcept (decodeRelationRow lib row)
    validatePersistedRelationEndpoints lib r
    pure r

/-- `WHERE left_id=? OR right_id=? ORDER BY relation_id`. -/
def selectTouching (id : String) : Reading J D (List (RelationRow J D)) :=
  Prog.read fun s => (s.relations.rows.filter fun row => row.leftId = id ∨ row.rightId = id).mergeSort
    fun a b => a.relationId ≤ b.relationId

def relationsFor (id : String) : Reading J D (List InterpretationRelation) := do
  let rows ← selectTouching id
  let relations ← Prog.ofExcept (rows.mapM (decodeRelationRow lib))
  relations.forM (validatePersistedRelationEndpoints lib)
  pure relations

structure ContextualInterpretationResult where
  interpretation : ContextualInterpretation
  relations : List InterpretationRelation
  isCurrent : Bool

/-- Whether `query` keeps a value. -/
def selects (superseded : List String) (context : Finset String) (includeSuperseded : Bool)
    (v : ContextualInterpretation) : Bool :=
  (includeSuperseded ∨ v.interpretationId ∉ superseded) ∧ v.requiredContext ⊆ context ∧
    v.excludedContext ∩ context = ∅

/-- The results of the values that `query` keeps, with their relations. -/
def collectResults (superseded : List String) :
    List ContextualInterpretation → Reading J D (List ContextualInterpretationResult)
  | [] => pure []
  | v :: vs => do
    let relations ← relationsFor lib v.interpretationId
    let results ← collectResults superseded vs
    pure (⟨v, relations, v.interpretationId ∉ superseded⟩ :: results)

/-- The sort key `(-specificity, interpretation_id)`. -/
def resultBefore (a b : ContextualInterpretationResult) : Bool :=
  b.interpretation.specificity < a.interpretation.specificity ∨
    b.interpretation.specificity = a.interpretation.specificity ∧
      a.interpretation.interpretationId ≤ b.interpretation.interpretationId

def query (objectId : String) (context : Finset String) (includeSuperseded : Bool) :
    Reading J D (List ContextualInterpretationResult) := do
  Prog.ofExcept (requireExactNonempty objectId "object_id")
  Prog.ofExcept (validateContextAtoms context "context")
  let values ← allInterpretations lib objectId
  let superseded := supersededIds values
  let results ← collectResults lib superseded (values.filter (selects superseded context includeSuperseded))
  pure (results.mergeSort resultBefore)

/-! ## Calls -/

inductive StoreCall
  | admitInterpretation (v : ContextualInterpretation)
  | admitRelation (r : InterpretationRelation)
  | getInterpretation (id : String)
  | getRelation (id : String)
  | listInterpretations (objectId : String) (includeSuperseded : Bool)
  | query (objectId : String) (context : Finset String) (includeSuperseded : Bool)

variable (D) in
inductive StoreAnswer
  | receipt (r : ContextualAdmissionReceipt D)
  | interpretation (v : ContextualInterpretation)
  | relation (r : InterpretationRelation)
  | interpretations (vs : List ContextualInterpretation)
  | results (rs : List ContextualInterpretationResult)

def program : StoreCall → Reading J D (StoreAnswer D)
  | .admitInterpretation v => (admitInterpretation lib v).map .receipt
  | .admitRelation r => (admitRelation lib r).map .receipt
  | .getInterpretation id => (getInterpretation lib id).map .interpretation
  | .getRelation id => (getRelation lib id).map .relation
  | .listInterpretations objectId includeSuperseded =>
    (listInterpretations lib objectId includeSuperseded).map .interpretations
  | .query objectId context includeSuperseded => (query lib objectId context includeSuperseded).map .results

end VeraMono.Contextual

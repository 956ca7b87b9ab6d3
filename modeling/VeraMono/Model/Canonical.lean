import Mathlib.Data.List.Lex
import Mathlib.Data.List.Sort
import Mathlib.Data.Rat.Defs
import Mathlib.Data.String.Basic

/-!
# Values and canonical JSON

Python values as callers hand them over, and the two functions every value goes
through before it is hashed: `_normalize` of `action_gate.py` (`normalize`) and
`normalize_value` of Lantern's `canonical.py` (`normalizeValue`). The second one
is what rejects floats, integers beyond 2^53 - 1, lone surrogates, and strings
whose key says they are paths or timestamps when they are not.
-/

namespace VeraMono

/-- The exception classes the modelled code raises. -/
inductive ExceptionClass
  | canonicalizationError | outboundActionError | effectFenceError | outboundAuditError
  | lifecycleActionDenied | lifecycleAssuranceError | lifecycleReconstructionError
  | lifecycleJournalError | nativeCheckpointError | staleCheckpointHead | memoryLedgerError
  | staleMemoryHead | effectRecoveryAuthorityError | coordinationCommandJournalError
  | taskExecutionError
  | dispatchFenceError | capabilityDenied | resourceCollision | resourceLeaseNotFound
  | resourceLeaseBusy | staleResourceFence | resourceLeaseExpired | resourceLeaseError
  | repositoryConflict | coordinationRepositoryCorrupt
  | outboundTrustError | contractError | journalError | journalConflict | journalStateError
  | journalCorrupt | alreadyStartedRequiresReconciliation
  | pcExecutionBindingError | providerExecutionBindingError | outboundAuthorityError
  | independentBehaviorReviewError | behaviorAttestationError | sourceVerificationError
  | installationVerificationError | driveFeedbackError | attributeError | overflowError
  | portableLockError | valueError | typeError | keyError | integrityError | operationalError
  | assertionError
  /-- Whatever a caller's callback raised. -/
  | callbackError
  deriving DecidableEq, Repr

/-- An exception and its message. -/
structure Failure where
  kind : ExceptionClass
  message : String
  deriving DecidableEq, Repr

/-- A Python string: a Unicode text, or code points with a lone surrogate among them. -/
inductive Text
  | valid (s : String)
  | surrogates (codePoints : List Nat)
  deriving DecidableEq

def Text.codePoints : Text → List Nat
  | .valid s => s.toList.map Char.toNat
  | .surrogates cs => cs

/-- A Python value. A member of a `StrEnum` is a string, so `enum` is a member of a
plain `Enum`; a float that is not finite has no value; a dataclass says whether `asdict`
can copy its fields, which it cannot when a mapping proxy is among them; `other` is any
object that is of none of the types the code looks for. -/
inductive PyValue
  | none
  | bool (b : Bool)
  | int (i : Int)
  | float (value : Option Rat)
  | str (t : Text)
  | bytes (data : List UInt8)
  | list (items : List PyValue)
  | tuple (items : List PyValue)
  | set (items : List PyValue)
  | dict (entries : List (PyValue × PyValue))
  | enum (value : PyValue)
  | path (text : Text)
  | dataclass (copies : Bool) (fields : List (String × PyValue))
  | other (typeName : String)

/-- A JSON document as `normalize_value` returns it. -/
inductive Json
  | null
  | bool (b : Bool)
  | int (i : Int)
  | str (s : String)
  | arr (items : List Json)
  | obj (entries : List (String × Json))

mutual

def Json.beq : Json → Json → Bool
  | .null, .null => true
  | .bool a, .bool b => a = b
  | .int a, .int b => a = b
  | .str a, .str b => a = b
  | .arr a, .arr b => Json.beqItems a b
  | .obj a, .obj b => Json.beqEntries a b
  | _, _ => false

def Json.beqItems : List Json → List Json → Bool
  | [], [] => true
  | a :: as, b :: bs => Json.beq a b && Json.beqItems as bs
  | _, _ => false

def Json.beqEntries : List (String × Json) → List (String × Json) → Bool
  | [], [] => true
  | (k, a) :: as, (l, b) :: bs => k = l && Json.beq a b && Json.beqEntries as bs
  | _, _ => false

end

mutual

theorem Json.beq_iff : ∀ a b : Json, Json.beq a b = true ↔ a = b
  | .null, b => by cases b <;> simp [Json.beq]
  | .bool a, b => by cases b <;> simp [Json.beq]
  | .int a, b => by cases b <;> simp [Json.beq]
  | .str a, b => by cases b <;> simp [Json.beq]
  | .arr a, b => by cases b <;> simp [Json.beq, Json.beqItems_iff a]
  | .obj a, b => by cases b <;> simp [Json.beq, Json.beqEntries_iff a]

theorem Json.beqItems_iff : ∀ as bs : List Json, Json.beqItems as bs = true ↔ as = bs
  | [], bs => by cases bs <;> simp [Json.beqItems]
  | a :: as, bs => by cases bs <;> simp [Json.beqItems, Json.beq_iff a, Json.beqItems_iff as]

theorem Json.beqEntries_iff :
    ∀ as bs : List (String × Json), Json.beqEntries as bs = true ↔ as = bs
  | [], bs => by cases bs <;> simp [Json.beqEntries]
  | (k, a) :: as, bs => by
    rcases bs with _ | ⟨⟨l, b⟩, bs⟩ <;>
      simp [Json.beqEntries, Json.beq_iff a, Json.beqEntries_iff as, and_assoc]

end

instance : DecidableEq Json := fun a b => decidable_of_iff _ (Json.beq_iff a b)

/-- What `datetime.fromisoformat` makes of a text. An aware time is given by the microseconds
of UTC since the year 1 began; one is out of range where `astimezone(UTC)` raises. -/
inductive IsoTime
  | invalid
  | naive
  | outOfRange
  | aware (microseconds : Int)

inductive Timespec
  | seconds | microseconds

/-- The standard library functions whose results the code uses but never looks into. -/
structure Stdlib where
  repr : PyValue → String
  fromisoformat : String → IsoTime
  /-- `isoformat` of a time in UTC. -/
  isoformat : Timespec → Int → String
  /-- `sha256_hex` of raw bytes. -/
  bytesDigest : List UInt8 → String

/-! ## Timestamps -/

/-- The characters `str.strip` removes. -/
def isWhitespace (c : Char) : Bool :=
  let n := c.toNat
  (9 ≤ n && n ≤ 13) || (28 ≤ n && n ≤ 32) || n == 0x85 || n == 0xA0 || n == 0x1680 ||
    (0x2000 ≤ n && n ≤ 0x200A) || n == 0x2028 || n == 0x2029 || n == 0x202F || n == 0x205F ||
    n == 0x3000

def strip (cs : List Char) : List Char :=
  ((cs.dropWhile isWhitespace).reverse.dropWhile isWhitespace).reverse

/-- The text `normalize_timestamp` reads: stripped, and a final `Z` written `+00:00`. -/
def isoText (value : String) : String :=
  let text := strip value.toList
  .ofList (if text.getLast? = some 'Z' then text.dropLast ++ "+00:00".toList else text)

/-- `replace("+00:00", "Z")`. -/
def replaceUtc : List Char → List Char
  | '+' :: '0' :: '0' :: ':' :: '0' :: '0' :: rest => 'Z' :: replaceUtc rest
  | c :: rest => c :: replaceUtc rest
  | [] => []

/-- Microseconds are written when there are any. -/
def timespecOf (microseconds : Int) : Timespec :=
  if microseconds % 1000000 = 0 then .seconds else .microseconds

/-- The text `normalize_timestamp` writes. -/
def Stdlib.rendered (py : Stdlib) (microseconds : Int) : String :=
  .ofList (replaceUtc (py.isoformat (timespecOf microseconds) microseconds).toList)

/-- The outcomes of `normalize_timestamp`. -/
inductive TimestampParse
  | invalid
  | naive
  | outOfRange
  | utc (rendered : String)

/-- The steps of `normalize_timestamp` on a string. -/
def Stdlib.parseTimestamp (py : Stdlib) (value : String) : TimestampParse :=
  match py.fromisoformat (isoText value) with
  | .invalid => .invalid
  | .naive => .naive
  | .outOfRange => .outOfRange
  | .aware microseconds => .utc (py.rendered microseconds)

/-! ## `_normalize` -/

/-- Raises the first error of a list. -/
def sequence {ε α : Type} : List (Except ε α) → Except ε (List α)
  | [] => .ok []
  | .error e :: _ => .error e
  | .ok a :: rest =>
    match sequence rest with
    | .ok as => .ok (a :: as)
    | .error e => .error e

def PyValue.keyText : PyValue → Option Text
  | .str t => some t
  | _ => Option.none

/-- Keys in order of their code points, as `sorted` orders strings. -/
def sortKeys {α : Type} (entries : List (Text × α)) : List (Text × α) :=
  entries.insertionSort fun a b => a.1.codePoints ≤ b.1.codePoints

/-- The entries of a mapping whose keys are all strings. -/
def stringKeys {α : Type} : List (PyValue × α) → Option (List (Text × α))
  | [] => some []
  | (k, v) :: rest =>
    match k.keyText, stringKeys rest with
    | some t, some ts => some ((t, v) :: ts)
    | _, _ => Option.none

/-- A normalised mapping, from the results for its values. -/
def normalizedDict (entries : List (Text × Except Failure PyValue)) : Except Failure PyValue :=
  match sequence ((sortKeys entries).map fun kv => kv.2.map fun v => (PyValue.str kv.1, v)) with
  | .ok kvs => .ok (.dict kvs)
  | .error e => .error e

def unsupportedActionValue (typeName : String) : Failure :=
  ⟨.outboundActionError, s!"unsupported action-bound value type: {typeName}"⟩

variable (py : Stdlib)

mutual

def normalize : PyValue → Except Failure PyValue
  | .dataclass copies fields =>
    if copies then normalizedDict (normalizeFields fields)
    else .error ⟨.typeError, "cannot pickle 'mappingproxy' object"⟩
  | .dict entries =>
    match stringKeys (normalizeEntries entries) with
    | some kvs => normalizedDict kvs
    | Option.none => .error ⟨.outboundActionError, "action mapping keys must be strings"⟩
  | .list items => (sequence (normalizeItems items)).map .list
  | .tuple items => (sequence (normalizeItems items)).map .list
  | .set items =>
    (sequence (normalizeItems items)).map fun vs =>
      .list (vs.insertionSort fun a b => py.repr a ≤ py.repr b)
  | .enum value => normalize value
  | .path text => .ok (.str text)
  | .bytes data => .ok (.dict [(.str (.valid "bytes_sha256"), .str (.valid (py.bytesDigest data)))])
  | .str t => .ok (.str t)
  | .int i => .ok (.int i)
  | .float v => .ok (.float v)
  | .bool b => .ok (.bool b)
  | .none => .ok .none
  | .other typeName => .error (unsupportedActionValue typeName)

def normalizeItems : List PyValue → List (Except Failure PyValue)
  | [] => []
  | v :: vs => normalize v :: normalizeItems vs

def normalizeEntries : List (PyValue × PyValue) → List (PyValue × Except Failure PyValue)
  | [] => []
  | (k, v) :: rest => (k, normalize v) :: normalizeEntries rest

def normalizeFields : List (String × PyValue) → List (Text × Except Failure PyValue)
  | [] => []
  | (k, v) :: rest => (.valid k, normalize v) :: normalizeFields rest

end

/-! ## `normalize_value` -/

def maxSafeInteger : Nat := 2 ^ 53 - 1

def canonicalizationError (message : String) : Failure := ⟨.canonicalizationError, message⟩

def validateString : Text → Except Failure String
  | .valid s => .ok s
  | .surrogates _ => .error (canonicalizationError "Unicode surrogate code points are not allowed")

/-- `normalize_timestamp` of a string. -/
def normalizeTimestamp (value : String) : Except Failure String :=
  match py.parseTimestamp value with
  | .invalid => .error (canonicalizationError s!"Invalid ISO-8601 timestamp: {value}")
  | .naive => .error (canonicalizationError "Timestamps must include an explicit UTC offset")
  | .outOfRange => .error ⟨.overflowError, "date value out of range"⟩
  | .utc rendered => .ok rendered

/-- The segments `PurePosixPath` keeps of a relative path. -/
def posixParts (value : String) : List String :=
  (value.splitOn "/").filter fun part => part ≠ "" ∧ part ≠ "."

def normalizeRelativePosixPath (value : String) : Except Failure String :=
  if value = "" ∨ '\\' ∈ value.toList then
    .error (canonicalizationError "Paths must be non-empty POSIX paths")
  else if value.toList.head? = some '/' then
    .error (canonicalizationError "Absolute paths are not allowed")
  else if posixParts value = [] ∨ ".." ∈ posixParts value then
    .error (canonicalizationError "Path traversal and non-normalized segments are not allowed")
  else if "/".intercalate (posixParts value) ≠ value then
    .error (canonicalizationError "Path must already be normalized")
  else .ok value

inductive KeyHint
  | plain
  | path
  | timestamp
  deriving DecidableEq

/-- The rule `normalize_value` picks from `key_hint`. -/
def keyHint (key : String) : KeyHint :=
  if key = "path" ∨ key.endsWith "_path" then .path
  else if key.endsWith "_at" then .timestamp
  else .plain

def normalizeString (hint : KeyHint) (t : Text) : Except Failure String :=
  match validateString t, hint with
  | .error e, _ => .error e
  | .ok s, .plain => .ok s
  | .ok s, .path => normalizeRelativePosixPath s
  | .ok s, .timestamp => normalizeTimestamp py s

/-- The UTF-16 code units of a string: big-endian bytes order as these do. -/
def utf16 (s : String) : List Nat :=
  s.toList.flatMap fun c =>
    if c.toNat < 0x10000 then [c.toNat]
    else [0xD800 + (c.toNat - 0x10000) / 0x400, 0xDC00 + (c.toNat - 0x10000) % 0x400]

/-- Entries in the order of `_utf16_sort_key`. -/
def sortEntries (entries : List (String × Json)) : List (String × Json) :=
  entries.insertionSort fun a b => utf16 a.1 ≤ utf16 b.1

def unsupportedType (typeName : String) : Failure :=
  canonicalizationError s!"Unsupported canonical JSON type: {typeName}"

mutual

def normalizeValue (hint : KeyHint) : PyValue → Except Failure Json
  | .none => .ok .null
  | .bool b => .ok (.bool b)
  | .int i =>
    if maxSafeInteger < i.natAbs then
      .error (canonicalizationError "Integers must fit the interoperable IEEE-754 safe range")
    else .ok (.int i)
  | .float Option.none => .error (canonicalizationError "Non-finite JSON numbers are not allowed")
  | .float (some _) =>
    .error (canonicalizationError
      "Floating-point values are excluded from Lantern v1 canonical records")
  | .str t => (normalizeString py hint t).map .str
  | .list items => (normalizeValues items).map .arr
  | .tuple items => (normalizeValues items).map .arr
  | .dict entries => (normalizeObject [] entries).map fun kvs => .obj (sortEntries kvs)
  | .set _ => .error (unsupportedType "set")
  | .bytes _ => .error (unsupportedType "bytes")
  | .enum _ => .error (unsupportedType "enum")
  | .path _ => .error (unsupportedType "PosixPath")
  | .dataclass _ _ => .error (unsupportedType "dataclass")
  | .other typeName => .error (unsupportedType typeName)

def normalizeValues : List PyValue → Except Failure (List Json)
  | [] => .ok []
  | v :: vs => do
    let j ← normalizeValue .plain v
    let js ← normalizeValues vs
    return j :: js

/-- The entries of an object; `seen` are the keys before them. -/
def normalizeObject (seen : List String) :
    List (PyValue × PyValue) → Except Failure (List (String × Json))
  | [] => .ok []
  | (k, v) :: rest =>
    match k.keyText with
    | Option.none => .error (canonicalizationError "JSON object keys must be strings")
    | some t => do
      let key ← validateString t
      if key ∈ seen then
        throw (canonicalizationError s!"Duplicate key after validation: {key}")
      let j ← normalizeValue (keyHint key) v
      let js ← normalizeObject (key :: seen) rest
      return (key, j) :: js

end

/-- The document `_digest` hashes for a value bound to an action. -/
def actionValue (value : PyValue) : Except Failure Json := do
  let v ← normalize py value
  normalizeValue py .plain v

end VeraMono

import VeraMono.Model.CanonicalJson

/-!
# Intranel JSON values

`jsonvalue.py` and `canonical.py` of the Intranel: `freeze_json`, which bounds a value and
freezes it, `thaw_json`, and the canonical bytes of a value.
-/

namespace VeraMono

namespace Intranel

def valueError (message : String) : Failure := ⟨.valueError, message⟩

def maxSafeInteger : Nat := 9007199254740991

def maxJsonDepth : Nat := 24

def maxCollectionItems : Nat := 256

def maxTotalNodes : Nat := 4096

def maxStringBytes : Nat := 8192

def maxKeyBytes : Nat := 256

/-- `value.encode("utf-8", "strict")`, at most so many bytes. -/
def encodes (field : String) (maximum : Nat) : Text → Except Failure String
  | .surrogates _ => .error (valueError s!"{field} contains invalid Unicode")
  | .valid s => if s.utf8ByteSize > maximum then .error (valueError s!"{field} exceeds size limit") else .ok s

def printableAscii (c : Char) : Bool := 0x20 ≤ c.toNat && c.toNat ≤ 0x7E

/-- `_check_text` of a key. -/
def checkKey (field : String) (key : Text) : Except Failure String := do
  let s ← encodes field maxKeyBytes key
  if s = "" ∨ ¬ s.toList.all printableAscii then
    throw (valueError s!"{field} object keys must be non-empty printable ASCII")
  return s

/-- The bounds that `recurse` checks first, of a value below so many others and after so many. -/
def checkNode (field : String) (depth count : Nat) : Except Failure Unit := do
  if count + 1 > maxTotalNodes then throw (valueError s!"{field} exceeds node limit")
  if depth > maxJsonDepth then throw (valueError s!"{field} exceeds depth limit")

def checkLength (field : String) (length : Nat) : Except Failure Unit :=
  if length > maxCollectionItems then .error (valueError s!"{field} exceeds collection limit") else .ok ()

def notJson (field : String) : Failure := valueError s!"{field} must be JSON-compatible"

mutual

/-- `recurse`: the frozen value, and how many values there are with it. A frozen tuple is an
array, and a frozen mapping an object whose entries keep their order. -/
def freezeValue (field : String) (depth count : Nat) (value : PyValue) : Except Failure (Json × Nat) := do
  checkNode field depth count
  match value with
  | .none => return (.null, count + 1)
  | .bool b => return (.bool b, count + 1)
  | .str t => return (.str (← encodes field maxStringBytes t), count + 1)
  | .int i =>
    if i.natAbs > maxSafeInteger then
      throw (valueError s!"{field} integer exceeds interoperable safe range")
    return (.int i, count + 1)
  | .float Option.none =>
    throw (valueError s!"{field} non-integral floats are not allowed in INTRANEL/1 canonical values")
  | .float (some r) =>
    if r.den ≠ 1 ∨ r.num.natAbs > maxSafeInteger then
      throw (valueError s!"{field} non-integral floats are not allowed in INTRANEL/1 canonical values")
    return (.int r.num, count + 1)
  | .list items =>
    checkLength field items.length
    let (js, n) ← freezeItems field (depth + 1) (count + 1) items
    return (.arr js, n)
  | .tuple items =>
    checkLength field items.length
    let (js, n) ← freezeItems field (depth + 1) (count + 1) items
    return (.arr js, n)
  | .dict entries =>
    checkLength field entries.length
    let (es, n) ← freezeEntries field (depth + 1) (count + 1) [] entries
    return (.obj es, n)
  | .bytes _ => throw (notJson field)
  | .set _ => throw (notJson field)
  | .enum _ => throw (notJson field)
  | .path _ => throw (notJson field)
  | .dataclass _ _ => throw (notJson field)
  | .other _ => throw (notJson field)

def freezeItems (field : String) (depth count : Nat) : List PyValue → Except Failure (List Json × Nat)
  | [] => return ([], count)
  | v :: vs => do
    let (j, n) ← freezeValue field depth count v
    let (js, n') ← freezeItems field depth n vs
    return (j :: js, n')

/-- The entries of a mapping; `seen` are the keys before them. -/
def freezeEntries (field : String) (depth count : Nat) (seen : List String) :
    List (PyValue × PyValue) → Except Failure (List (String × Json) × Nat)
  | [] => return ([], count)
  | (k, v) :: rest => do
    match k.keyText with
    | Option.none => throw (valueError s!"{field} object keys must be strings")
    | some t =>
      let key ← checkKey field t
      -- a mapping has a key once
      if key ∈ seen then throw (valueError s!"{field} has a key twice")
      let (j, n) ← freezeValue field depth count v
      let (es, n') ← freezeEntries field depth n (key :: seen) rest
      return ((key, j) :: es, n')

end

def freezeJson (value : PyValue) (field : String) : Except Failure Json :=
  (freezeValue field 0 0 value).map Prod.fst

def thawJson (value : Json) : PyValue := value.toPy

/-! ## Canonical bytes -/

def sortByKey (entries : List (String × Json)) : List (String × Json) :=
  entries.insertionSort fun a b => a.1 ≤ b.1

mutual

/-- What `sort_keys` does to a document. -/
def sortKeys : Json → Json
  | .arr items => .arr (sortItems items)
  | .obj entries => .obj (sortByKey (sortEntries entries))
  | .null => .null
  | .bool b => .bool b
  | .int i => .int i
  | .str s => .str s

def sortItems : List Json → List Json
  | [] => []
  | j :: js => sortKeys j :: sortItems js

def sortEntries : List (String × Json) → List (String × Json)
  | [] => []
  | (k, j) :: es => (k, sortKeys j) :: sortEntries es

end

/-- `canonical_json_bytes` of a value that `_wire` leaves as it is. -/
def canonicalJsonBytes (value : PyValue) : Except Failure ByteArray :=
  (freezeJson value "canonical value").map fun j => (String.ofList (sortKeys j).dumps).toByteArray

end Intranel

end VeraMono

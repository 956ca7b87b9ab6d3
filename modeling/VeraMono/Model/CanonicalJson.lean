import VeraMono.Model.Canonical

/-!
# Canonical JSON text

`canonical_json` writes the value `normalize_value` accepted with `json.dumps`, and
`strict_json_loads` reads a text back with `json.loads`: repeated keys and the constants `NaN`,
`Infinity` and `-Infinity` are refused. The reader is the scanner of the `json` module on a list
of characters; what is left of the text when it fails says where it failed.
-/

namespace VeraMono

/-! ## `json.dumps` -/

def hexDigit (n : Nat) : Char := Nat.digitChar n

/-- A character inside a string literal, with `ensure_ascii=False`. -/
def escapeChar (c : Char) : List Char :=
  if c = '"' then ['\\', '"']
  else if c = '\\' then ['\\', '\\']
  else if c = '\n' then ['\\', 'n']
  else if c = '\r' then ['\\', 'r']
  else if c = '\t' then ['\\', 't']
  else if c.toNat = 12 then ['\\', 'f']
  else if c.toNat = 8 then ['\\', 'b']
  else if c.toNat < 0x20 then
    ['\\', 'u', '0', '0', hexDigit (c.toNat / 16), hexDigit (c.toNat % 16)]
  else [c]

def dumpsString (s : String) : List Char := '"' :: (s.toList.flatMap escapeChar ++ ['"'])

def dumpsInt : Int → List Char
  | .ofNat n => Nat.toDigits 10 n
  | .negSucc n => '-' :: Nat.toDigits 10 (n + 1)

mutual

/-- `json.dumps(value, ensure_ascii=False, separators=(",", ":"))`. -/
def Json.dumps : Json → List Char
  | .null => ['n', 'u', 'l', 'l']
  | .bool true => ['t', 'r', 'u', 'e']
  | .bool false => ['f', 'a', 'l', 's', 'e']
  | .int i => dumpsInt i
  | .str s => dumpsString s
  | .arr items => '[' :: Json.dumpsItems items
  | .obj entries => '{' :: Json.dumpsEntries entries

/-- The items of an array and the bracket that closes it. -/
def Json.dumpsItems : List Json → List Char
  | [] => [']']
  | j :: js => j.dumps ++ Json.dumpsMoreItems js

def Json.dumpsMoreItems : List Json → List Char
  | [] => [']']
  | j :: js => ',' :: (j.dumps ++ Json.dumpsMoreItems js)

/-- The entries of an object and the brace that closes it. -/
def Json.dumpsEntries : List (String × Json) → List Char
  | [] => ['}']
  | (k, j) :: rest => dumpsString k ++ ':' :: (j.dumps ++ Json.dumpsMoreEntries rest)

def Json.dumpsMoreEntries : List (String × Json) → List Char
  | [] => ['}']
  | (k, j) :: rest => ',' :: (dumpsString k ++ ':' :: (j.dumps ++ Json.dumpsMoreEntries rest))

end

def canonicalJson (py : Stdlib) (value : PyValue) : Except Failure String :=
  (normalizeValue py .plain value).map fun j => String.ofList j.dumps

def canonicalJsonBytes (py : Stdlib) (value : PyValue) : Except Failure ByteArray :=
  (canonicalJson py value).map String.toByteArray

mutual

/-- The Python value a normalised document is. -/
def Json.toPy : Json → PyValue
  | .null => .none
  | .bool b => .bool b
  | .int i => .int i
  | .str s => .str (.valid s)
  | .arr items => .list (Json.toPyItems items)
  | .obj entries => .dict (Json.toPyEntries entries)

def Json.toPyItems : List Json → List PyValue
  | [] => []
  | j :: js => j.toPy :: Json.toPyItems js

def Json.toPyEntries : List (String × Json) → List (PyValue × PyValue)
  | [] => []
  | (k, j) :: rest => (.str (.valid k), j.toPy) :: Json.toPyEntries rest

end

/-! ## `json.loads` -/

/-- Why the scanner stopped: a `JSONDecodeError` and how much of the text was left, or an
exception of another class. -/
inductive ScanFailure
  | decode (message : String) (left : Nat)
  | raised (failure : Failure)

/-- Where the scanner is when it stops: the value and the rest of the text. -/
abbrev Scan (α : Type) := Except ScanFailure (α × List Char)

def isJsonWhitespace (c : Char) : Bool := c = ' ' || c = '\t' || c = '\n' || c = '\r'

def skipWhitespace (cs : List Char) : List Char := cs.dropWhile isJsonWhitespace

def hexValue (c : Char) : Option Nat :=
  if '0' ≤ c ∧ c ≤ '9' then some (c.toNat - '0'.toNat)
  else if 'a' ≤ c ∧ c ≤ 'f' then some (c.toNat - 'a'.toNat + 10)
  else if 'A' ≤ c ∧ c ≤ 'F' then some (c.toNat - 'A'.toNat + 10)
  else none

/-- The code unit of four hexadecimal digits. -/
def hexUnit (a b c d : Char) : Option Nat := do
  let a ← hexValue a
  let b ← hexValue b
  let c ← hexValue c
  let d ← hexValue d
  return ((a * 16 + b) * 16 + c) * 16 + d

/-- What a character means after a backslash. -/
def unescape (c : Char) : Option Nat :=
  if c = '"' then some 34
  else if c = '\\' then some 92
  else if c = '/' then some 47
  else if c = 'b' then some 8
  else if c = 'f' then some 12
  else if c = 'n' then some 10
  else if c = 'r' then some 13
  else if c = 't' then some 9
  else none

/-- `scanstring` after the opening quote: the code points of the literal, those of
a surrogate pair still apart. `start` is what was left at the opening quote. -/
def scanUnits (start : Nat) : List Char → Scan (List Nat)
  | [] => .error (.decode "Unterminated string starting at" start)
  | '"' :: rest => .ok ([], rest)
  | '\\' :: 'u' :: a :: b :: c :: d :: rest =>
    match rest.isEmpty, hexUnit a b c d with
    | false, some unit => (scanUnits start rest).map fun r => (unit :: r.1, r.2)
    | _, _ => .error (.decode "Invalid \\uXXXX escape" (rest.length + 5))
  | '\\' :: 'u' :: rest => .error (.decode "Invalid \\uXXXX escape" (rest.length + 1))
  | '\\' :: c :: rest =>
    match unescape c with
    | some unit => (scanUnits start rest).map fun r => (unit :: r.1, r.2)
    | none => .error (.decode "Invalid \\escape" (rest.length + 2))
  | ['\\'] => .error (.decode "Unterminated string starting at" start)
  | c :: rest =>
    if c.toNat < 0x20 then .error (.decode "Invalid control character at" (rest.length + 1))
    else (scanUnits start rest).map fun r => (c.toNat :: r.1, r.2)

def isHighSurrogate (n : Nat) : Bool := 0xD800 ≤ n && n ≤ 0xDBFF

def isLowSurrogate (n : Nat) : Bool := 0xDC00 ≤ n && n ≤ 0xDFFF

/-- Each surrogate pair as the code point it stands for. -/
def joinSurrogates : List Nat → List Nat
  | [] => []
  | [u] => [u]
  | u :: v :: rest =>
    if isHighSurrogate u && isLowSurrogate v then
      (0x10000 + (u - 0xD800) * 0x400 + (v - 0xDC00)) :: joinSurrogates rest
    else u :: joinSurrogates (v :: rest)

def Text.ofCodePoints (cs : List Nat) : Text :=
  if cs.all fun n => Nat.isValidChar n then .valid (String.ofList (cs.map Char.ofNat))
  else .surrogates cs

def scanString (cs : List Char) : Scan Text :=
  (scanUnits (cs.length + 1) cs).map fun r => (Text.ofCodePoints (joinSurrogates r.1), r.2)

/-- A string in a message, which has no lone surrogates. -/
def Text.display : Text → String
  | .valid s => s
  | .surrogates cs => String.ofList (cs.map Char.ofNat)

/-- What `json.loads` leaves to its caller: `float` of the text of a number, the
constants that are not JSON, and the entries of an object. -/
structure JsonHooks where
  parseFloat : String → Option Rat
  parseConstant : String → Except ScanFailure PyValue
  objectPairs : List (Text × PyValue) → Except ScanFailure (List (PyValue × PyValue))

def integerPart : List Char → Option (List Char × List Char)
  | [] => none
  | c :: cs =>
    if c = '0' then some (['0'], cs)
    else if c.isDigit then some (c :: cs.takeWhile Char.isDigit, cs.dropWhile Char.isDigit)
    else none

def fractionPart : List Char → List Char × List Char
  | '.' :: c :: cs =>
    if c.isDigit then ('.' :: c :: cs.takeWhile Char.isDigit, cs.dropWhile Char.isDigit)
    else ([], '.' :: c :: cs)
  | cs => ([], cs)

def exponentSign : List Char → List Char × List Char
  | '+' :: cs => (['+'], cs)
  | '-' :: cs => (['-'], cs)
  | cs => ([], cs)

def exponentPart : List Char → List Char × List Char
  | [] => ([], [])
  | e :: cs =>
    if (e = 'e' ∨ e = 'E') ∧ (exponentSign cs).2.head?.any Char.isDigit then
      (e :: (exponentSign cs).1 ++ (exponentSign cs).2.takeWhile Char.isDigit,
        (exponentSign cs).2.dropWhile Char.isDigit)
    else ([], e :: cs)

def maxIntDigits : Nat := 4300

def parseInt (negative : Bool) (digits : List Char) : Except ScanFailure PyValue :=
  if maxIntDigits < digits.length then
    .error (.raised ⟨.valueError,
      s!"Exceeds the limit (4300 digits) for integer string conversion: value has {digits.length} " ++
        "digits; use sys.set_int_max_str_digits() to increase the limit"⟩)
  else if negative then .ok (.int (-(Nat.ofDigitChars 10 digits 0 : Nat)))
  else .ok (.int (Nat.ofDigitChars 10 digits 0))

def numberSign : List Char → List Char × List Char
  | '-' :: cs => (['-'], cs)
  | cs => ([], cs)

/-- `_match_number`. -/
def scanNumber (hooks : JsonHooks) (cs : List Char) : Scan PyValue :=
  match integerPart (numberSign cs).2 with
  | none => .error (.decode "Expecting value" cs.length)
  | some (digits, rest) =>
    let fraction := fractionPart rest
    let exponent := exponentPart fraction.2
    if fraction.1 = [] ∧ exponent.1 = [] then
      (parseInt (!(numberSign cs).1.isEmpty) digits).map fun v => (v, exponent.2)
    else
      .ok (.float (hooks.parseFloat (String.ofList
        ((numberSign cs).1 ++ digits ++ fraction.1 ++ exponent.1))), exponent.2)

/-- The constants and numbers of `scan_once`. -/
def scanAtom (hooks : JsonHooks) (cs : List Char) : Scan PyValue :=
  if "null".toList.isPrefixOf cs then .ok (.none, cs.drop 4)
  else if "true".toList.isPrefixOf cs then .ok (.bool true, cs.drop 4)
  else if "false".toList.isPrefixOf cs then .ok (.bool false, cs.drop 5)
  else if "NaN".toList.isPrefixOf cs then (hooks.parseConstant "NaN").map fun v => (v, cs.drop 3)
  else if "Infinity".toList.isPrefixOf cs then (hooks.parseConstant "Infinity").map fun v => (v, cs.drop 8)
  else if "-Infinity".toList.isPrefixOf cs then (hooks.parseConstant "-Infinity").map fun v => (v, cs.drop 9)
  else scanNumber hooks cs

mutual

/-- `scan_once`. Each call is given less fuel than the one it comes from; twice the
length of the text is enough. -/
def scanOnce (hooks : JsonHooks) : Nat → List Char → Scan PyValue
  | 0, cs => .error (.decode "Expecting value" cs.length)
  | _ + 1, '"' :: rest => (scanString rest).map fun r => (.str r.1, r.2)
  | n + 1, '[' :: rest =>
    match skipWhitespace rest with
    | ']' :: rest => .ok (.list [], rest)
    | rest => (scanItems hooks n rest).map fun r => (.list r.1, r.2)
  | n + 1, '{' :: rest =>
    match skipWhitespace rest with
    | '}' :: rest => .ok (.dict [], rest)
    | rest => (scanPairs hooks n rest).bind fun r =>
      (hooks.objectPairs r.1).map fun entries => (.dict entries, r.2)
  | _ + 1, cs => scanAtom hooks cs

def scanItems (hooks : JsonHooks) : Nat → List Char → Scan (List PyValue)
  | 0, cs => .error (.decode "Expecting value" cs.length)
  | n + 1, cs => (scanOnce hooks n cs).bind fun item =>
    match skipWhitespace item.2 with
    | ']' :: rest => .ok ([item.1], rest)
    | ',' :: rest => (scanItems hooks n (skipWhitespace rest)).map fun r => (item.1 :: r.1, r.2)
    | rest => .error (.decode "Expecting ',' delimiter" rest.length)

/-- The entries of an object that has one. -/
def scanPairs (hooks : JsonHooks) : Nat → List Char → Scan (List (Text × PyValue))
  | 0, cs => .error (.decode "Expecting value" cs.length)
  | n + 1, '"' :: rest => (scanString rest).bind fun key =>
    match skipWhitespace key.2 with
    | ':' :: rest => (scanOnce hooks n (skipWhitespace rest)).bind fun item =>
      match skipWhitespace item.2 with
      | '}' :: rest => .ok ([(key.1, item.1)], rest)
      | ',' :: rest =>
        (scanPairs hooks n (skipWhitespace rest)).map fun r => ((key.1, item.1) :: r.1, r.2)
      | rest => .error (.decode "Expecting ',' delimiter" rest.length)
    | rest => .error (.decode "Expecting ':' delimiter" rest.length)
  | _ + 1, cs => .error (.decode "Expecting property name enclosed in double quotes" cs.length)

end

/-- `JSONDecodeError` at a position of the text. -/
def jsonDecodeError (text : List Char) (message : String) (position : Nat) : Failure :=
  let before := text.take position
  let line := before.count '\n' + 1
  let column := (before.reverse.takeWhile (· ≠ '\n')).length + 1
  ⟨.valueError, s!"{message}: line {line} column {column} (char {position})"⟩

def ScanFailure.toFailure (text : List Char) : ScanFailure → Failure
  | .decode message left => jsonDecodeError text message (text.length - left)
  | .raised failure => failure

def jsonLoads (hooks : JsonHooks) (value : String) : Except ScanFailure PyValue := do
  let text := value.toList
  if text.head?.any fun c => c.toNat = 0xFEFF then
    throw (.decode "Unexpected UTF-8 BOM (decode using utf-8-sig)" text.length)
  let (value, rest) ← scanOnce hooks (2 * text.length) (skipWhitespace text)
  let rest := skipWhitespace rest
  if rest ≠ [] then
    throw (.decode "Extra data" rest.length)
  return value

def setKey (key : Text) (item : PyValue) : List (PyValue × PyValue) → List (PyValue × PyValue)
  | [] => [(.str key, item)]
  | (k, v) :: rest =>
    if k.keyText = some key then (k, item) :: rest else (k, v) :: setKey key item rest

/-- `dict` of pairs: a later entry replaces an earlier one under the same key. -/
def dictOfPairs (pairs : List (Text × PyValue)) : List (PyValue × PyValue) :=
  pairs.foldl (fun entries pair => setKey pair.1 pair.2 entries) []

/-- `json.loads` without hooks. -/
def defaultHooks (pyFloat : String → Option Rat) : JsonHooks where
  parseFloat := pyFloat
  parseConstant _ := .ok (.float none)
  objectPairs pairs := .ok (dictOfPairs pairs)

/-! ## `strict_json_loads` -/

/-- `object_pairs`; `seen` are the keys of the result so far. -/
def objectPairs (seen : List Text) : List (Text × PyValue) → Except ScanFailure (List (PyValue × PyValue))
  | [] => .ok []
  | (key, item) :: rest =>
    if key ∈ seen then
      .error (.raised (canonicalizationError s!"Duplicate JSON key: {key.display}"))
    else (objectPairs (key :: seen) rest).map fun result => (.str key, item) :: result

def parseConstant (token : String) : ScanFailure :=
  .raised (canonicalizationError s!"Non-finite JSON number: {token}")

def strictHooks (pyFloat : String → Option Rat) : JsonHooks where
  parseFloat := pyFloat
  parseConstant token := .error (parseConstant token)
  objectPairs := objectPairs []

/-- `strict_json_loads` of a string. -/
def strictJsonLoads (pyFloat : String → Option Rat) (value : String) : Except Failure PyValue :=
  (jsonLoads (strictHooks pyFloat) value).mapError (ScanFailure.toFailure value.toList)

end VeraMono

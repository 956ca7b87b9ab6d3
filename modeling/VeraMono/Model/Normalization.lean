import VeraMono.Model.ResourceLease

/-!
# Normalisation of acquired bytes

`normalize_bytes` of `vera_ingest`'s `normalization.py`. What the JSON library does with a text, the
canonical text of a value, lower case and Unicode composition are parameters. A canonical text may hold
a lone surrogate, which UTF-8 cannot encode.
-/

namespace VeraMono.Normalization

variable {V : Type}

/-- What `normalize_bytes` raises: its own error, or the encoder's. -/
inductive NormalizeError
  | normalization (message : String)
  | unicodeEncode
  deriving DecidableEq, Repr

variable (V) in
/-- The libraries: an error is the text of a `JSONDecodeError`, `TypeError` or `ValueError`. -/
structure Libraries where
  loads : String → Except String V
  canonicalJson : V → Except String Text
  nfc : List Char → List Char
  lower : List Char → List Char
  decodeError : ByteArray → String
  encodeError : List Nat → String

/-! ## Lines -/

/-- Where `str.splitlines` ends a line. -/
def isLineBoundary (c : Char) : Bool :=
  let n := c.toNat
  (10 ≤ n && n ≤ 13) || (28 ≤ n && n ≤ 30) || n == 0x85 || n == 0x2028 || n == 0x2029

/-- `str.splitlines`, with the line so far in reverse. -/
def splitlinesFrom : List Char → List Char → List (List Char)
  | line, [] => if line = [] then [] else [line.reverse]
  | line, '\r' :: '\n' :: rest => line.reverse :: splitlinesFrom [] rest
  | line, c :: rest =>
    if isLineBoundary c then line.reverse :: splitlinesFrom [] rest else splitlinesFrom (c :: line) rest

def splitlines (text : List Char) : List (List Char) := splitlinesFrom [] text

/-- `text.replace("\r\n", "\n").replace("\r", "\n")`. -/
def replaceNewlines : List Char → List Char
  | '\r' :: '\n' :: rest => '\n' :: replaceNewlines rest
  | c :: rest => (if c = '\r' then '\n' else c) :: replaceNewlines rest
  | [] => []

/-- `not line.strip()`. -/
def blank (line : List Char) : Bool := line.all isWhitespace

/-! ## Media types -/

variable (lib : Libraries V)

/-- `_clean_media_type`, with the default of `normalize_bytes`. -/
def cleanMediaType (mediaType : String) : String :=
  let cleaned := lib.lower (strip (mediaType.toList.takeWhile (· ≠ ';')))
  if cleaned = [] then "application/octet-stream" else String.ofList cleaned

def isJson (mediaType : String) : Prop :=
  cleanMediaType lib mediaType = "application/json" ∨ cleanMediaType lib mediaType = "text/json"

def isJsonLines (mediaType : String) : Prop :=
  cleanMediaType lib mediaType = "application/x-ndjson" ∨ cleanMediaType lib mediaType = "application/jsonl"

def isText (mediaType : String) : Prop := (cleanMediaType lib mediaType).startsWith "text/" = true

instance (mediaType : String) : Decidable (isJson lib mediaType) := inferInstanceAs (Decidable (_ ∨ _))

instance (mediaType : String) : Decidable (isJsonLines lib mediaType) := inferInstanceAs (Decidable (_ ∨ _))

instance (mediaType : String) : Decidable (isText lib mediaType) := inferInstanceAs (Decidable (_ = _))

/-! ## The three branches -/

/-- One handler catches the decoder, the parser, the writer and the encoder. -/
def normalizeJson (data : ByteArray) : Except NormalizeError ByteArray :=
  match String.fromUTF8? data with
  | none => .error (.normalization s!"invalid JSON: {lib.decodeError data}")
  | some text =>
    match lib.loads text with
    | .error e => .error (.normalization s!"invalid JSON: {e}")
    | .ok v =>
      match lib.canonicalJson v with
      | .error e => .error (.normalization s!"invalid JSON: {e}")
      | .ok (.surrogates cs) => .error (.normalization s!"invalid JSON: {lib.encodeError cs}")
      | .ok (.valid s) => .ok s.toUTF8

/-- The loop over the lines, from line number `index` on. -/
def normalizeLines : Nat → List (List Char) → Except NormalizeError (List Text)
  | _, [] => .ok []
  | index, line :: rest =>
    if blank line then normalizeLines (index + 1) rest
    else
      match lib.loads (String.ofList line) with
      | .error e => .error (.normalization s!"invalid JSONL line {index}: {e}")
      | .ok v =>
        match lib.canonicalJson v with
        | .error e => .error (.normalization s!"invalid JSONL line {index}: {e}")
        | .ok t => (normalizeLines (index + 1) rest).map (t :: ·)

def joinLines : List Text → Option (List Char)
  | [] => some []
  | .valid s :: rest => (joinLines rest).map fun chars => s.toList ++ '\n' :: chars
  | .surrogates _ :: _ => none

/-- The last encoding is outside of every handler. -/
def normalizeJsonLines (data : ByteArray) : Except NormalizeError ByteArray :=
  match String.fromUTF8? data with
  | none => .error (.normalization "JSONL is not valid UTF-8")
  | some text =>
    match normalizeLines lib 1 (splitlines text.toList) with
    | .error e => .error e
    | .ok lines =>
      match joinLines lines with
      | none => .error .unicodeEncode
      | some chars => .ok (String.ofList chars).toUTF8

def normalizeText (data : ByteArray) : Except NormalizeError ByteArray :=
  match String.fromUTF8? data with
  | none => .error (.normalization "text payload is not valid UTF-8")
  | some text => .ok (String.ofList (lib.nfc (replaceNewlines text.toList))).toUTF8

def normalizeBytes (data : ByteArray) (mediaType : String) : Except NormalizeError (Option ByteArray) :=
  if isJson lib mediaType then (normalizeJson lib data).map some
  else if isJsonLines lib mediaType then (normalizeJsonLines lib data).map some
  else if isText lib mediaType then (normalizeText lib data).map some
  else .ok none

end VeraMono.Normalization

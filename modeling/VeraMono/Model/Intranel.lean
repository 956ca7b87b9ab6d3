import VeraMono.Model.IntranelJson

/-!
# Intranel messages

`message.py` and `types.py` of the Intranel: the constructor of a message with its checks,
the mapping that goes over the wire, and the parser of such mappings.
-/

namespace VeraMono

namespace Intranel

/-! ## Types -/

inductive Performative
  | query | report | request | execute | review | ack | reject | wait | conflict | cancel | receipt
  deriving DecidableEq

inductive EffectClass
  | readOnly | reversibleMutation | protectedMutation | irreversible
  deriving DecidableEq

inductive SecurityProfile
  | «open» | «private» | sealed
  deriving DecidableEq

def Performative.value : Performative → String
  | query => "QUERY"
  | report => "REPORT"
  | request => "REQUEST"
  | execute => "EXECUTE"
  | review => "REVIEW"
  | ack => "ACK"
  | reject => "REJECT"
  | wait => "WAIT"
  | conflict => "CONFLICT"
  | cancel => "CANCEL"
  | receipt => "RECEIPT"

def EffectClass.value : EffectClass → String
  | readOnly => "READ_ONLY"
  | reversibleMutation => "REVERSIBLE_MUTATION"
  | protectedMutation => "PROTECTED_MUTATION"
  | irreversible => "IRREVERSIBLE"

def SecurityProfile.value : SecurityProfile → String
  | «open» => "OPEN"
  | «private» => "PRIVATE"
  | sealed => "SEALED"

def performatives : List Performative :=
  [.query, .report, .request, .execute, .review, .ack, .reject, .wait, .conflict, .cancel, .receipt]

def effectClasses : List EffectClass := [.readOnly, .reversibleMutation, .protectedMutation, .irreversible]

def securityProfiles : List SecurityProfile := [.«open», .«private», .sealed]

/-- `datetime.fromisoformat` of a text. -/
inductive AwareTime
  | invalid
  | naive
  | aware (instant : Rat)

/-- What the code asks of the standard library. -/
structure IntranelRuntime where
  repr : PyValue → String
  /-- `ch.isspace()` of a code point. -/
  isSpace : Nat → Bool
  /-- `datetime.fromisoformat(raw.replace("Z", "+00:00"))`. -/
  fromisoformat : String → AwareTime
  sha256 : ByteArray → String

variable (rt : IntranelRuntime)

def lowerLetter (c : Char) : Bool := 'a' ≤ c && c ≤ 'z'

def upperLetter (c : Char) : Bool := 'A' ≤ c && c ≤ 'Z'

/-- The namespace of `_ADDRESS_RE`. -/
def isNamespace : List Char → Bool
  | [] => false
  | c :: cs => lowerLetter c && cs.all fun c => lowerLetter c || c.isDigit || c = '_' || c = '-'

/-- The node of `_ADDRESS_RE`. -/
def isNode : List Char → Bool
  | [] => false
  | c :: cs => (lowerLetter c || upperLetter c || c.isDigit) && cs.all fun c =>
      lowerLetter c || upperLetter c || c.isDigit || c = '.' || c = '_' || c = '/' || c = '-'

def maxAddressLength : Nat := 320

def isAddress (scope node : List Char) : Bool :=
  isNamespace scope && isNode node && scope.length + 1 + node.length ≤ maxAddressLength

structure Address where
  scope : List Char
  node : List Char
  valid : isAddress scope node = true

/-- `str` of an address. -/
def Address.text (a : Address) : String := String.ofList (a.scope ++ ':' :: a.node)

/-- The address that a text is, by `_ADDRESS_RE`; an error shows the text as it came. -/
def Address.ofText (shown : String) : Text → Except Failure Address
  | .surrogates _ => .error (valueError s!"invalid Intranel address: {shown}")
  | .valid s =>
    let scope := s.toList.takeWhile fun c => c ≠ ':'
    let node := (s.toList.dropWhile fun c => c ≠ ':').tail
    if h : isAddress scope node = true then .ok ⟨scope, node, h⟩
    else .error (valueError s!"invalid Intranel address: {shown}")

def Address.parse (raw : PyValue) : Except Failure Address :=
  match raw.keyText with
  | none => .error (valueError "address must be a bounded string")
  | some t =>
    if t.codePoints.length > maxAddressLength then .error (valueError "address must be a bounded string")
    else Address.ofText (rt.repr raw) t

/-! ## Fields -/

def protocol : String := "INTRANEL/1"

def maxTokenLength : Nat := 256

def maxScalarStringBytes : Nat := 4096

def maxListItems : Nat := 64

def maxMessageBytes : Nat := 65536

def requireToken (field : String) (value : PyValue) : Except Failure Text :=
  let invalid := valueError s!"{field} must be a non-empty bounded token without whitespace"
  match value.keyText with
  | none => .error invalid
  | some t =>
    if t.codePoints = [] ∨ t.codePoints.length > maxTokenLength ∨ t.codePoints.any rt.isSpace then .error invalid
    else .ok t

def optionalToken (field : String) : PyValue → Except Failure (Option Text)
  | .none => .ok none
  | value => (requireToken rt field value).map some

def optionalString (field : String) : PyValue → Except Failure (Option String)
  | .none => .ok none
  | value =>
    match value.keyText with
    | none => .error (valueError s!"{field} must be a non-empty string or null")
    | some t =>
      if t.codePoints = [] then .error (valueError s!"{field} must be a non-empty string or null")
      else (encodes field maxScalarStringBytes t).map some

def stringItems (field : String) (items : List PyValue) : Except Failure (List (Option String)) :=
  if items.length > maxListItems then .error (valueError s!"{field} exceeds collection limit")
  else items.mapM (optionalString field)

def tupleOfStrings (field : String) : PyValue → Except Failure (List String)
  | .none => .ok []
  | .list items => (stringItems field items).map fun items => items.map fun item => item.getD ""
  | .tuple items => (stringItems field items).map fun items => items.map fun item => item.getD ""
  | _ => .error (valueError s!"{field} must be an array of strings")

def keptTuple (field : String) : PyValue → Except Failure (List (Option String))
  | .tuple items => stringItems field items
  | _ => .error (valueError s!"{field} must be an immutable tuple of strings")

def parseTimestamp (field : String) (value : PyValue) : Except Failure (Option (String × Rat)) := do
  match ← optionalString field value with
  | none => return none
  | some raw =>
    match rt.fromisoformat raw with
    | .invalid => throw (valueError s!"{field} must be an offset-aware ISO 8601 timestamp")
    | .naive => throw (valueError s!"{field} must include a timezone offset")
    | .aware instant => return some (raw, instant)

/-- `expires_at` is later than `observed_at`, where both are there. -/
def checkExpiry (observed expires : Option (String × Rat)) : Except Failure Unit :=
  match observed, expires with
  | some observed, some expires =>
    if expires.2 ≤ observed.2 then .error (valueError "expires_at must be later than observed_at") else .ok ()
  | _, _ => .ok ()

def checkPriority : PyValue → Except Failure Int
  | .int i =>
    if 0 ≤ i ∧ i ≤ 4 then .ok i else .error (valueError "priority must be an integer from 0 through 4")
  | _ => .error (valueError "priority must be an integer from 0 through 4")

def checkAck : PyValue → Except Failure Bool
  | .bool b => .ok b
  | _ => .error (valueError "ack_required must be boolean")

/-- The frozen receipt, which is an object or nothing. -/
def freezeReceipt : PyValue → Except Failure (Option (List (String × Json)))
  | .none => .ok none
  | value => do
    match ← freezeJson value "receipt" with
    | .obj entries => return some entries
    | _ => throw (valueError "receipt must be an object or null")

/-! ## Messages -/

/-- What the constructor is called with. An address or a member of an enumeration is there as
such, or is an object of another type. -/
structure MessageArgs where
  protocol : PyValue
  origin : Option Address
  actor : Option Address
  target : Option Address
  replyTo : Option Address
  messageId : PyValue
  operationId : PyValue
  parentMessageId : PyValue
  conversationId : PyValue
  performative : Option Performative
  subject : PyValue
  exactSubject : PyValue
  payload : PyValue
  authorityClaimRef : PyValue
  constraints : PyValue
  prohibitedEffects : PyValue
  /-- `None`, or a member. -/
  expectedResponse : Option (Option Performative)
  ackRequired : PyValue
  observedAt : PyValue
  expiresAt : PyValue
  idempotencyKey : PyValue
  targetOperationId : PyValue
  priority : PyValue
  effectClass : Option EffectClass
  status : PyValue
  error : PyValue
  receipt : PyValue
  securityProfile : Option SecurityProfile
  capabilities : PyValue
  provenance : PyValue

structure IntranelMessage where
  origin : Address
  actor : Address
  target : Address
  replyTo : Address
  messageId : Text
  operationId : Option Text
  parentMessageId : Option Text
  conversationId : Text
  performative : Performative
  subject : Option String
  exactSubject : Option String
  payload : Json
  authorityClaimRef : Option String
  constraints : List (Option String)
  prohibitedEffects : List (Option String)
  expectedResponse : Option Performative
  ackRequired : Bool
  observedAt : Option String
  expiresAt : Option String
  idempotencyKey : Option Text
  targetOperationId : Option Text
  priority : Int
  effectClass : EffectClass
  status : Option String
  error : Option String
  receipt : Option (List (String × Json))
  securityProfile : SecurityProfile
  capabilities : List (Option String)
  provenance : List (Option String)

def textValue (s : String) : PyValue := .str (.valid s)

def optionalText (t : Option Text) : PyValue := t.elim .none .str

def optionalValue (s : Option String) : PyValue := s.elim .none textValue

def receiptValue (receipt : Option (List (String × Json))) : PyValue :=
  receipt.elim .none fun entries => thawJson (.obj entries)

namespace IntranelMessage

/-- The entries of `to_mapping`. -/
def entries (m : IntranelMessage) : List (PyValue × PyValue) :=
  [(textValue "protocol", textValue protocol), (textValue "origin", textValue m.origin.text),
    (textValue "actor", textValue m.actor.text), (textValue "target", textValue m.target.text),
    (textValue "reply_to", textValue m.replyTo.text), (textValue "message_id", .str m.messageId),
    (textValue "operation_id", optionalText m.operationId),
    (textValue "target_operation_id", optionalText m.targetOperationId),
    (textValue "parent_message_id", optionalText m.parentMessageId),
    (textValue "conversation_id", .str m.conversationId),
    (textValue "performative", textValue m.performative.value),
    (textValue "subject", optionalValue m.subject), (textValue "exact_subject", optionalValue m.exactSubject),
    (textValue "payload", thawJson m.payload),
    (textValue "authority_claim_ref", optionalValue m.authorityClaimRef),
    (textValue "constraints", .list (m.constraints.map optionalValue)),
    (textValue "prohibited_effects", .list (m.prohibitedEffects.map optionalValue)),
    (textValue "expected_response", optionalValue (m.expectedResponse.map Performative.value)),
    (textValue "ack_required", .bool m.ackRequired), (textValue "observed_at", optionalValue m.observedAt),
    (textValue "expires_at", optionalValue m.expiresAt),
    (textValue "idempotency_key", optionalText m.idempotencyKey), (textValue "priority", .int m.priority),
    (textValue "effect_class", textValue m.effectClass.value), (textValue "status", optionalValue m.status),
    (textValue "error", optionalValue m.error),
    (textValue "receipt", receiptValue m.receipt),
    (textValue "security_profile", textValue m.securityProfile.value),
    (textValue "capabilities", .list (m.capabilities.map optionalValue)),
    (textValue "provenance", .list (m.provenance.map optionalValue))]

def toMapping (m : IntranelMessage) : PyValue := .dict m.entries

/-- The fields that a message must have, as `{message} requires {name}`. -/
def checkRequired (message : String) : List (String × Bool) → Except Failure Unit
  | [] => .ok ()
  | (name, present) :: rest =>
    if present then checkRequired message rest else .error (valueError s!"{message} requires {name}")

def checkPerformative (m : IntranelMessage) : Except Failure Unit := do
  if m.performative = .review then checkRequired "REVIEW" [("exact_subject", m.exactSubject.isSome)]
  if m.performative = .execute ∧ m.effectClass ≠ .readOnly then
    checkRequired "mutating EXECUTE"
      [("operation_id", m.operationId.isSome), ("idempotency_key", m.idempotencyKey.isSome),
        ("authority_claim_ref", m.authorityClaimRef.isSome), ("exact_subject", m.exactSubject.isSome)]
  if m.performative = .cancel then
    if m.effectClass = .readOnly then throw (valueError "CANCEL must declare a mutation effect_class")
    checkRequired "CANCEL"
      [("operation_id", m.operationId.isSome), ("target_operation_id", m.targetOperationId.isSome),
        ("idempotency_key", m.idempotencyKey.isSome), ("authority_claim_ref", m.authorityClaimRef.isSome),
        ("subject", m.subject.isSome), ("exact_subject", m.exactSubject.isSome)]
  if m.performative = .receipt then
    checkRequired "RECEIPT"
      [("operation_id", m.operationId.isSome), ("exact_subject", m.exactSubject.isSome),
        ("receipt", m.receipt.isSome)]

/-- The bound of a whole message. -/
def checkSize (m : IntranelMessage) : Except Failure Unit := do
  let bytes ← canonicalJsonBytes m.toMapping
  if bytes.size > maxMessageBytes then throw (valueError "message exceeds canonical size limit")

def contentDigest (m : IntranelMessage) : Except Failure String :=
  (canonicalJsonBytes m.toMapping).map rt.sha256

end IntranelMessage

/-- An argument that must be an object of a type. -/
def requireInstance {α : Type} (message : String) : Option α → Except Failure α
  | some a => .ok a
  | none => .error (valueError message)

def construct (args : MessageArgs) : Except Failure IntranelMessage := do
  let shown := rt.repr args.protocol
  if args.protocol.keyText ≠ some (.valid protocol) then
    throw (valueError s!"unsupported protocol: {shown}")
  let origin ← requireInstance "origin must be an Address" args.origin
  let actor ← requireInstance "actor must be an Address" args.actor
  let target ← requireInstance "target must be an Address" args.target
  let replyTo ← requireInstance "reply_to must be an Address" args.replyTo
  let performative ← requireInstance "performative must be a Performative" args.performative
  let effectClass ← requireInstance "effect_class must be an EffectClass" args.effectClass
  let securityProfile ← requireInstance "security_profile must be a SecurityProfile" args.securityProfile
  let expectedResponse ← requireInstance "expected_response must be a Performative or null" args.expectedResponse
  let ackRequired ← checkAck args.ackRequired
  let messageId ← requireToken rt "message_id" args.messageId
  let conversationId ← requireToken rt "conversation_id" args.conversationId
  let operationId ← optionalToken rt "operation_id" args.operationId
  let targetOperationId ← optionalToken rt "target_operation_id" args.targetOperationId
  let parentMessageId ← optionalToken rt "parent_message_id" args.parentMessageId
  let idempotencyKey ← optionalToken rt "idempotency_key" args.idempotencyKey
  let subject ← optionalString "subject" args.subject
  let exactSubject ← optionalString "exact_subject" args.exactSubject
  let authorityClaimRef ← optionalString "authority_claim_ref" args.authorityClaimRef
  let status ← optionalString "status" args.status
  let error ← optionalString "error" args.error
  let constraints ← keptTuple "constraints" args.constraints
  let prohibitedEffects ← keptTuple "prohibited_effects" args.prohibitedEffects
  let capabilities ← keptTuple "capabilities" args.capabilities
  let provenance ← keptTuple "provenance" args.provenance
  let payload ← freezeJson args.payload "payload"
  let receipt ← freezeReceipt args.receipt
  let observed ← parseTimestamp rt "observed_at" args.observedAt
  let expires ← parseTimestamp rt "expires_at" args.expiresAt
  checkExpiry observed expires
  let priority ← checkPriority args.priority
  let observedAt := observed.map Prod.fst
  let expiresAt := expires.map Prod.fst
  let m : IntranelMessage :=
    { origin, actor, target, replyTo, messageId, operationId, parentMessageId, conversationId, performative, subject,
      exactSubject, payload, authorityClaimRef, constraints, prohibitedEffects, expectedResponse, ackRequired,
      observedAt, expiresAt, idempotencyKey, targetOperationId, priority, effectClass, status, error, receipt,
      securityProfile, capabilities, provenance }
  m.checkPerformative
  m.checkSize
  return m

/-! ## `parse_message` -/

/-- `_FIELDS`. -/
def messageFields : List String :=
  ["protocol", "origin", "actor", "target", "reply_to", "message_id", "operation_id", "target_operation_id",
    "parent_message_id", "conversation_id", "performative", "subject", "exact_subject", "payload",
    "authority_claim_ref", "constraints", "prohibited_effects", "expected_response", "ack_required", "observed_at",
    "expires_at", "idempotency_key", "priority", "effect_class", "status", "error", "receipt", "security_profile",
    "capabilities", "provenance"]

/-- `_REQUIRED`. -/
def requiredFields : List String :=
  ["protocol", "origin", "actor", "target", "reply_to", "message_id", "conversation_id", "performative",
    "effect_class", "security_profile"]

def getField? (entries : List (PyValue × PyValue)) (field : String) : Option PyValue :=
  (entries.find? fun e => e.1.keyText = some (.valid field)).map Prod.snd

def getField (entries : List (PyValue × PyValue)) (field : String) : PyValue := (getField? entries field).getD .none

def isField (key : PyValue) : Bool := messageFields.any fun field => key.keyText = some (.valid field)

def checkFields (entries : List (PyValue × PyValue)) : Except Failure Unit := do
  let unknown := (entries.map Prod.fst).filter fun key => !isField key
  if unknown ≠ [] then
    match sequence (unknown.map fun key => key.keyText.elim (.error ()) .ok) with
    | .ok texts =>
      let named := ", ".intercalate ((texts.map Text.display).mergeSort fun a b => a ≤ b)
      throw (valueError s!"unknown field(s): {named}")
    | .error _ => throw ⟨.typeError, "sorted keys"⟩
  let missing := requiredFields.filter fun field => (getField? entries field).isNone
  if missing ≠ [] then
    let named := ", ".intercalate (missing.mergeSort fun a b => a ≤ b)
    throw (valueError s!"missing required field(s): {named}")

def memberOf {α : Type} (members : List α) (value : α → String) (name : String) (raw : PyValue) :
    Except Failure α :=
  let shown := rt.repr raw
  match members.find? fun a => raw.keyText = some (.valid (value a)) with
  | some a => .ok a
  | none => .error (valueError s!"{shown} is not a valid {name}")

/-- `expected_response` of a mapping. -/
def responseOf : PyValue → Except Failure (Option Performative)
  | .none => .ok none
  | raw => (memberOf rt performatives Performative.value "Performative" raw).map some

/-- The receipt of a mapping, which is a mapping or nothing. -/
def checkReceipt : PyValue → Except Failure Unit
  | .none => .ok ()
  | .dict _ => .ok ()
  | _ => .error (valueError "receipt must be an object or null")

def tupleValue (items : List String) : PyValue := .tuple (items.map textValue)

def parseMessage (mapping : PyValue) : Except Failure IntranelMessage := do
  match mapping with
  | .dict entries =>
    checkFields entries
    let shown := rt.repr (getField entries "protocol")
    if (getField entries "protocol").keyText ≠ some (.valid protocol) then
      throw (valueError s!"unsupported protocol: {shown}")
    let performative ← memberOf rt performatives Performative.value "Performative" (getField entries "performative")
    let effectClass ← memberOf rt effectClasses EffectClass.value "EffectClass" (getField entries "effect_class")
    let securityProfile ←
      memberOf rt securityProfiles SecurityProfile.value "SecurityProfile" (getField entries "security_profile")
    let expectedResponse ← responseOf rt (getField entries "expected_response")
    let ackRequired ← checkAck ((getField? entries "ack_required").getD (.bool false))
    let observed ← parseTimestamp rt "observed_at" (getField entries "observed_at")
    let expires ← parseTimestamp rt "expires_at" (getField entries "expires_at")
    checkExpiry observed expires
    checkReceipt (getField entries "receipt")
    let origin ← Address.parse rt (getField entries "origin")
    let actor ← Address.parse rt (getField entries "actor")
    let target ← Address.parse rt (getField entries "target")
    let replyTo ← Address.parse rt (getField entries "reply_to")
    let subject ← optionalString "subject" (getField entries "subject")
    let exactSubject ← optionalString "exact_subject" (getField entries "exact_subject")
    let authorityClaimRef ← optionalString "authority_claim_ref" (getField entries "authority_claim_ref")
    let constraints ← tupleOfStrings "constraints" (getField entries "constraints")
    let prohibitedEffects ← tupleOfStrings "prohibited_effects" (getField entries "prohibited_effects")
    let status ← optionalString "status" (getField entries "status")
    let error ← optionalString "error" (getField entries "error")
    let capabilities ← tupleOfStrings "capabilities" (getField entries "capabilities")
    let provenance ← tupleOfStrings "provenance" (getField entries "provenance")
    construct rt
      { protocol := textValue protocol
        origin := some origin
        actor := some actor
        target := some target
        replyTo := some replyTo
        messageId := getField entries "message_id"
        operationId := getField entries "operation_id"
        parentMessageId := getField entries "parent_message_id"
        conversationId := getField entries "conversation_id"
        performative := some performative
        subject := optionalValue subject
        exactSubject := optionalValue exactSubject
        payload := getField entries "payload"
        authorityClaimRef := optionalValue authorityClaimRef
        constraints := tupleValue constraints
        prohibitedEffects := tupleValue prohibitedEffects
        expectedResponse := some expectedResponse
        ackRequired := .bool ackRequired
        observedAt := optionalValue (observed.map Prod.fst)
        expiresAt := optionalValue (expires.map Prod.fst)
        idempotencyKey := getField entries "idempotency_key"
        targetOperationId := getField entries "target_operation_id"
        priority := (getField? entries "priority").getD (.int 3)
        effectClass := some effectClass
        status := optionalValue status
        error := optionalValue error
        receipt := getField entries "receipt"
        securityProfile := some securityProfile
        capabilities := tupleValue capabilities
        provenance := tupleValue provenance }
  | _ => throw (valueError "Intranel message must be a mapping")

end Intranel

end VeraMono

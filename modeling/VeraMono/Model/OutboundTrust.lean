import VeraMono.Framework.ChainLog
import VeraMono.Framework.Table
import VeraMono.Model.Records

/-!
# The outbound trust registry

`outbound_trust.py`: which authority and which verifier key are current for each
scope, as a table and as the chain of events it came from. A mutation holds the
action lock from its first check to its last read, so that mutations run one after
the other; its transaction commits before it asserts that the new key is current,
so an operation gives its outcome together with the registry it leaves.
-/

namespace VeraMono

open Framework

variable {D : Type}

/-- A payload of an event, and the columns of a row of `authorities` after its key. -/
structure AuthorityTrustState (D : Type) where
  authorityId : String
  role : String
  providerId : Option String
  authorityGeneration : Nat
  revocationEpoch : Nat
  keyId : String
  keyDigest : D
  enabled : Bool
  deriving DecidableEq

structure TrustAuthority (D : Type) where
  scopeKey : String
  state : AuthorityTrustState D
  deriving DecidableEq

inductive TrustEventType
  | register | rotate | revoke | reactivate
  deriving DecidableEq, Repr

/-- An event; `epochFlag` says that the `revocation_epoch` of its payload is a boolean, which JSON
keeps apart from the number that it is equal to. -/
structure TrustEvent (D : Type) where
  scopeKey : String
  eventType : TrustEventType
  payload : AuthorityTrustState D
  epochFlag : Bool
  deriving DecidableEq

/-- An epoch that a caller expects: an integer, of which a boolean is one. -/
inductive ExpectedEpoch
  | number (n : Int)
  | flag (b : Bool)

def ExpectedEpoch.value : ExpectedEpoch → Int
  | .number n => n
  | .flag b => b.toNat

def ExpectedEpoch.isFlag : ExpectedEpoch → Bool
  | .number _ => false
  | .flag _ => true

/-- The JSON objects the module hashes. -/
inductive TrustBody (D : Type)
  | event (registryGeneration : Nat) (predecessor : D) (event : TrustEvent D)
  | receipt (state : AuthorityTrustState D) (registryGeneration : Nat) (registryHead : D)

/-- SHA-256 of the canonical bytes of an object, and the digest of the genesis text. -/
structure TrustHashing (D : Type) where
  sha256 : TrustBody D → D
  genesisHead : D

/-- The scopes with what is current in them, in the order of their first event. -/
abbrev TrustTable (D : Type) := Table (TrustAuthority.scopeKey (D := D))

/-- The events and the two values of `meta`, which are the sequence and head of the
log, with the table of authorities. -/
structure TrustRegistry (D : Type) where
  log : ChainLog (TrustEvent D) D
  authorities : TrustTable D

structure TrustArgs (D : Type) where
  authorityId : String
  role : String
  providerId : Option String
  keyId : String
  keyDigest : DigestText D

namespace OutboundTrustRegistry

def trustError (message : String) : Failure := ⟨.outboundTrustError, message⟩

/-- `_require_text`. -/
def text (value label : String) : Except Failure String := requireText .outboundTrustError label value

/-- `_require_digest`. -/
def requireKeyDigest : DigestText D → Except Failure D
  | .lower d => .ok d
  | .upper d => .ok d
  | .malformed s =>
    if s.length ≠ 64 then .error (trustError "key_digest must be an exact SHA-256 digest")
    else .error (trustError "key_digest must be hexadecimal")

def scopeKey (role : String) (providerId : Option String) : Except Failure String := do
  let role ← text role "role"
  if role ∉ ["PC", "PROVIDER", "RECONCILIATION"] then
    throw (trustError s!"unsupported outbound trust role: {role}")
  if role = "PROVIDER" then
    let provider ← text (providerId.getD "") "provider_id"
    return s!"{role}:{provider}"
  if providerId.isSome then
    throw (trustError s!"{role} trust scope must not carry provider_id")
  return role

/-- What `normalize_value` checks of the integers of an object. -/
def checkSafe (integers : List Nat) : Except Failure Unit :=
  if ∃ n ∈ integers, maxSafeInteger < n then
    .error (canonicalizationError "Integers must fit the interoperable IEEE-754 safe range")
  else .ok ()

variable (H : TrustHashing D)

def trustChain : Chaining (TrustEvent D) D String (TrustEvent D) where
  key := TrustEvent.scopeKey
  payload := id
  digest n d event := H.sha256 (.event n d event)
  genesis := H.genesisHead

def eventDigest (registryGeneration : Nat) (predecessor : D) (event : TrustEvent D) : Except Failure D := do
  checkSafe [registryGeneration, event.payload.authorityGeneration, event.payload.revocationEpoch]
  return H.sha256 (.event registryGeneration predecessor event)

/-! ## Verification -/

/-- What `verify_chain` checks of an event against the last one of its scope. -/
def checkTransition [DecidableEq D] (prior : Option (AuthorityTrustState D)) (event : TrustEvent D) :
    Except Failure Unit :=
  let payload := event.payload
  match event.eventType, prior with
  | .register, prior =>
    if prior.isSome ∨ payload.authorityGeneration ≠ 1 ∨ payload.revocationEpoch ≠ 0 ∨
        payload.enabled ≠ true then
      .error (trustError "invalid outbound trust REGISTER transition")
    else .ok ()
  | .rotate, none => .error (trustError "invalid outbound trust ROTATE predecessor")
  | .rotate, some prior =>
    if prior.enabled ≠ true then .error (trustError "invalid outbound trust ROTATE predecessor")
    else if payload.authorityId ≠ prior.authorityId ∨
        payload.authorityGeneration ≠ prior.authorityGeneration + 1 ∨
        payload.revocationEpoch ≠ prior.revocationEpoch ∨ payload.enabled ≠ true ∨
        (payload.keyId = prior.keyId ∧ payload.keyDigest = prior.keyDigest) then
      .error (trustError "invalid outbound trust ROTATE transition")
    else .ok ()
  | .revoke, none => .error (trustError "invalid outbound trust REVOKE predecessor")
  | .revoke, some prior =>
    if prior.enabled ≠ true then .error (trustError "invalid outbound trust REVOKE predecessor")
    else if payload.authorityId ≠ prior.authorityId ∨
        payload.authorityGeneration ≠ prior.authorityGeneration ∨
        payload.revocationEpoch ≠ prior.revocationEpoch + 1 ∨ payload.keyId ≠ prior.keyId ∨
        payload.keyDigest ≠ prior.keyDigest ∨ payload.enabled ≠ false then
      .error (trustError "invalid outbound trust REVOKE transition")
    else .ok ()
  | .reactivate, none => .error (trustError "invalid outbound trust REACTIVATE predecessor")
  | .reactivate, some prior =>
    if prior.enabled ≠ false then
      .error (trustError "invalid outbound trust REACTIVATE predecessor")
    else if payload.authorityGeneration ≠ prior.authorityGeneration + 1 ∨
        payload.revocationEpoch ≠ prior.revocationEpoch ∨ payload.enabled ≠ true then
      .error (trustError "invalid outbound trust REACTIVATE transition")
    else .ok ()

def project (projection : TrustTable D) (event : TrustEvent D) : TrustTable D :=
  projection.upsert ⟨event.scopeKey, event.payload⟩

/-- What `verify_chain` checks of an event whose digest is right, and the projection
after it. -/
def checkEvent [DecidableEq D] (projection : TrustTable D) (event : TrustEvent D) :
    Except Failure (TrustTable D) := do
  let expected ← scopeKey event.payload.role event.payload.providerId
  if expected ≠ event.scopeKey then
    throw (trustError "outbound trust event scope binding mismatch")
  let _ ← text event.payload.authorityId "authority_id"
  let _ ← text event.payload.keyId "key_id"
  if event.payload.authorityGeneration < 1 then
    throw (trustError "outbound trust authority generation is invalid")
  if event.epochFlag then
    throw (trustError "outbound trust revocation epoch is invalid")
  checkTransition ((projection.get? event.scopeKey).map TrustAuthority.state) event
  return project projection event

/-- The loop of `verify_chain` over the events, from the number and the digest of the
event before them. -/
def replay [DecidableEq D] : Nat → D → TrustTable D → List (Entry (TrustEvent D) D) →
    Except Failure (Nat × D × TrustTable D)
  | n, d, projection, [] => .ok (n, d, projection)
  | n, d, projection, e :: es => do
    if e.sequence ≠ n + 1 then
      throw (trustError "outbound trust event generation gap")
    if e.predecessor ≠ d then
      throw (trustError "outbound trust predecessor mismatch")
    let observed ← eventDigest H (n + 1) d e.body
    if observed ≠ e.digest then
      throw (trustError "outbound trust event digest mismatch")
    let projection ← checkEvent projection e.body
    replay (n + 1) observed projection es

/-- Whether two dictionaries are equal. -/
def sameProjection [DecidableEq D] (a b : TrustTable D) : Bool :=
  a.rows.all (fun row => b.get? row.scopeKey = some row) &&
    b.rows.all fun row => a.get? row.scopeKey = some row

def verifyChain [DecidableEq D] (s : TrustRegistry D) : Except Failure D := do
  let (count, predecessor, projection) ← replay H 0 H.genesisHead .empty s.log.entries
  if s.log.sequence ≠ count then
    throw (trustError "outbound trust meta generation mismatch")
  if s.log.head ≠ predecessor then
    throw (trustError "outbound trust meta head mismatch")
  if ¬ sameProjection s.authorities projection then
    throw (trustError "outbound trust authority projection diverges from event history")
  return s.log.head

def assertCurrent [DecidableEq D] (args : TrustArgs D) (s : TrustRegistry D) :
    Except Failure (AuthorityCurrentnessReceipt D) := do
  let _ ← verifyChain H s
  let scope ← scopeKey args.role args.providerId
  let authorityId ← text args.authorityId "authority_id"
  let keyId ← text args.keyId "key_id"
  let keyDigest ← requireKeyDigest args.keyDigest
  match s.authorities.get? scope with
  | none => throw (trustError "outbound trust scope is not registered")
  | some row =>
    if row.state.enabled ≠ true then
      throw (trustError "outbound authority is revoked")
    if row.state.authorityId ≠ authorityId then
      throw (trustError "outbound authority identity mismatch")
    if row.state.keyId ≠ keyId ∨ row.state.keyDigest ≠ keyDigest then
      throw (trustError "outbound verifier key is stale or untrusted")
    let state : AuthorityTrustState D := { row.state with
      authorityId, role := args.role, providerId := args.providerId, keyId, keyDigest }
    checkSafe [state.authorityGeneration, state.revocationEpoch, s.log.sequence]
    return ⟨"VERA_MONO_AUTHORITY_CURRENTNESS_RECEIPT_V1", state.authorityId, state.role,
      state.providerId, state.authorityGeneration, state.revocationEpoch, state.keyId,
      state.keyDigest, s.log.sequence, s.log.head,
      H.sha256 (.receipt state s.log.sequence s.log.head)⟩

/-! ## Mutations -/

/-- `_append_event_locked` with the next generation, and `_advance_meta`. -/
def appendEvent [DecidableEq D] (event : TrustEvent D) (log : ChainLog (TrustEvent D) D) :
    Except Failure (ChainLog (TrustEvent D) D) := do
  let digest ← eventDigest H (log.sequence + 1) log.head event
  if ∃ e ∈ log.entries, e.sequence = log.sequence + 1 then
    throw ⟨.integrityError, "UNIQUE constraint failed: events.registry_generation"⟩
  if ∃ e ∈ log.entries, e.digest = digest then
    throw ⟨.integrityError, "UNIQUE constraint failed: events.event_digest"⟩
  return ⟨log.entries ++ [⟨log.sequence + 1, event, log.head, digest⟩], log.sequence + 1, digest⟩

/-- The outcome of a mutation and the registry it leaves. -/
abbrev Mutation (D α : Type) := Except Failure α × TrustRegistry D

/-- A transaction, and what is done once it is committed. -/
def mutate {α β : Type} (s : TrustRegistry D) (transaction : Except Failure (α × TrustRegistry D))
    (after : α → TrustRegistry D → Except Failure β) : Mutation D β :=
  match transaction with
  | .error e => (.error e, s)
  | .ok (a, s') => (after a s', s')

variable [DecidableEq D]

/-- The last step of `register`, `rotate` and `reactivate`. -/
def assertNew (args : TrustArgs D) (keyDigest : D) (s : TrustRegistry D) :
    Except Failure (AuthorityCurrentnessReceipt D) :=
  assertCurrent H { args with keyDigest := .lower keyDigest } s

def checkGeneration (expected : Int) (s : TrustRegistry D) : Except Failure Unit :=
  if (s.log.sequence : Int) ≠ expected then
    .error (trustError "stale outbound trust registry generation")
  else .ok ()

def registerTxn (args : TrustArgs D) (expectedRegistryGeneration : Int) (s : TrustRegistry D) :
    Except Failure (D × TrustRegistry D) := do
  let scope ← scopeKey args.role args.providerId
  let authorityId ← text args.authorityId "authority_id"
  let keyId ← text args.keyId "key_id"
  let keyDigest ← requireKeyDigest args.keyDigest
  checkGeneration expectedRegistryGeneration s
  if (s.authorities.get? scope).isSome then
    throw (trustError "outbound trust scope is already registered")
  let state : AuthorityTrustState D :=
    ⟨authorityId, args.role, args.providerId, 1, 0, keyId, keyDigest, true⟩
  let log ← appendEvent H ⟨scope, .register, state, false⟩ s.log
  return (keyDigest, ⟨log, s.authorities.insert ⟨scope, state⟩⟩)

def register (args : TrustArgs D) (expectedRegistryGeneration : Int) (s : TrustRegistry D) :
    Mutation D (AuthorityCurrentnessReceipt D) :=
  mutate s (registerTxn H args expectedRegistryGeneration s) (assertNew H args)

def rotateTxn (args : TrustArgs D) (expectedRegistryGeneration expectedAuthorityGeneration : Int)
    (s : TrustRegistry D) : Except Failure (D × TrustRegistry D) := do
  let scope ← scopeKey args.role args.providerId
  let keyId ← text args.keyId "key_id"
  let keyDigest ← requireKeyDigest args.keyDigest
  let authorityId ← text args.authorityId "authority_id"
  checkGeneration expectedRegistryGeneration s
  match s.authorities.get? scope with
  | none => throw (trustError "outbound trust scope is not registered")
  | some row =>
    if row.state.authorityId ≠ authorityId then
      throw (trustError "authority_id mismatch for trust rotation")
    if (row.state.authorityGeneration : Int) ≠ expectedAuthorityGeneration then
      throw (trustError "stale authority generation")
    if row.state.enabled ≠ true then
      throw (trustError "revoked authority cannot rotate without re-registration")
    if row.state.keyId = keyId ∧ row.state.keyDigest = keyDigest then
      throw (trustError "rotation must change verifier key identity")
    let next := row.state.authorityGeneration + 1
    let updated : TrustAuthority D :=
      ⟨scope, { row.state with authorityGeneration := next, keyId, keyDigest }⟩
    let log ← appendEvent H ⟨scope, .rotate, ⟨authorityId, args.role, args.providerId, next,
      row.state.revocationEpoch, keyId, keyDigest, true⟩, false⟩ s.log
    return (keyDigest, ⟨log, s.authorities.update updated⟩)

def rotate (args : TrustArgs D) (expectedRegistryGeneration expectedAuthorityGeneration : Int)
    (s : TrustRegistry D) : Mutation D (AuthorityCurrentnessReceipt D) :=
  mutate s (rotateTxn H args expectedRegistryGeneration expectedAuthorityGeneration s) (assertNew H args)

def revokeTxn (authorityId role : String) (providerId : Option String)
    (expectedRegistryGeneration expectedRevocationEpoch : Int) (s : TrustRegistry D) :
    Except Failure (Nat × TrustRegistry D) := do
  let scope ← scopeKey role providerId
  let authorityId ← text authorityId "authority_id"
  checkGeneration expectedRegistryGeneration s
  match s.authorities.get? scope with
  | none => throw (trustError "outbound authority scope mismatch")
  | some row =>
    if row.state.authorityId ≠ authorityId then
      throw (trustError "outbound authority scope mismatch")
    if (row.state.revocationEpoch : Int) ≠ expectedRevocationEpoch then
      throw (trustError "stale revocation epoch")
    if row.state.enabled ≠ true then
      throw (trustError "authority is already revoked")
    let next := row.state.revocationEpoch + 1
    let updated : TrustAuthority D := ⟨scope, { row.state with revocationEpoch := next, enabled := false }⟩
    let log ← appendEvent H ⟨scope, .revoke, ⟨authorityId, role, providerId,
      row.state.authorityGeneration, next, row.state.keyId, row.state.keyDigest, false⟩, false⟩ s.log
    return (next, ⟨log, s.authorities.update updated⟩)

def revoke (authorityId role : String) (providerId : Option String)
    (expectedRegistryGeneration expectedRevocationEpoch : Int) (s : TrustRegistry D) : Mutation D Nat :=
  mutate s (revokeTxn H authorityId role providerId expectedRegistryGeneration expectedRevocationEpoch s)
    fun next _ => .ok next

/-- The transaction of `reactivate`; the event keeps the epoch as it was given. -/
def reactivateTxn (args : TrustArgs D) (expectedRegistryGeneration expectedAuthorityGeneration : Int)
    (expectedRevocationEpoch : ExpectedEpoch) (s : TrustRegistry D) : Except Failure (D × TrustRegistry D) := do
  let scope ← scopeKey args.role args.providerId
  let authorityId ← text args.authorityId "authority_id"
  let keyId ← text args.keyId "key_id"
  let keyDigest ← requireKeyDigest args.keyDigest
  checkGeneration expectedRegistryGeneration s
  match s.authorities.get? scope with
  | none => throw (trustError "outbound trust scope is not registered")
  | some row =>
    if row.state.enabled ≠ false then
      throw (trustError "only revoked authority may be reactivated")
    if (row.state.authorityGeneration : Int) ≠ expectedAuthorityGeneration then
      throw (trustError "stale authority generation")
    if (row.state.revocationEpoch : Int) ≠ expectedRevocationEpoch.value then
      throw (trustError "stale revocation epoch")
    let next := row.state.authorityGeneration + 1
    let updated : TrustAuthority D := ⟨scope, { row.state with
      authorityId, authorityGeneration := next, keyId, keyDigest, enabled := true }⟩
    let log ← appendEvent H ⟨scope, .reactivate, ⟨authorityId, args.role, args.providerId, next,
      row.state.revocationEpoch, keyId, keyDigest, true⟩, expectedRevocationEpoch.isFlag⟩ s.log
    return (keyDigest, ⟨log, s.authorities.update updated⟩)

def reactivate (args : TrustArgs D) (expectedRegistryGeneration expectedAuthorityGeneration : Int)
    (expectedRevocationEpoch : ExpectedEpoch) (s : TrustRegistry D) : Mutation D (AuthorityCurrentnessReceipt D) :=
  mutate s (reactivateTxn H args expectedRegistryGeneration expectedAuthorityGeneration
    expectedRevocationEpoch s) (assertNew H args)

/-! ## Runs -/

/-- The calls that mutate the registry. A call that cannot take the action lock in
time is `locked`. -/
inductive TrustCall (D : Type)
  | register (args : TrustArgs D) (expectedRegistryGeneration : Int)
  | rotate (args : TrustArgs D) (expectedRegistryGeneration expectedAuthorityGeneration : Int)
  | revoke (authorityId role : String) (providerId : Option String)
      (expectedRegistryGeneration expectedRevocationEpoch : Int)
  | reactivate (args : TrustArgs D) (expectedRegistryGeneration expectedAuthorityGeneration : Int)
      (expectedRevocationEpoch : ExpectedEpoch)
  | locked (path : String)

def TrustCall.scope : TrustCall D → Except Failure String
  | .register args _ => scopeKey args.role args.providerId
  | .rotate args _ _ => scopeKey args.role args.providerId
  | .revoke _ role providerId _ _ => scopeKey role providerId
  | .reactivate args _ _ _ => scopeKey args.role args.providerId
  | .locked path => .error ⟨.portableLockError, s!"failed to acquire portable lock: {path}"⟩

inductive TrustReply (D : Type)
  | receipt (receipt : AuthorityCurrentnessReceipt D)
  | epoch (next : Nat)

/-- The outcome of a call and the registry it leaves. -/
def call (s : TrustRegistry D) : TrustCall D → Mutation D (TrustReply D)
  | .register args generation => (register H args generation s).map (·.map .receipt) id
  | .rotate args generation authority => (rotate H args generation authority s).map (·.map .receipt) id
  | .revoke authorityId role providerId generation epoch =>
    (revoke H authorityId role providerId generation epoch s).map (·.map .epoch) id
  | .reactivate args generation authority epoch =>
    (reactivate H args generation authority epoch s).map (·.map .receipt) id
  | .locked path => (.error ⟨.portableLockError, s!"failed to acquire portable lock: {path}"⟩, s)

/-- An empty registry. -/
def new : TrustRegistry D := ⟨(trustChain H).empty, .empty⟩

/-- A registry after a list of calls. -/
def run (s : TrustRegistry D) (cs : List (TrustCall D)) : TrustRegistry D :=
  cs.foldl (fun s c => (call H s c).2) s

end OutboundTrustRegistry

end VeraMono

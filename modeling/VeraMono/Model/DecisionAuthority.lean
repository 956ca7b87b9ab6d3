import VeraMono.Model.BusCommands

/-!
# Decision authority

`HmacDecisionAuthority` of `verified_temporal.py`, the retry guard of `retry_guard.py`, and
the calls that one process makes on its bus, one after another. The authority keeps the
tokens it has accepted as long as the process lives.
-/

namespace VeraMono

/-! ## The authority -/

/-- The part of an envelope that its token authenticates. -/
structure AuthorityBody where
  schema : String
  issuerId : String
  actorWorkstream : String
  subject : String
  deriving DecidableEq

structure DecisionAuthorityEnvelope extends AuthorityBody where
  verificationToken : String
  deriving DecidableEq

def decisionAuthoritySchema : String := "VERA_DECISION_AUTHORITY_ENVELOPE_V1"

def DecisionAuthorityEnvelope.replayKey (envelope : DecisionAuthorityEnvelope) : String :=
  let issuerId := envelope.issuerId
  let token := envelope.verificationToken
  s!"{issuerId}:{token}"

/-- An authority: its id, and the HMAC of a body under its secret, as hex digits. -/
structure HmacDecisionAuthority where
  issuerId : String
  hmac : AuthorityBody → String

/-- `verify`, with the tokens that were used before. -/
def HmacDecisionAuthority.verify (A : HmacDecisionAuthority) (envelope : DecisionAuthorityEnvelope)
    (expectedActorWorkstream expectedSubject : String) (usedTokens : List String) : Bool × List String :=
  if envelope.schema ≠ decisionAuthoritySchema then (false, usedTokens)
  else if envelope.issuerId ≠ A.issuerId then (false, usedTokens)
  else if envelope.actorWorkstream ≠ expectedActorWorkstream then (false, usedTokens)
  else if envelope.subject ≠ expectedSubject then (false, usedTokens)
  else if A.hmac envelope.toAuthorityBody ≠ envelope.verificationToken then (false, usedTokens)
  else if envelope.replayKey ∈ usedTokens then (false, usedTokens)
  else (true, usedTokens ++ [envelope.replayKey])

/-! ## The retry guard -/

/-- `CoordinationRetryGuard`: the keys it has seen, the oldest first, and its last reading of
the clock. -/
structure CoordinationRetryGuard where
  windowMs : Nat
  seen : List (String × Int)
  lastNowMs : Option Int

namespace CoordinationRetryGuard

/-- `_validate_key` and `_validate_time`. -/
def validate (key : String) (nowMs : Int) : Except BusException Unit :=
  if key = "" then .error (busValueError "INVALID_RETRY_GUARD_KEY")
  else if nowMs < 0 then .error (busValueError "INVALID_RETRY_GUARD_TIME")
  else .ok ()

def accept (g : CoordinationRetryGuard) (key : String) (nowMs : Int) :
    Except BusException Bool × CoordinationRetryGuard :=
  match validate key nowMs with
  | .error e => (.error e, g)
  | .ok () =>
    if g.lastNowMs.any fun last => nowMs < last then
      (.error (busValueError "RETRY_GUARD_CLOCK_REGRESSION"), g)
    else
      let g := { g with lastNowMs := some nowMs }
      if (g.seen.lookup key).any fun previous => nowMs - previous ≤ g.windowMs then (.ok false, g)
      else
        let seen := g.seen.filter (fun e => e.1 ≠ key) ++ [(key, nowMs)]
        let cutoff := nowMs - g.windowMs
        (.ok true, { g with seen := seen.dropWhile fun e => e.2 < cutoff ∧ e.1 ≠ key })

def rollbackAccept (g : CoordinationRetryGuard) (key : String) (acceptedAtMs : Int) :
    Bool × CoordinationRetryGuard :=
  if g.seen.lookup key = some acceptedAtMs then
    (true, { g with seen := g.seen.filter fun e => e.1 ≠ key })
  else (false, g)

end CoordinationRetryGuard

/-! ## The calls of a process -/

structure ProcessRuntime (D : Type) where
  bus : BusRuntime D
  authority : HmacDecisionAuthority
  /-- The hash of `coordination_retry_key`, of the actor and the canonical draft. -/
  retryHash : String → CoordinationEventDraft → String

/-- A verification that the authority answered with `True`. -/
structure Verification where
  envelope : DecisionAuthorityEnvelope
  actorWorkstream : String
  subject : String

/-- The repository as the process uses it, the tokens that its authority has used, its retry
guard, and the verifications it has seen succeed. -/
structure BusProcess (D : Type) where
  bus : BusState D
  usedTokens : List String
  guard : CoordinationRetryGuard
  verifications : List Verification

/-- What a process asks of its bus. A post hands over the envelope it is given. -/
inductive ProcessRequest
  | command (command : BusCommand) (envelope : DecisionAuthorityEnvelope)
  | guardedPost (draft : CoordinationEventDraft) (nowMs : Int)
  | readInbox (args : ReadInboxArgs)

structure ProcessCall where
  host : BusHost
  actor : ActorContext
  request : ProcessRequest

variable {D : Type} [DecidableEq D] (R : ProcessRuntime D)

def coordinationRetryKey (actor : ActorContext) (draft : CoordinationEventDraft) : Bus D String := do
  actor.validate R.bus
  Bus.lift (draft.validate R.bus.py)
  if draft.sourceBranch ≠ actor.workstream then
    throw (busValueError "draft source_branch must equal actor workstream")
  let canonical ← Bus.lift draft.canonical
  if ¬ (R.bus.encodesObject canonical.payload ∧ R.bus.encodesObject canonical.referenceData) then
    throw (busValueError "surrogates not allowed")
  return R.retryHash actor.workstream canonical

inductive RetryGuardState
  | written | duplicateSuppressed | failed
  deriving DecidableEq

structure GuardedCoordinationPostResult where
  state : RetryGuardState
  idempotencyKey : String
  coordinationResult : Option TemporalCoordinationResult
  reservationRolledBack : Bool

def guardedCoordinationPost (host : BusHost) (actor : ActorContext) (draft : CoordinationEventDraft)
    (nowMs : Int) (g : CoordinationRetryGuard) (s : BusState D) :
    Except BusException GuardedCoordinationPostResult × CoordinationRetryGuard × BusState D :=
  match coordinationRetryKey R actor draft s with
  | (.error e, s) => (.error e, g, s)
  | (.ok key, s) =>
    match g.accept key nowMs with
    | (.error e, g) => (.error e, g, s)
    | (.ok false, g) => (.ok ⟨.duplicateSuppressed, key, none, false⟩, g, s)
    | (.ok true, g) =>
      match coordinationPost R.bus host actor draft .none s with
      | (.error e, s) => (.error e, (g.rollbackAccept key nowMs).2, s)
      | (.ok result, s) =>
        if result.receipt.base.databaseWriteConfirmed then (.ok ⟨.written, key, some result, false⟩, g, s)
        else
          let (rolledBack, g) := g.rollbackAccept key nowMs
          (.ok ⟨.failed, key, some result, rolledBack⟩, g, s)

/-- `coordination_post` with an envelope, up to the question it asks the authority: the
subject it asks about. -/
def decisionRequest (actor : ActorContext) (draft : CoordinationEventDraft) : Bus D String := do
  actor.validate R.bus
  Bus.lift (draft.validate R.bus.py)
  if draft.eventType ≠ "DECISION" then
    throw (busValueError "decision authority may be supplied only for DECISION")
  if draft.sourceBranch ≠ actor.workstream then
    throw (busPermissionError "source_branch must equal actor workstream")
  decisionSubject R.bus actor.workstream draft

def askedSubject (actor : ActorContext) (command : BusCommand) (s : BusState D) : Option String :=
  match command with
  | .post draft .envelope =>
    match (decisionRequest R actor draft s).1 with
    | .ok subject => some subject
    | .error _ => none
  | _ => none

namespace BusProcess

/-- A process before its first call. -/
def start (guard : CoordinationRetryGuard) (log : SQLiteCoordinationRepository D) : BusProcess D :=
  ⟨⟨log, [], 0, fun _ => 0, []⟩, [], guard, []⟩

/-- A command of the bus whose authority is that of the process. -/
def runCommand (P : BusProcess D) (host : BusHost) (actor : ActorContext) (command : BusCommand)
    (envelope : DecisionAuthorityEnvelope) : BusProcess D :=
  let verify (subject : String) := R.authority.verify envelope actor.workstream subject P.usedTokens
  let host := { host with decisionAuthorityVerifier := some fun subject => .ok (verify subject).1 }
  let bus := (command.run R.bus host actor P.bus).2
  match askedSubject R actor command P.bus with
  | none => { P with bus }
  | some subject =>
    let verifications :=
      if (verify subject).1 then P.verifications ++ [⟨envelope, actor.workstream, subject⟩]
      else P.verifications
    { P with bus, usedTokens := (verify subject).2, verifications }

def call (P : BusProcess D) (c : ProcessCall) : BusProcess D :=
  match c.request with
  | .command command envelope => P.runCommand R c.host c.actor command envelope
  | .guardedPost draft nowMs =>
    let (_, guard, bus) := guardedCoordinationPost R c.host c.actor draft nowMs P.guard P.bus
    { P with bus, guard }
  | .readInbox args => { P with bus := (coordinationReadInbox R.bus c.host c.actor args P.bus).2 }

/-- One call after another. -/
def run (P : BusProcess D) (calls : List ProcessCall) : BusProcess D := calls.foldl (call R) P

end BusProcess

end VeraMono

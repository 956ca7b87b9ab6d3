import VeraMono.Framework.Table
import VeraMono.Model.TaskExecution

/-!
# Resource leases

`resource_lease.py`: the in-process registry of leases on a hierarchy of resources. Every method
runs under the registry's lock, but it is not a transaction: a call that raises keeps what it has
reaped or deleted by then, so an operation gives its outcome together with the registry it leaves.
-/

namespace VeraMono

open Framework

/-! ## Claims -/

inductive ClaimMode
  | read | write
  deriving DecidableEq, Repr

def ClaimMode.value : ClaimMode → String
  | .read => "read"
  | .write => "write"

/-- `_parts`: the namespace before the first colon and the value after it. -/
def keyParts (key : String) : List Char × List Char :=
  (key.toList.takeWhile (· ≠ ':'), (key.toList.dropWhile (· ≠ ':')).drop 1)

def segments (value : List Char) : List (List Char) := value.splitOn '/'

/-- The checks of `ResourceClaim.__post_init__`. -/
def checkKey (key : String) : Except Failure Unit := do
  if ¬ nonblank key ∨ ':' ∉ key.toList then
    throw ⟨.valueError, "resource claim key must be a namespaced non-empty exact string"⟩
  let (namespaceName, value) := keyParts key
  if namespaceName = [] ∨ value = [] then
    throw ⟨.valueError, "resource claim key must contain non-empty namespace and value"⟩
  if key.toList ≠ strip key.toList ∨ namespaceName ≠ strip namespaceName ∨ value ≠ strip value ∨
      value.getLast? = some '/' ∨ ∃ segment ∈ segments value, segment ∈ [[], ['.'], ['.', '.']] then
    throw ⟨.valueError, "resource claim key must use a canonical logical hierarchy"⟩

structure ResourceClaim where
  key : String
  mode : ClaimMode
  canonical : checkKey key = .ok ()
  deriving DecidableEq

/-- `ResourceClaim(key, mode)`. -/
def ResourceClaim.make (key : String) (mode : ClaimMode) : Except Failure ResourceClaim :=
  match h : checkKey key with
  | .ok () => .ok ⟨key, mode, h⟩
  | .error e => .error e

/-- The order of the dataclass: by key, then by the text of the mode. -/
def ResourceClaim.le (a b : ResourceClaim) : Bool :=
  a.key < b.key || a.key = b.key && a.mode.value ≤ b.mode.value

def resourcesOverlap (left right : String) : Bool :=
  let l := keyParts left
  let r := keyParts right
  l.1 = r.1 && (l.2 = r.2 || (r.2 ++ ['/']).isPrefixOf l.2 || (l.2 ++ ['/']).isPrefixOf r.2)

def claimCovers (claim requested : ResourceClaim) : Bool :=
  if requested.mode = .write ∧ claim.mode ≠ .write then false
  else
    let c := keyParts claim.key
    let r := keyParts requested.key
    c.1 = r.1 && (r.2 = c.2 || (c.2 ++ ['/']).isPrefixOf r.2)

/-- Whether two claims collide. -/
def claimsConflict (a b : ResourceClaim) : Bool :=
  resourcesOverlap a.key b.key && (a.mode = .write || b.mode = .write)

def firstConflict (left right : List ResourceClaim) : Option String :=
  (left.flatMap fun a => right.map fun b => (a, b)).findSome? fun (a, b) =>
    if claimsConflict a b then some s!"{a.key}({a.mode.value}) vs {b.key}({b.mode.value})" else none

/-! ## The registry -/

structure ResourceLease where
  leaseId : String
  taskId : String
  capabilities : List String
  claims : List ResourceClaim
  fencingToken : Int
  expiresAtNs : Int
  deriving DecidableEq

/-- `inflight` counts the operations inside `hold` of each lease id, 0 for an id that
is not a key of the dictionary. -/
structure ResourceLeaseRegistry where
  capabilityCeiling : List String
  maxLeases : Nat
  customAllocator : Bool
  lastFence : Int
  leases : Table ResourceLease.leaseId
  inflight : String → Nat

namespace ResourceLeaseRegistry

/-- The outcome of a call and the registry it leaves. -/
abbrev Locked (α : Type) := Except Failure α × ResourceLeaseRegistry

/-- `__init__`. -/
def new (capabilityCeiling : List String) (maxLeases : Nat) (customAllocator : Bool) :
    ResourceLeaseRegistry :=
  ⟨capabilityCeiling, maxLeases, customAllocator, 0, .empty, fun _ => 0⟩

def requireText (value label : String) : Except Failure String :=
  if nonblank value then .ok value
  else .error ⟨.valueError, s!"{label} must be a non-empty exact string"⟩

def requirePositiveInt (value : Int) (label : String) : Except Failure Int :=
  if value < 1 then .error ⟨.valueError, s!"{label} must be a positive exact integer"⟩ else .ok value

def requireNonnegativeInt (value : Int) (label : String) : Except Failure Int :=
  if value < 0 then .error ⟨.valueError, s!"{label} must be a non-negative exact integer"⟩
  else .ok value

variable (r : ResourceLeaseRegistry)

def checked {α β : Type} (check : Except Failure α) (k : α → Locked β) : Locked β :=
  match check with
  | .ok a => k a
  | .error e => (.error e, r)

/-- What is reaped at a time: expired, with no operation in flight. -/
def reapable (now : Int) (lease : ResourceLease) : Bool :=
  lease.expiresAtNs ≤ now && r.inflight lease.leaseId = 0

def reapExpiredLocked (now : Int) : List ResourceLease × ResourceLeaseRegistry :=
  ((r.leases.rows.filter (r.reapable now)).insertionSort fun a b => a.leaseId ≤ b.leaseId,
    { r with leases := r.leases.filter fun lease => !r.reapable now lease })

def lookupFencedLocked (leaseId : String) (fencingToken : Int) : Except Failure ResourceLease := do
  let _ ← requireText leaseId "lease_id"
  if fencingToken < 1 then
    throw ⟨.staleResourceFence, "fencing_token must be a positive exact integer"⟩
  match r.leases.get? leaseId with
  | none => throw ⟨.resourceLeaseNotFound, leaseId⟩
  | some lease =>
    if lease.fencingToken ≠ fencingToken then
      throw ⟨.staleResourceFence, s!"expected fence {lease.fencingToken}, got {fencingToken}"⟩
    return lease

def requireLeaseLocked (leaseId : String) (fencingToken now : Int) : Locked ResourceLease :=
  r.checked (r.lookupFencedLocked leaseId fencingToken) fun lease =>
    if lease.expiresAtNs ≤ now then
      (.error ⟨.resourceLeaseExpired, leaseId⟩,
        if r.inflight leaseId = 0 then { r with leases := r.leases.erase leaseId } else r)
    else (.ok lease, r)

/-- The last part of `_authorize_locked`: what a lease that was found allows. -/
def permitted (lease : ResourceLease) (capability : String) (resource : Option (String × ClaimMode)) :
    Except Failure ResourceLease := do
  if capability ∉ lease.capabilities then
    throw ⟨.capabilityDenied, s!"lease lacks capability: {capability}"⟩
  match resource with
  | none => return lease
  | some (key, mode) =>
    let probe ← ResourceClaim.make key mode
    if ¬ lease.claims.any fun claim => claimCovers claim probe then
      throw ⟨.capabilityDenied, s!"lease lacks {mode.value} claim covering resource: {key}"⟩
    return lease

def authorizeLocked (leaseId : String) (fencingToken : Int) (capability : String)
    (resource : Option (String × ClaimMode)) (now : Int) : Locked ResourceLease :=
  match r.requireLeaseLocked leaseId fencingToken now with
  | (.error e, r') => (.error e, r')
  | (.ok lease, r') => (permitted lease capability resource, r')

/-- `_next_fence`, given what the custom allocator does. -/
def nextFence (allocated : Except Failure Int) : Except Failure Int := do
  let candidate ← if r.customAllocator then allocated else .ok (r.lastFence + 1)
  if candidate ≤ r.lastFence then
    throw ⟨.resourceLeaseError, "fence allocator must return a strictly increasing exact integer"⟩
  return candidate

structure OpenArgs where
  leaseId : String
  taskId : String
  capabilities : List String
  claims : List ResourceClaim
  ttlNs : Int
  nowNs : Int

/-- `claim_tuple`. -/
def OpenArgs.sortedClaims (args : OpenArgs) : List ResourceClaim :=
  args.claims.dedup.insertionSort fun a b => a.le b

def OpenArgs.lease (args : OpenArgs) (fencingToken : Int) : ResourceLease :=
  ⟨args.leaseId, args.taskId, args.capabilities, args.sortedClaims, fencingToken, args.nowNs + args.ttlNs⟩

/-- The checks of `open_lease` before it takes the lock. -/
def checkOpen (args : OpenArgs) : Except Failure Unit := do
  let _ ← requireText args.leaseId "lease_id"
  let _ ← requireText args.taskId "task_id"
  let _ ← requirePositiveInt args.ttlNs "ttl_ns"
  let _ ← requireNonnegativeInt args.nowNs "now_ns"
  if "" ∈ args.capabilities then
    throw ⟨.valueError, "capabilities must contain non-empty exact strings"⟩
  let extra := sortedSet (args.capabilities.filter (· ∉ r.capabilityCeiling))
  if extra ≠ [] then
    throw ⟨.capabilityDenied, "lease requested capabilities outside registry ceiling: " ++
      String.intercalate ", " extra⟩

/-- The checks of a registry that has been reaped. -/
def checkAdmit (args : OpenArgs) : Except Failure Unit := do
  if (r.leases.get? args.leaseId).isSome then
    throw ⟨.resourceCollision, s!"lease id already active: {args.leaseId}"⟩
  if r.leases.rows.length ≥ r.maxLeases then
    throw ⟨.resourceCollision, "max active resource leases reached"⟩
  match r.leases.rows.findSome? fun existing =>
      (firstConflict args.sortedClaims existing.claims).map fun conflict => (existing.leaseId, conflict) with
  | some (leaseId, conflict) =>
    throw ⟨.resourceCollision, s!"resource collision with lease {leaseId}: {conflict}"⟩
  | none => return

/-- `open_lease` up to the call of the allocator. -/
def beginOpen (args : OpenArgs) : Locked Unit :=
  r.checked (r.checkOpen args) fun _ =>
    let r' := (r.reapExpiredLocked args.nowNs).2
    r'.checked (r'.checkAdmit args) fun _ => (.ok (), r')

/-- The rest of `open_lease`, on the registry as the allocator leaves it. -/
def addLease (args : OpenArgs) (allocated : Except Failure Int) : Locked ResourceLease :=
  r.checked (r.nextFence allocated) fun token =>
    let lease := args.lease token
    (.ok lease, { r with leases := r.leases.upsert lease, lastFence := token })

/-- `open_lease` with an allocator that does not call the registry. -/
def openLease (args : OpenArgs) (allocated : Except Failure Int) : Locked ResourceLease :=
  match r.beginOpen args with
  | (.error e, r') => (.error e, r')
  | (.ok _, r') => r'.addLease args allocated

def renew (leaseId : String) (fencingToken ttlNs nowNs : Int) : Locked ResourceLease :=
  r.checked (requirePositiveInt ttlNs "ttl_ns") fun _ =>
  r.checked (requireNonnegativeInt nowNs "now_ns") fun _ =>
  match r.requireLeaseLocked leaseId fencingToken nowNs with
  | (.error e, r') => (.error e, r')
  | (.ok lease, r') =>
    let renewed := { lease with expiresAtNs := nowNs + ttlNs }
    (.ok renewed, { r' with leases := r'.leases.upsert renewed })

def close (leaseId : String) (fencingToken nowNs : Int) : Locked ResourceLease :=
  r.checked (requireNonnegativeInt nowNs "now_ns") fun _ =>
  r.checked (r.lookupFencedLocked leaseId fencingToken) fun lease =>
  if 0 < r.inflight leaseId then
    (.error ⟨.resourceLeaseBusy, s!"resource lease has in-flight operations: {leaseId}"⟩, r)
  else if lease.expiresAtNs ≤ nowNs then
    (.error ⟨.resourceLeaseExpired, leaseId⟩, { r with leases := r.leases.erase leaseId })
  else (.ok lease, { r with leases := r.leases.erase leaseId })

structure AuthorizeArgs where
  leaseId : String
  fencingToken : Int
  capability : String
  resourceKey : Option String
  resourceMode : Option ClaimMode
  nowNs : Int

def checkAuthorize (args : AuthorizeArgs) : Except Failure (Option (String × ClaimMode)) := do
  let _ ← requireText args.capability "capability"
  let _ ← requireNonnegativeInt args.nowNs "now_ns"
  match args.resourceKey, args.resourceMode with
  | some key, some mode => return some (key, mode)
  | none, none => return none
  | _, _ => throw ⟨.valueError, "resource_key and resource_mode must be supplied together"⟩

def authorize (args : AuthorizeArgs) : Locked ResourceLease :=
  r.checked (checkAuthorize args) fun resource =>
    r.authorizeLocked args.leaseId args.fencingToken args.capability resource args.nowNs

def enterHold (args : AuthorizeArgs) : Locked ResourceLease :=
  match r.authorize args with
  | (.error e, r') => (.error e, r')
  | (.ok lease, r') => (.ok lease, { r' with
      inflight := Function.update r'.inflight args.leaseId (r'.inflight args.leaseId + 1) })

def exitHold (leaseId : String) : ResourceLeaseRegistry :=
  { r with inflight := Function.update r.inflight leaseId (r.inflight leaseId - 1) }

def snapshot (nowNs : Int) : Locked (List ResourceLease) :=
  r.checked (requireNonnegativeInt nowNs "now_ns") fun _ =>
    let r' := (r.reapExpiredLocked nowNs).2
    (.ok (r'.leases.rows.insertionSort fun a b => a.leaseId ≤ b.leaseId), r')

def reapExpired (nowNs : Int) : Locked (List ResourceLease) :=
  r.checked (requireNonnegativeInt nowNs "now_ns") fun _ =>
    let (expired, r') := r.reapExpiredLocked nowNs
    (.ok expired, r')

end ResourceLeaseRegistry

open ResourceLeaseRegistry

/-! ## Runs -/

/-- An operation inside `hold`, with the arguments it entered with. -/
structure HeldOperation where
  args : AuthorizeArgs
  lease : ResourceLease

structure LeaseSystem where
  registry : ResourceLeaseRegistry
  holding : List HeldOperation

/-- What a caller can do. The operation that leaves `hold` is named by its place among
those inside. -/
inductive LeaseEvent
  | openLease (args : OpenArgs) (allocated : Except Failure Int)
  | renew (leaseId : String) (fencingToken ttlNs nowNs : Int)
  | close (leaseId : String) (fencingToken nowNs : Int)
  | authorize (args : AuthorizeArgs)
  | enterHold (args : AuthorizeArgs)
  | exitHold (place : Nat)
  | reapExpired (nowNs : Int)
  | snapshot (nowNs : Int)

namespace LeaseSystem

def exec (s : LeaseSystem) : LeaseEvent → LeaseSystem
  | .openLease args allocated => { s with registry := (s.registry.openLease args allocated).2 }
  | .renew leaseId token ttlNs nowNs => { s with registry := (s.registry.renew leaseId token ttlNs nowNs).2 }
  | .close leaseId token nowNs => { s with registry := (s.registry.close leaseId token nowNs).2 }
  | .authorize args => { s with registry := (s.registry.authorize args).2 }
  | .enterHold args =>
    match s.registry.enterHold args with
    | (.ok lease, r) => ⟨r, ⟨args, lease⟩ :: s.holding⟩
    | (.error _, r) => { s with registry := r }
  | .exitHold place =>
    match s.holding[place]? with
    | some op => ⟨s.registry.exitHold op.args.leaseId, s.holding.eraseIdx place⟩
    | none => s
  | .reapExpired nowNs => { s with registry := (s.registry.reapExpired nowNs).2 }
  | .snapshot nowNs => { s with registry := (s.registry.snapshot nowNs).2 }

/-- A registry after a list of operations. -/
def run (s : LeaseSystem) (es : List LeaseEvent) : LeaseSystem := es.foldl exec s

end LeaseSystem

/-! ## Allocators that call back -/

/-- A registry and the calls of `open_lease` that wait for their tokens, the last one first: the
lock is re-entrant, so that a custom allocator may call the registry itself. -/
structure ReentrantSystem where
  system : LeaseSystem
  opening : List OpenArgs

inductive ReentrantEvent
  | call (event : LeaseEvent)
  | enterOpen (args : OpenArgs)
  /-- The allocator that was called last returns or raises. -/
  | leaveOpen (allocated : Except Failure Int)

namespace ReentrantSystem

def exec (s : ReentrantSystem) : ReentrantEvent → ReentrantSystem
  | .call event => { s with system := s.system.exec event }
  | .enterOpen args =>
    if s.system.registry.customAllocator then
      match s.system.registry.beginOpen args with
      | (.error _, r) => { s with system := { s.system with registry := r } }
      | (.ok _, r) => ⟨{ s.system with registry := r }, args :: s.opening⟩
    else s
  | .leaveOpen allocated =>
    match s.opening with
    | [] => s
    | args :: opening =>
      ⟨{ s.system with registry := (s.system.registry.addLease args allocated).2 }, opening⟩

def run (s : ReentrantSystem) (es : List ReentrantEvent) : ReentrantSystem := es.foldl exec s

end ReentrantSystem

end VeraMono

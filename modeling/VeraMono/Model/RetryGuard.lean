import VeraMono.Model.DecisionAuthority

/-!
# Calls of the retry guard

What callers ask of a `CoordinationRetryGuard`. Each call holds the lock of the guard, so the calls
come one after another.
-/

namespace VeraMono.CoordinationRetryGuard

def new (windowMs : Nat) : CoordinationRetryGuard := ⟨windowMs, [], none⟩

inductive GuardCall
  | accept (idempotencyKey : String) (nowMs : Int)
  | rollbackAccept (idempotencyKey : String) (acceptedAtMs : Int)
  deriving DecidableEq

/-- The guard after a call, and what the call returned; nothing where it raised. A rollback looks
at its arguments as `accept` does. -/
def after (g : CoordinationRetryGuard) : GuardCall → CoordinationRetryGuard × Option Bool
  | .accept key nowMs => ((g.accept key nowMs).2, (g.accept key nowMs).1.toOption)
  | .rollbackAccept key acceptedAtMs =>
    match validate key acceptedAtMs with
    | .error _ => (g, none)
    | .ok () => ((g.rollbackAccept key acceptedAtMs).2, some (g.rollbackAccept key acceptedAtMs).1)

/-- A call and what it returned. -/
abbrev GuardEvent := GuardCall × Option Bool

/-- The guard after some calls, and the calls with what they returned. -/
def runGuard (windowMs : Nat) (calls : List GuardCall) : CoordinationRetryGuard × List GuardEvent :=
  calls.foldl (fun (g, events) call => ((g.after call).1, events ++ [(call, (g.after call).2)]))
    (new windowMs, [])

end VeraMono.CoordinationRetryGuard

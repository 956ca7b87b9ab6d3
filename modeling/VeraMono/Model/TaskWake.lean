import Mathlib.Algebra.Order.Floor.Semiring
import Mathlib.Data.Rat.Floor
import VeraMono.Framework.Table
import VeraMono.Model.Records

/-!
# The wake scheduler

`task_wake_scheduler.py` over exact times: the schedules with the next occurrence of
each, and the ledger of the wakes that were emitted. A tick is one transaction.
-/

namespace VeraMono

open Framework

/-! ## Times as text -/

/-- The nearest integer, ties to even. -/
def roundHalfEven (q : Rat) : Nat :=
  let n := q.floor.toNat
  if q - n < 1 / 2 then n else if 1 / 2 < q - n then n + 1 else if n % 2 = 0 then n else n + 1

def padSix (n : Nat) : String :=
  String.ofList (List.replicate (6 - (toString n).length) '0') ++ toString n

/-- Python's format `.6f`. -/
def fixedSix (q : Rat) : String :=
  let n := roundHalfEven (|q| * 1000000)
  (if q < 0 then "-" else "") ++ toString (n / 1000000) ++ "." ++ padSix (n % 1000000)

/-! ## The store -/

structure WakeSchedule where
  scheduleId : String
  taskId : String
  everySeconds : Rat
  nextAt : Rat
  enabled : Bool
  positive : 0 < everySeconds

/-- A row of `wakes`. -/
structure TaskWake where
  wakeId : String
  scheduleId : String
  taskId : String
  dueAt : Rat
  deriving DecidableEq

structure WakeStore where
  schedules : Table WakeSchedule.scheduleId
  wakes : Table TaskWake.wakeId

structure IntervalArgs where
  scheduleId : String
  taskId : String
  everySeconds : Rat
  firstAt : Rat
  deriving DecidableEq

namespace TaskWakeScheduler

def text (value field : String) : Except Failure String := requireText .valueError field value

def addInterval (args : IntervalArgs) (s : WakeStore) : Except Failure WakeStore := do
  let scheduleId ← text args.scheduleId "schedule_id"
  let taskId ← text args.taskId "task_id"
  if hpos : 0 < args.everySeconds then
    if (s.schedules.get? scheduleId).isSome then
      throw ⟨.valueError, s!"schedule_id is already bound: {scheduleId}"⟩
    return { s with
      schedules := s.schedules.insert
        ⟨scheduleId, taskId, args.everySeconds, args.firstAt, true, hpos⟩ }
  else throw ⟨.valueError, "every_seconds must be > 0"⟩

variable (py : Stdlib)

/-- The text whose digest is a wake id. -/
def wakeText (scheduleId taskId : String) (dueAt : Rat) : String :=
  s!"vera-task-wake-v1\x00{scheduleId}\x00{taskId}\x00{fixedSix dueAt}"

def wakeId (scheduleId taskId : String) (dueAt : Rat) : String :=
  py.bytesDigest (wakeText scheduleId taskId dueAt).toUTF8.toList

/-- The wakes a tick has emitted so far, and the ledger. -/
structure Emission where
  emitted : List TaskWake
  wakes : Table TaskWake.wakeId

def wakeOf (schedule : WakeSchedule) (dueAt : Rat) : TaskWake :=
  ⟨wakeId py schedule.scheduleId schedule.taskId dueAt, schedule.scheduleId, schedule.taskId, dueAt⟩

/-- `INSERT OR IGNORE` of a wake, which is emitted if its row is new. -/
def emit (wake : TaskWake) (e : Emission) : Emission :=
  if (e.wakes.get? wake.wakeId).isSome ∨
      ∃ other ∈ e.wakes.rows, other.scheduleId = wake.scheduleId ∧ other.dueAt = wake.dueAt then e
  else ⟨e.emitted ++ [wake], e.wakes.insert wake⟩

/-- How many occurrences from `nextAt` on are not later than `now`. -/
def dueCount (schedule : WakeSchedule) (now nextAt : Rat) : Nat :=
  if nextAt ≤ now then ((now - nextAt) / schedule.everySeconds).floor.toNat + 1 else 0

/-- The `while` loop of `tick`, for a number of rounds. -/
def drain (schedule : WakeSchedule) (now : Rat) (maxOccurrences : Int) :
    Nat → Rat → Emission → Rat × Emission
  | 0, nextAt, e => (nextAt, e)
  | n + 1, nextAt, e =>
    if nextAt ≤ now ∧ (e.emitted.length : Int) < maxOccurrences then
      drain schedule now maxOccurrences n (nextAt + schedule.everySeconds)
        (emit (wakeOf py schedule nextAt) e)
    else (nextAt, e)

/-- The loop of `tick` over the rows it selected. -/
def drainRows (now : Rat) (maxOccurrences : Int) :
    List WakeSchedule → Table WakeSchedule.scheduleId → Emission →
      Table WakeSchedule.scheduleId × Emission
  | [], schedules, e => (schedules, e)
  | row :: rows, schedules, e =>
    let (nextAt, e) := drain py row now maxOccurrences (dueCount row now row.nextAt) row.nextAt e
    let schedules := schedules.update { row with nextAt := nextAt }
    if maxOccurrences ≤ e.emitted.length then (schedules, e)
    else drainRows now maxOccurrences rows schedules e

/-- The `SELECT` of `tick`. -/
def dueRows (now : Rat) (s : WakeStore) : List WakeSchedule :=
  (s.schedules.rows.filter fun row => row.enabled && row.nextAt ≤ now).insertionSort fun a b =>
    a.nextAt < b.nextAt ∨ a.nextAt = b.nextAt ∧ a.scheduleId ≤ b.scheduleId

def tick (now : Rat) (maxOccurrences : Int) (s : WakeStore) :
    Except Failure (List TaskWake × WakeStore) :=
  if maxOccurrences < 1 then
    .error ⟨.valueError, "max_occurrences must be a positive integer"⟩
  else
    let (schedules, e) := drainRows py now maxOccurrences (dueRows now s) s.schedules ⟨[], s.wakes⟩
    .ok (e.emitted, ⟨schedules, e.wakes⟩)

/-! ## Runs -/

inductive WakeCall
  | addInterval (args : IntervalArgs)
  | tick (now : Rat) (maxOccurrences : Int)
  | restart

/-- The store, with what its callers have been told: the schedules that were registered,
the times of the ticks that returned, and the wakes they returned. -/
structure WakeSystem where
  store : WakeStore
  added : List IntervalArgs
  nows : List Rat
  emitted : List TaskWake

def WakeSystem.new : WakeSystem := ⟨⟨.empty, .empty⟩, [], [], []⟩

def exec (s : WakeSystem) : WakeCall → WakeSystem
  | .addInterval args =>
    match addInterval args s.store with
    | .error _ => s
    | .ok store => { s with store, added := s.added ++ [args] }
  | .tick now maxOccurrences =>
    match tick py now maxOccurrences s.store with
    | .error _ => s
    | .ok (wakes, store) =>
      { s with store, nows := s.nows ++ [now], emitted := s.emitted ++ wakes }
  | .restart => s

/-- A scheduler after a list of calls. -/
def run (s : WakeSystem) (cs : List WakeCall) : WakeSystem := cs.foldl (exec py) s

end TaskWakeScheduler

end VeraMono

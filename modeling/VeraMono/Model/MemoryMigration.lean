import VeraMono.Model.StoredMemory

/-!
# Opening a memory ledger

`MemoryLedger._init_db` on a database that has its tables: a database of an earlier version lacks the
column `supersedes_id`, which is added and then filled from the texts of the records. The connection
opens a transaction by itself before an `UPDATE` or an `INSERT`, and not before an `ALTER TABLE`:
the column is durable at once, and what is written after it when the block of the connection ends.
-/

namespace VeraMono

open Framework

inductive OpenFailure
  | raised (failure : Failure)
  /-- A value that `sqlite3` does not bind. -/
  | notBound
  deriving DecidableEq

/-- The file of a ledger: whether `records` has the column, its rows, which are `NULL` in a new
column, and the generation and head in `meta`. -/
structure MemoryFile where
  hasSupersedesId : Bool
  records : List StoredMemoryRow
  metaRows : Option (Nat × String)

namespace MemoryFile

variable (R : PyRuntime)

/-- A value as a parameter of a statement that sets a `TEXT` column. -/
def bindText : PyValue → Except OpenFailure (Option String)
  | .none => .ok none
  | .bool b => .ok (some (if b then "1" else "0"))
  | .int i => .ok (some (toString i))
  | .str (.valid s) => .ok (some s)
  | _ => .error .notBound

def supersedesOf (payload : List (PyValue × PyValue)) : PyValue := (dictGet? "supersedes" payload).getD .none

/-- What `_strict_record_payload` says of a row. -/
def payloadOf (row : StoredMemoryRow) : Except Failure (List (PyValue × PyValue)) :=
  StoredMemory.strictRecordPayload R row.payloadJson row.recordId row.recordDigest

/-- A round of the loop that fills the column. -/
def fillRow (row : StoredMemoryRow) : Except OpenFailure StoredMemoryRow := do
  let payload ← (payloadOf R row).mapError .raised
  let supersedesId ← bindText (supersedesOf payload)
  return { row with supersedesId }

def fill : List StoredMemoryRow → Except OpenFailure (List StoredMemoryRow)
  | [] => .ok []
  | row :: rows => do
    let row ← fillRow R row
    let rows ← fill rows
    return row :: rows

/-- `ALTER TABLE records ADD COLUMN supersedes_id TEXT`. -/
def addColumn (f : MemoryFile) : MemoryFile :=
  { f with hasSupersedesId := true, records := f.records.map fun row => { row with supersedesId := none } }

def ensureMeta (f : MemoryFile) : MemoryFile :=
  { f with metaRows := f.metaRows.or (some (0, R.sha256Text "vera-memory-genesis-v1")) }

/-- What `_init_db` does where the column is missing. -/
def migrate : Prog Empty MemoryFile OpenFailure Unit := do
  .txn fun f => .ok ((), f.addColumn)
  let rows ← .read MemoryFile.records
  .txn fun f => (fill R rows).map fun records => ((), { f with records }.ensureMeta R)

def initDb : Prog Empty MemoryFile OpenFailure Unit := do
  let hasSupersedesId ← .read MemoryFile.hasSupersedesId
  if hasSupersedesId then .txn fun f => .ok ((), f.ensureMeta R) else migrate R

def columnAdded : Nat := 2

/-- An open that has come as far as this is committed. -/
def committed : Nat := 4

/-- The file after opens that were interrupted after some of their steps, or not at all. -/
def afterOpens (f : MemoryFile) (opens : List Nat) : MemoryFile :=
  opens.foldl (fun f steps => (initDb R).stopAt steps f) f

end MemoryFile

end VeraMono

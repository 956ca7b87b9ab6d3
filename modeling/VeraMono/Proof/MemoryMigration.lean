import VeraMono.Model.MemoryMigration
import VeraMono.Proof.StoredMemory

/-!
# Interrupted migrations

The column is durable before it is filled, and whether it is filled is decided by whether it is
there. So the first open that adds the column is the only one that fills it: if that open is
interrupted, or finds a corrupt record, the column stays empty and every later open succeeds.
`legacy_migration` says when that is, over all interrupted opens; `blankFile_opens` is the second
open of a corrupt file.
-/

namespace VeraMono

open Framework

namespace MemoryFile

variable {R : PyRuntime} {f g : MemoryFile} {row row' : StoredMemoryRow} {rows rows' : List StoredMemoryRow}
  {n : Nat} {opens : List Nat}

/-- A record that `_strict_record_payload` does not accept. -/
def Corrupt (R : PyRuntime) (f : MemoryFile) : Prop := ∃ row ∈ f.records, ∃ e, payloadOf R row = .error e

/-- The column of a row is what its text says. -/
def Agrees (R : PyRuntime) (row : StoredMemoryRow) : Prop :=
  ∃ payload, payloadOf R row = .ok payload ∧ supersedesOf payload = pyOptional row.supersedesId

/-- A record that supersedes none, or one with an id: all that `admit` writes. -/
def Textual (R : PyRuntime) (row : StoredMemoryRow) : Prop :=
  ∃ payload supersedes, payloadOf R row = .ok payload ∧ supersedesOf payload = pyOptional supersedes

def SupersedesNone (R : PyRuntime) (row : StoredMemoryRow) : Prop :=
  ∃ payload, payloadOf R row = .ok payload ∧ supersedesOf payload = .none

/-- An open after others, each of which was interrupted or not: it does not return where a record
is corrupt, and leaves the column filled where none is. -/
structure Migrates (R : PyRuntime) (f : MemoryFile) (opens : List Nat) : Prop where
  blocked : Corrupt R f → ∃ e, ((initDb R).run (afterOpens R f opens)).1 = .error e
  filled : ¬ Corrupt R f → ((initDb R).run (afterOpens R f opens)).1 = .ok () →
    ∀ row ∈ ((initDb R).run (afterOpens R f opens)).2.records, Agrees R row

/-- No open before has added the column, or the first that did has filled it, or there was nothing
to fill. -/
def Harmless (R : PyRuntime) (f : MemoryFile) (opens : List Nat) : Prop :=
  ((∀ n ∈ opens, n < columnAdded) ∧
    ((∃ row ∈ f.records, ∃ e, fillRow R row = .error e) ∨ ∀ row ∈ f.records, Textual R row)) ∨
  ∃ n, opens.find? (columnAdded ≤ ·) = some n ∧
    ((committed ≤ n ∧ ∀ row ∈ f.records, Textual R row) ∨ ∀ row ∈ f.records, SupersedesNone R row)

/-! ## Filling the column -/

theorem bindText_pyOptional (supersedes : Option String) : bindText (pyOptional supersedes) = .ok supersedes := by
  cases supersedes <;> rfl

/-- A row as a new column leaves it. -/
abbrev cleared (row : StoredMemoryRow) : StoredMemoryRow := { row with supersedesId := none }

theorem SupersedesNone.textual (h : SupersedesNone R row) : Textual R row := by
  obtain ⟨payload, hp, hs⟩ := h
  exact ⟨payload, none, hp, hs⟩

theorem fill_cleared : fill R (rows.map cleared) = fill R rows := by
  induction rows with
  | nil => rfl
  | cons row rows ih =>
    rw [List.map_cons, fill, fill, ih]
    rfl

theorem fillRow_error {e : Failure} (h : payloadOf R row = .error e) : fillRow R row = .error (.raised e) := by
  rw [fillRow, h]
  rfl

theorem Textual.fillRow (h : Textual R row) : ∃ row', MemoryFile.fillRow R row = .ok row' := by
  obtain ⟨payload, supersedes, hp, hs⟩ := h
  refine ⟨{ row with supersedesId := supersedes }, ?_⟩
  rw [MemoryFile.fillRow, hp, Except.mapError, ok_bind, hs, bindText_pyOptional, ok_bind]
  rfl

theorem agrees_of_fillRow (h : fillRow R row = .ok row') : Agrees R row' ↔ Textual R row := by
  cases hp : payloadOf R row with
  | error e =>
    rw [fillRow_error hp] at h
    cases h
  | ok payload =>
    rw [fillRow, hp, Except.mapError, ok_bind] at h
    obtain ⟨supersedesId, hb, h⟩ := bind_eq_ok.1 h
    cases h
    have hp' : payloadOf R { row with supersedesId } = .ok payload := hp
    constructor
    · rintro ⟨payload', hq, hs⟩
      exact ⟨payload', supersedesId, hq, hs⟩
    · rintro ⟨payload', supersedes, hq, hs⟩
      cases hp.symm.trans hq
      rw [hs, bindText_pyOptional] at hb
      cases hb
      exact ⟨payload, hp', hs⟩

theorem fill_error_iff : (∃ e, fill R rows = .error e) ↔ ∃ row ∈ rows, ∃ e, fillRow R row = .error e := by
  induction rows with
  | nil => simp [fill]
  | cons row rows ih =>
    rw [fill]
    cases hrow : fillRow R row with
    | error e => exact ⟨fun _ => ⟨row, List.mem_cons_self, e, hrow⟩, fun _ => ⟨e, rfl⟩⟩
    | ok row' =>
      have hfill : (∃ e, (do
          let row ← Except.ok row'
          let rows ← fill R rows
          return row :: rows : Except OpenFailure _) = .error e) ↔ ∃ e, fill R rows = .error e := by
        cases fill R rows with
        | error e => exact Iff.rfl
        | ok rows' => constructor <;> rintro ⟨e, he⟩ <;> cases he
      rw [hfill, ih]
      constructor
      · rintro ⟨r, hr, he⟩
        exact ⟨r, List.mem_cons_of_mem _ hr, he⟩
      · rintro ⟨r, hr, e, he⟩
        rcases List.mem_cons.1 hr with rfl | hr
        · rw [hrow] at he
          cases he
        · exact ⟨r, hr, e, he⟩

theorem agrees_of_fill (h : fill R rows = .ok rows') :
    (∀ row ∈ rows', Agrees R row) ↔ ∀ row ∈ rows, Textual R row := by
  induction rows generalizing rows' with
  | nil =>
    cases h
    simp
  | cons row rows ih =>
    rw [fill] at h
    obtain ⟨row₁, hrow, h⟩ := bind_eq_ok.1 h
    obtain ⟨rows₁, hrows, h⟩ := bind_eq_ok.1 h
    cases h
    rw [List.forall_mem_cons, List.forall_mem_cons, agrees_of_fillRow hrow, ih hrows]

theorem not_corrupt_of_textual (h : ∀ row ∈ f.records, Textual R row) : ¬ Corrupt R f := by
  rintro ⟨row, hrow, e, he⟩
  obtain ⟨payload, supersedes, hp, -⟩ := h row hrow
  rw [hp] at he
  cases he

theorem Corrupt.fill (h : Corrupt R f) : ∃ e, MemoryFile.fill R f.records = .error e := by
  obtain ⟨row, hrow, e, he⟩ := h
  exact fill_error_iff.2 ⟨row, hrow, .raised e, fillRow_error he⟩

/-! ## One open -/

theorem stopAt_initDb : (initDb R).stopAt (n + 1) f =
    (if f.hasSupersedesId then Prog.txn fun f => .ok ((), f.ensureMeta R) else migrate R).stopAt n f := rfl

theorem run_initDb : (initDb R).run f =
    (if f.hasSupersedesId then Prog.txn fun f => .ok ((), f.ensureMeta R) else migrate R).run f := rfl

theorem run_added (h : f.hasSupersedesId = true) : (initDb R).run f = (.ok (), f.ensureMeta R) := by
  rw [run_initDb, if_pos h, Prog.run_txn]

theorem stopAt_added (h : f.hasSupersedesId = true) :
    ((initDb R).stopAt n f).hasSupersedesId = true ∧ ((initDb R).stopAt n f).records = f.records := by
  match n with
  | 0 => exact ⟨h, rfl⟩
  | 1 =>
    rw [stopAt_initDb, if_pos h]
    exact ⟨h, rfl⟩
  | n + 2 =>
    rw [stopAt_initDb, if_pos h]
    exact ⟨h, rfl⟩

/-- The last step of an open that has added the column. -/
abbrev filled (R : PyRuntime) (f : MemoryFile) : Except OpenFailure (Unit × MemoryFile) :=
  (fill R f.records).map fun records => ((), { f.addColumn with records }.ensureMeta R)

theorem stopAt_ofExcept {L σ ε α : Type} {r : Except ε α} {s : σ} :
    (Prog.ofExcept r : Prog L σ ε α).stopAt n s = s := by
  cases r <;> cases n <;> rfl

theorem run_legacy (h : f.hasSupersedesId = false) :
    (initDb R).run f = ((filled R f).map Prod.fst, Prog.committed (filled R f) f.addColumn) := by
  have hfill : fill R f.addColumn.records = fill R f.records := fill_cleared
  rw [run_initDb, if_neg (by simp [h])]
  change (Prog.ofExcept (((fill R f.addColumn.records).map _).map Prod.fst) : Prog Empty _ _ _).run
    (Prog.committed ((fill R f.addColumn.records).map _) f.addColumn) = _
  rw [hfill, Prog.run_ofExcept]
  rfl

theorem stopAt_early (h : f.hasSupersedesId = false) (hn : n < columnAdded) : (initDb R).stopAt n f = f := by
  match n with
  | 0 => rfl
  | 1 =>
    rw [stopAt_initDb, if_neg (by simp [h])]
    rfl
  | n + 2 => exact absurd hn (Nat.not_lt.2 (Nat.le_add_left 2 n))

theorem stopAt_between (h : f.hasSupersedesId = false) (hn : columnAdded ≤ n) (hn' : n < committed) :
    (initDb R).stopAt n f = f.addColumn := by
  match n with
  | 0 | 1 => exact absurd hn (by decide)
  | 2 | 3 =>
    rw [stopAt_initDb, if_neg (by simp [h])]
    rfl
  | n + 4 => exact absurd hn' (Nat.not_lt.2 (Nat.le_add_left 4 n))

theorem stopAt_late (h : f.hasSupersedesId = false) (hn : committed ≤ n) :
    (initDb R).stopAt n f = Prog.committed (filled R f) f.addColumn := by
  match n with
  | 0 | 1 | 2 | 3 => exact absurd hn (by decide)
  | n + 4 =>
    have hfill : fill R f.addColumn.records = fill R f.records := fill_cleared
    rw [stopAt_initDb, if_neg (by simp [h])]
    change (Prog.ofExcept (((fill R f.addColumn.records).map _).map Prod.fst) : Prog Empty _ _ _).stopAt n
      (Prog.committed ((fill R f.addColumn.records).map _) f.addColumn) = _
    rw [hfill]
    exact stopAt_ofExcept

/-! ## Opens one after another -/

theorem afterOpens_cons : afterOpens R f (n :: opens) = afterOpens R ((initDb R).stopAt n f) opens := rfl

theorem afterOpens_added (h : f.hasSupersedesId = true) :
    (afterOpens R f opens).hasSupersedesId = true ∧ (afterOpens R f opens).records = f.records := by
  induction opens generalizing f with
  | nil => exact ⟨h, rfl⟩
  | cons n opens ih =>
    obtain ⟨hcol, hrec⟩ := stopAt_added (R := R) (n := n) h
    rw [afterOpens_cons, ← hrec]
    exact ih hcol

theorem afterOpens_early (h : f.hasSupersedesId = false) (hn : ∀ n ∈ opens, n < columnAdded) :
    afterOpens R f opens = f := by
  induction opens with
  | nil => rfl
  | cons n opens ih =>
    rw [afterOpens_cons, stopAt_early h (hn n List.mem_cons_self)]
    exact ih fun m hm => hn m (List.mem_cons_of_mem _ hm)

theorem run_late (h : f.hasSupersedesId = false) (hn : opens.find? (columnAdded ≤ ·) = some n)
    (hcol : ((initDb R).stopAt n f).hasSupersedesId = true) :
    ((initDb R).run (afterOpens R f opens)).1 = .ok () ∧
      ((initDb R).run (afterOpens R f opens)).2.records = ((initDb R).stopAt n f).records := by
  induction opens with
  | nil => cases hn
  | cons m opens ih =>
    rw [afterOpens_cons]
    by_cases hm : columnAdded ≤ m
    · rw [List.find?_cons_of_pos (by simpa using hm)] at hn
      cases hn
      obtain ⟨hcol', hrec⟩ := afterOpens_added hcol
      rw [run_added hcol']
      exact ⟨rfl, hrec⟩
    · rw [List.find?_cons_of_neg (by simpa using hm)] at hn
      rw [stopAt_early h (Nat.lt_of_not_le hm)]
      exact ih hn

theorem committed_ok (h : fill R f.records = .ok rows) :
    Prog.committed (filled R f) f.addColumn = { f.addColumn with records := rows }.ensureMeta R := by
  rw [filled, h]
  rfl

theorem committed_error {e : OpenFailure} (h : fill R f.records = .error e) :
    Prog.committed (filled R f) f.addColumn = f.addColumn := by
  rw [filled, h]
  rfl

/-! ## The migration -/

theorem migrates_early (h : f.hasSupersedesId = false) (hn : ∀ n ∈ opens, n < columnAdded) :
    Migrates R f opens ↔
      (∃ row ∈ f.records, ∃ e, fillRow R row = .error e) ∨ ∀ row ∈ f.records, Textual R row := by
  have hrun : (initDb R).run (afterOpens R f opens) =
      ((filled R f).map Prod.fst, Prog.committed (filled R f) f.addColumn) := by
    rw [afterOpens_early h hn, run_legacy h]
  cases hfill : fill R f.records with
  | error e =>
    have herror : ((filled R f).map Prod.fst) = .error e := by rw [filled, hfill]; rfl
    refine iff_of_true ⟨fun _ => ⟨e, ?_⟩, fun _ hok => ?_⟩ (.inl (fill_error_iff.1 ⟨e, hfill⟩))
    · rw [hrun, herror]
    · rw [hrun, herror] at hok
      cases hok
  | ok rows =>
    have hrows : ((initDb R).run (afterOpens R f opens)).2.records = rows := by
      rw [hrun, committed_ok hfill]
      rfl
    have hc : ¬ Corrupt R f := by
      intro hc
      obtain ⟨e, he⟩ := hc.fill
      rw [hfill] at he
      cases he
    have herr : ¬ ∃ row ∈ f.records, ∃ e, fillRow R row = .error e := by
      rw [← fill_error_iff, hfill]
      rintro ⟨e, he⟩
      cases he
    rw [or_iff_right herr, ← agrees_of_fill hfill, ← hrows]
    constructor
    · intro hm
      refine hm.filled hc ?_
      rw [hrun, filled, hfill]
      rfl
    · exact fun hall => ⟨fun hc' => absurd hc' hc, fun _ _ => hall⟩

theorem migrates_late (h : f.hasSupersedesId = false) (hn : opens.find? (columnAdded ≤ ·) = some n)
    (hcol : ((initDb R).stopAt n f).hasSupersedesId = true) :
    Migrates R f opens ↔ ¬ Corrupt R f ∧ ∀ row ∈ ((initDb R).stopAt n f).records, Agrees R row := by
  obtain ⟨hok, hrec⟩ := run_late h hn hcol
  rw [← hrec]
  constructor
  · intro hm
    have hc : ¬ Corrupt R f := by
      intro hc
      obtain ⟨e, he⟩ := hm.blocked hc
      rw [hok] at he
      cases he
    exact ⟨hc, hm.filled hc hok⟩
  · rintro ⟨hc, hall⟩
    exact ⟨fun hc' => absurd hc' hc, fun _ _ => hall⟩

theorem agrees_addColumn :
    (∀ row ∈ f.addColumn.records, Agrees R row) ↔ ∀ row ∈ f.records, SupersedesNone R row :=
  List.forall_mem_map

theorem stopAt_agrees (h : f.hasSupersedesId = false) (hn : columnAdded ≤ n) :
    ((initDb R).stopAt n f).hasSupersedesId = true ∧
      ((¬ Corrupt R f ∧ ∀ row ∈ ((initDb R).stopAt n f).records, Agrees R row) ↔
        (committed ≤ n ∧ ∀ row ∈ f.records, Textual R row) ∨ ∀ row ∈ f.records, SupersedesNone R row) := by
  have hnone : (∀ row ∈ f.records, SupersedesNone R row) → ∀ row ∈ f.records, Textual R row :=
    fun hall row hrow => (hall row hrow).textual
  by_cases hn' : committed ≤ n
  · rw [stopAt_late h hn', or_iff_left_of_imp fun hall => ⟨hn', hnone hall⟩, and_iff_right hn']
    cases hfill : fill R f.records with
    | error e =>
      rw [committed_error hfill]
      have hnot : ¬ ∀ row ∈ f.records, Textual R row := by
        intro hall
        obtain ⟨row, hrow, e', he⟩ := fill_error_iff.1 ⟨e, hfill⟩
        obtain ⟨row', hrow'⟩ := (hall row hrow).fillRow
        rw [hrow'] at he
        cases he
      refine ⟨rfl, iff_of_false ?_ hnot⟩
      rintro ⟨-, hall⟩
      exact hnot (hnone (agrees_addColumn.1 hall))
    | ok rows =>
      rw [committed_ok hfill]
      refine ⟨rfl, ?_⟩
      change (_ ∧ ∀ row ∈ rows, _) ↔ _
      rw [agrees_of_fill hfill]
      exact and_iff_right_of_imp not_corrupt_of_textual
  · rw [stopAt_between h hn (Nat.lt_of_not_le hn'), agrees_addColumn]
    refine ⟨rfl, ?_⟩
    rw [or_iff_right fun hall => hn' hall.1]
    exact and_iff_right_of_imp fun hall => not_corrupt_of_textual (hnone hall)

/-- For every file without the column and all opens before, interrupted or not: the migration is
all or nothing exactly where the first open that adds the column also commits what it fills, or
finds nothing to fill. -/
theorem legacy_migration (h : f.hasSupersedesId = false) : Migrates R f opens ↔ Harmless R f opens := by
  cases hfind : opens.find? (columnAdded ≤ ·) with
  | none =>
    have hearly : ∀ n ∈ opens, n < columnAdded := by
      intro n hn
      have := List.find?_eq_none.1 hfind n hn
      simpa using this
    rw [migrates_early h hearly, Harmless, hfind, and_iff_right hearly]
    simp
  | some n =>
    have hn : columnAdded ≤ n := by
      have := List.find?_some hfind
      simpa using this
    obtain ⟨hcol, hiff⟩ := stopAt_agrees (R := R) h hn
    have hlate : ¬ ∀ n ∈ opens, n < columnAdded :=
      fun hall => Nat.not_lt.2 hn (hall n (List.mem_of_find?_eq_some hfind))
    rw [migrates_late h hfind hcol, hiff, Harmless, hfind]
    simp only [hlate, false_and, false_or, Option.some.injEq, exists_eq_left']

/-- A file of an earlier version with one record, the text of which is empty. -/
def blankFile : MemoryFile where
  hasSupersedesId := false
  records := [
    { recordId := "a"
      payloadJson := ""
      status := .current
      supersededBy := none
      recordDigest := ""
      supersedesId := none }]
  metaRows := some (1, "h")

/-- The open that is the first to add the column is blocked. -/
theorem blankFile_migrates : Migrates plainRuntime blankFile [] :=
  (legacy_migration rfl).2 (.inl ⟨by simp, .inl ⟨_, List.mem_cons_self, _, rfl⟩⟩)

/-- The next one is not. -/
theorem blankFile_opens :
    ((initDb plainRuntime).run blankFile).1 = .error (.raised (memoryError "corrupt stored memory JSON")) ∧
      ((initDb plainRuntime).run (afterOpens plainRuntime blankFile [committed])).1 = .ok () ∧
      Corrupt plainRuntime blankFile ∧ ¬ Migrates plainRuntime blankFile [committed] := by
  have hc : Corrupt plainRuntime blankFile := ⟨_, List.mem_cons_self, _, rfl⟩
  have hok : ((initDb plainRuntime).run (afterOpens plainRuntime blankFile [committed])).1 = .ok () := rfl
  refine ⟨rfl, hok, hc, fun hm => ?_⟩
  obtain ⟨e, he⟩ := hm.blocked hc
  rw [hok] at he
  cases he

end MemoryFile

end VeraMono

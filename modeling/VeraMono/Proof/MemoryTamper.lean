import VeraMono.Proof.MemoryAdmission

/-!
# Edits of stored memory

Rows of `records` whose columns that are not hashed have been edited, and whose texts may have
been. The digest keeps the text of a record and so what it supersedes; but `read` finds the
successor of a record by the column, and a successor whose column was cleared is not found.
`lineage_tamper` says exactly which edits revive a record (`Revives.reads`), and `cleared_revives`
is one.
-/

namespace VeraMono

open Framework

namespace StoredMemory

variable {R : PyRuntime} {request : AdmissionRequest} {m m' : StoredMemory} {x : String}
  {row row' : StoredMemoryRow} {admitted : List AdmissionRequest} {expectedHead : Option String}
  {payload : List (PyValue × PyValue)} {record : MemoryRecord}

/-- The rows keep their ids and digests; nothing but rows is edited. -/
structure Edited (m m' : StoredMemory) : Prop where
  rows : List.Forall₂ (fun row row' : StoredMemoryRow =>
    row'.recordId = row.recordId ∧ row'.recordDigest = row.recordDigest) m.records.rows m'.records.rows
  rest : m' = { m with records := m'.records }

/-- A record was superseded; no row names it any more, and its own row says that it is current. -/
structure Revives (x : String) (m m' : StoredMemory) : Prop where
  superseded : ∃ s ∈ m.records.rows, s.supersedesId = some x
  unnamed : ∀ r ∈ m'.records.rows, r.supersedesId ≠ some x
  row : ∃ row, m.records.get? x = some row ∧
    m'.records.get? x = some { row with status := .current, supersededBy := none }

/-! ## What `read` has checked -/

theorem strictRecordPayload_ok {raw recordId digest : String}
    (h : strictRecordPayload R raw recordId digest = .ok payload) :
    canonicalJson R.py (.dict payload) = .ok raw ∧ R.sha256Text raw = digest := by
  unfold strictRecordPayload at h
  split at h
  · cases h
  · cases h
  · rw [ite_error_ok] at h
    obtain ⟨-, h⟩ := h
    split at h
    · cases h
    · rename_i normalized hn
      rw [ite_error_ok, not_or, not_not, not_not] at h
      obtain ⟨⟨rfl, hd⟩, h⟩ := h
      cases h
      exact ⟨hn, hd⟩
  · cases h

theorem read_ok : read R x expectedHead m = .ok record ↔
    (∀ head, expectedHead = some head → head = m.head) ∧
      ∃ row payload successorId, m.records.get? x = some row ∧
        strictRecordPayload R row.payloadJson x row.recordDigest = .ok payload ∧
        ((dictGet? "supersedes" payload).getD .none).isOptional row.supersedesId = true ∧
        successorOf R x m.records = .ok successorId ∧ columnsAgree row successorId = true ∧
        toRecord payload row = .ok record := by
  have hstale : ¬ (expectedHead.any fun head => decide (head ≠ m.head)) = true ↔
      ∀ head, expectedHead = some head → head = m.head := by
    cases expectedHead <;> simp
  simp only [read, ite_error_ok, ↓throw_bind, hstale]
  refine and_congr_right fun _ => ?_
  cases m.records.get? x with
  | none => simp
  | some row =>
    simp only [bind_eq_ok, ite_error_ok, Option.some.injEq]
    constructor
    · rintro ⟨payload, hp, hl, successorId, hs, hc, hr⟩
      exact ⟨row, payload, successorId, rfl, hp, by simpa using hl, hs, by simpa using hc, hr⟩
    · rintro ⟨_, payload, successorId, rfl, hp, hl, hs, hc, hr⟩
      exact ⟨payload, hp, by simpa using hl, successorId, hs, by simpa using hc, hr⟩

theorem isOptional_pyOptional {a b : Option String} : (pyOptional a).isOptional b = true ↔ b = a := by
  cases a <;> cases b <;> simp [pyOptional, pyStr, PyValue.isOptional, PyValue.isText, eq_comm]

theorem text_kept (hR : R.DigestsApart) (h : Stores R request row)
    (hd : row'.recordDigest = row.recordDigest) {recordId : String}
    (hp : strictRecordPayload R row'.payloadJson recordId row'.recordDigest = .ok payload) :
    row'.payloadJson = row.payloadJson := by
  obtain ⟨digest, htext⟩ := h.text
  obtain ⟨htext', hdigest⟩ := strictRecordPayload_ok hp
  rw [hd, h.digest] at hdigest
  have hbytes {v : PyValue} {s : String} (hs : canonicalJson R.py v = .ok s) :
      canonicalJsonBytes R.py v = .ok s.toByteArray := by
    rw [canonicalJsonBytes, hs]
    rfl
  exact String.toByteArray_inj.1 (hR (hbytes htext') (hbytes htext) hdigest)

theorem payload_kept (hR : R.DigestsApart) (h : Stores R request row)
    (hid : row'.recordId = row.recordId) (hd : row'.recordDigest = row.recordDigest)
    (hp : strictRecordPayload R row'.payloadJson row'.recordId row'.recordDigest = .ok payload) :
    row'.payloadJson = row.payloadJson ∧ ∃ digest, payload = parsed request digest := by
  have htext := text_kept hR h hd hp
  obtain ⟨digest, hstored⟩ := strictRecordPayload_stored h
  rw [htext, hid, hd, hstored] at hp
  exact ⟨htext, digest, (Except.ok.inj hp).symm⟩

theorem Edited.get? (h : Edited m m') (hrow' : m'.records.get? x = some row') :
    ∃ row, m.records.get? x = some row ∧ row'.recordId = row.recordId ∧
      row'.recordDigest = row.recordDigest := by
  obtain ⟨row, hrow, hid, hd⟩ := forall₂_mem_right h.rows (Table.mem_of_get? hrow')
  refine ⟨row, ?_, hid, hd⟩
  rw [← Table.get?_key hrow', hid]
  exact Table.get?_of_mem hrow

/-! ## The successor that is found -/

theorem Inv.stores (hi : Inv R m admitted) (hrow : row ∈ m.records.rows) :
    ∃ request, Stores R request row := by
  obtain ⟨request, -, h⟩ := forall₂_mem_right hi.stored hrow
  exact ⟨request, h⟩

/-- After the edit no row names the record, or the successor that is found was admitted. -/
theorem Edited.successor (hR : R.DigestsApart) (hi : Inv R m admitted) (h : Edited m m')
    {successorId : Option PyValue} (hs : successorOf R x m'.records = .ok successorId) :
    (successorId = none ∧ ∀ r ∈ m'.records.rows, r.supersedesId ≠ some x) ∨
      ∃ s ∈ m.records.rows, s.supersedesId = some x ∧ successorId = some (pyStr s.recordId) ∧
        s.recordId ≠ "" := by
  unfold successorOf at hs
  split at hs
  · rename_i hfilter
    refine .inl ⟨(Except.ok.inj hs).symm, fun r hr hname => ?_⟩
    exact absurd (List.filter_eq_nil_iff.1 hfilter r hr) (by simpa using hname)
  · rename_i s' hfilter
    have hmem : s' ∈ m'.records.rows :=
      (List.mem_filter.1 (hfilter ▸ List.mem_singleton_self s')).1
    obtain ⟨s, hsmem, hid, hd⟩ := forall₂_mem_right h.rows hmem
    obtain ⟨request, hstores⟩ := hi.stores hsmem
    simp only [bind_eq_ok, ite_error_ok, ↓throw_bind, pure_ok] at hs
    obtain ⟨payload, hp, hrelation, hsucc⟩ := hs
    obtain ⟨-, digest, hparsed⟩ := payload_kept hR hstores hid hd hp
    rw [hparsed, parsed_supersedes, Option.getD_some] at hrelation
    rw [hparsed, parsed_id] at hsucc
    refine .inr ⟨s, hsmem, ?_, by rw [hsucc, hstores.recordId], ?_⟩
    · rw [hstores.supersedes]
      revert hrelation
      cases request.supersedes <;> simp [pyOptional, pyStr, PyValue.isText]
    · rw [hstores.recordId]
      exact recordId_ne_empty hstores.valid
  · cases hs

theorem Inv.superseded (hi : Inv R m admitted) (hrow : row ∈ m.records.rows) {s : StoredMemoryRow}
    (hs : s ∈ m.records.rows) (hsup : s.supersedesId = some row.recordId) :
    row.supersededBy = some s.recordId ∧ row.status = .superseded := by
  have hby : row.supersededBy = some s.recordId := by
    rw [hi.supersededBy row hrow, hi.lineage.successor_iff]
    exact supersedes_of_row hs hsup
  refine ⟨hby, ?_⟩
  cases hst : row.status with
  | superseded => rfl
  | current =>
    rw [(hi.status row hrow).1 hst] at hby
    cases hby

theorem Inv.current (hi : Inv R m admitted) (hrow : row ∈ m.records.rows)
    (h : ¬ ∃ s ∈ m.records.rows, s.supersedesId = some row.recordId) :
    row.supersededBy = none ∧ row.status = .current := by
  have hby : row.supersededBy = none := by
    rw [hi.supersededBy row hrow, Lineage.successor_eq_none]
    intro k hk
    obtain ⟨s, hs, hlink⟩ := List.mem_map.1 hk
    exact h ⟨s, hs, (Link.mk.inj hlink).2⟩
  exact ⟨hby, (hi.status row hrow).2 hby⟩

/-! ## Reads of an edited ledger -/

/-- A row that reads after the edit is as it was, unless its record was revived. -/
theorem Edited.row_kept (hR : R.DigestsApart) (hi : Inv R m admitted) (h : Edited m m')
    (hrow : m.records.get? x = some row) (hrow' : m'.records.get? x = some row')
    (hid : row'.recordId = row.recordId) (hd : row'.recordDigest = row.recordDigest)
    (htext : row'.payloadJson = row.payloadJson) (hsup : row'.supersedesId = row.supersedesId)
    {successorId : Option PyValue} (hs : successorOf R x m'.records = .ok successorId)
    (hc : StoredMemory.columnsAgree row' successorId = true) (hn : ¬ Revives x m m') : row' = row := by
  have hmem := Table.mem_of_get? hrow
  have hkey : row.recordId = x := Table.get?_key hrow
  have hcolumns (hby : row'.supersededBy = row.supersededBy) (hst : row'.status = row.status) :
      row' = row := by
    obtain ⟨id, text, status, by', digest, supersedes⟩ := row'
    obtain ⟨id, text, status, by', digest, supersedes⟩ := row
    simp only [StoredMemoryRow.mk.injEq]
    exact ⟨hid, htext, hst, hby, hd, hsup⟩
  rcases h.successor hR hi hs with ⟨rfl, hunnamed⟩ | ⟨s, hsmem, hsx, rfl, hne⟩
  · simp only [StoredMemory.columnsAgree, decide_eq_true_eq] at hc
    by_cases hex : ∃ s ∈ m.records.rows, s.supersedesId = some x
    · refine absurd ⟨hex, hunnamed, row, hrow, ?_⟩ hn
      rw [hrow']
      obtain ⟨id, text, status, by', digest, supersedes⟩ := row'
      obtain ⟨id, text, status, by', digest, supersedes⟩ := row
      simp only [Option.some.injEq, StoredMemoryRow.mk.injEq]
      exact ⟨hid, htext, hc.2, hc.1, hd, hsup⟩
    · obtain ⟨hby, hst⟩ := hi.current hmem (hkey.symm ▸ hex)
      exact hcolumns (hc.1.trans hby.symm) (hc.2.trans hst.symm)
  · obtain ⟨hby, hst⟩ := hi.superseded hmem hsmem (hkey.symm ▸ hsx)
    have hempty : (pyStr s.recordId).isText "" = false := by simp [pyStr, PyValue.isText, hne]
    simp only [StoredMemory.columnsAgree, hempty, decide_eq_true_eq] at hc
    refine hcolumns ?_ ?_
    · rw [hby]
      have hany := hc.1
      cases hb : row'.supersededBy with
      | none =>
        rw [hb] at hany
        cases hany
      | some k =>
        rw [hb] at hany
        simp only [Option.any_some, pyStr, PyValue.isText, decide_eq_true_eq, Text.valid.injEq] at hany
        rw [hany]
    · rw [hst]
      exact hc.2

theorem Edited.read_kept (hR : R.DigestsApart) (hi : Inv R m admitted) (h : Edited m m')
    (hread : read R x expectedHead m' = .ok record) (hn : ¬ Revives x m m') :
    read R x expectedHead m = .ok record := by
  obtain ⟨hhead, row', payload, successorId, hrow', hp, hl, hs, hc, hr⟩ := read_ok.1 hread
  obtain ⟨row, hrow, hid, hd⟩ := h.get? hrow'
  have hmem := Table.mem_of_get? hrow
  have hkey' : row'.recordId = x := Table.get?_key hrow'
  obtain ⟨request, hstores⟩ := hi.stores hmem
  obtain ⟨htext, digest, hparsed⟩ := payload_kept hR hstores hid hd (hkey'.symm ▸ hp)
  have hsup : row'.supersedesId = row.supersedesId := by
    rw [hparsed, parsed_supersedes, Option.getD_some, isOptional_pyOptional] at hl
    exact hl.trans hstores.supersedes.symm
  have hsame : row' = row := h.row_kept hR hi hrow hrow' hid hd htext hsup hs hc hn
  obtain ⟨successorId₀, hs₀, hc₀⟩ := hi.columnsAgree hmem
  rw [Table.get?_key hrow] at hs₀
  have hheads : m'.head = m.head := by rw [h.rest]
  rw [hsame] at hp hl hr
  exact read_ok.2 ⟨fun head heq => (hhead head heq).trans hheads, row, payload, successorId₀, hrow, hp, hl,
    hs₀, hc₀, hr⟩

/-- A record that was revived reads as current, which it was not. -/
theorem Revives.reads (hi : Inv R m admitted) (h : Edited m m')
    (hhead : ∀ head, expectedHead = some head → head = m.head) (hv : Revives x m m') :
    ∃ record, read R x expectedHead m' = .ok record ∧ read R x expectedHead m ≠ .ok record := by
  obtain ⟨row, hrow, hrow'⟩ := hv.row
  obtain ⟨s, hs, hsx⟩ := hv.superseded
  have hmem := Table.mem_of_get? hrow
  have hkey : row.recordId = x := Table.get?_key hrow
  obtain ⟨request, hstores⟩ := hi.stores hmem
  obtain ⟨digest, hp⟩ := strictRecordPayload_stored hstores
  rw [hkey] at hp
  have hsuper := (hi.superseded hmem hs (hkey.symm ▸ hsx)).2
  have hheads : m'.head = m.head := by rw [h.rest]
  obtain ⟨record, hr, -, hstatus, -⟩ := @toRecord_parsed request digest
    { row with status := .current, supersededBy := none }
  have hfilter : (m'.records.rows.filter fun r => r.supersedesId = some x) = [] :=
    List.filter_eq_nil_iff.2 fun r hr => by simpa using hv.unnamed r hr
  refine ⟨record, read_ok.2 ⟨fun head heq => (hhead head heq).trans hheads.symm, _, _, none, hrow', hp,
    ?_, ?_, rfl, hr⟩, fun hread => ?_⟩
  · rw [parsed_supersedes, Option.getD_some, isOptional_pyOptional]
    exact hstores.supersedes
  · rw [successorOf, hfilter]
  · obtain ⟨-, row₀, payload, _, hrow₀, hp₀, -, -, -, hr₀⟩ := read_ok.1 hread
    rw [hrow, Option.some.injEq] at hrow₀
    rw [← hrow₀, hp, Except.ok.injEq] at hp₀
    obtain ⟨record₀, hr₁, -, hstatus₀, -⟩ := @toRecord_parsed request digest row
    rw [← hrow₀, ← hp₀, hr₁, Except.ok.injEq] at hr₀
    rw [← hr₀, hstatus₀, hsuper] at hstatus
    cases hstatus

theorem inv_run (R : PyRuntime) (calls : List LedgerAdmission) :
    ∃ admitted, Inv R (runCalls (admitTo R) (new R) calls) admitted := by
  refine runCalls_invariant (P := fun m => ∃ admitted, Inv R m admitted) ⟨[], .new⟩ ?_
  rintro m a receipt m' ⟨admitted, hi⟩ ha
  rcases admit_ok ha with ⟨-, hadds⟩ | ⟨-, rfl⟩
  · exact ⟨_, hi.adds hadds⟩
  · exact ⟨_, hi⟩

/-- Whatever was admitted and whatever rows were edited: a read of a record raises or returns what it
returned before the edit, unless the head that is expected is the head and the record is revived. -/
theorem lineage_tamper (hR : R.DigestsApart) (calls : List LedgerAdmission) :
    let m := runCalls (admitTo R) (new R) calls
    ∀ m', Edited m m' → ∀ x expectedHead,
      (∀ record, read R x expectedHead m' = .ok record → read R x expectedHead m = .ok record) ↔
        ¬ ((∀ head, expectedHead = some head → head = m.head) ∧ Revives x m m') := by
  intro m m' h x expectedHead
  obtain ⟨admitted, hi⟩ := inv_run R calls
  constructor
  · rintro hall ⟨hhead, hv⟩
    obtain ⟨record, hread, hne⟩ := hv.reads hi h hhead
    exact hne (hall record hread)
  · intro hn record hread
    have hheads : m'.head = m.head := by rw [h.rest]
    refine h.read_kept hR hi hread fun hv => hn ⟨fun head heq => ?_, hv⟩
    exact ((read_ok.1 hread).1 head heq).trans hheads

/-- Edits after a record was superseded. -/
theorem lineage_tamper_plain :
    let m := runCalls (admitTo plainRuntime) (new plainRuntime) plainSuccession
    ∀ m', Edited m m' → ∀ x expectedHead,
      (∀ record, read plainRuntime x expectedHead m' = .ok record →
        read plainRuntime x expectedHead m = .ok record) ↔
        ¬ ((∀ head, expectedHead = some head → head = m.head) ∧ Revives x m m') :=
  lineage_tamper plainRuntime_digestsApart plainSuccession

/-- An edit that says of every row that it is current and supersedes nothing. -/
def clearRows (t : StoredRecords) : StoredRecords where
  rows := t.rows.map fun row => { row with status := .current, supersededBy := none, supersedesId := none }
  nodup := by
    rw [List.map_map]
    exact t.nodup

theorem edited_clear (m : StoredMemory) : Edited m { m with records := clearRows m.records } where
  rows := List.forall₂_map_right_iff.2 (List.forall₂_same.2 fun _ _ => ⟨rfl, rfl⟩)
  rest := rfl

theorem clearRows_get? {t : StoredRecords} (hrow : row ∈ t.rows) (hid : row.recordId = x)
    (hsup : row.supersedesId = none) :
    (clearRows t).get? x = some { row with status := .current, supersededBy := none } := by
  have hmem : { row with status := .current, supersededBy := none } ∈ (clearRows t).rows := by
    refine List.mem_map.2 ⟨row, hrow, ?_⟩
    rw [hsup]
  rw [← hid]
  exact Table.get?_of_mem hmem

/-- A record is admitted, and another that supersedes it; then the columns are cleared. -/
theorem cleared_revives : ¬ ∀ (calls : List LedgerAdmission) (m' : StoredMemory) (x : String)
    (record : MemoryRecord), Edited (runCalls (admitTo plainRuntime) (new plainRuntime) calls) m' →
    read plainRuntime x none m' = .ok record →
    read plainRuntime x none (runCalls (admitTo plainRuntime) (new plainRuntime) calls) = .ok record := by
  intro h
  obtain ⟨receipt, m, hm⟩ := plain_first
  obtain ⟨receipt', m₁, hm₁⟩ := plain_second hm (.inr rfl)
  obtain ⟨⟨row, hrows, -, -, hstores⟩, -, -, hop⟩ := plain_ledger hm
  have hrun : runCalls (admitTo plainRuntime) (new plainRuntime)
      [plainAdmission "a" none (new plainRuntime).head, plainAdmission "b" (some "a") m.head] = m₁ := by
    have hfirst : commit (admitTo plainRuntime) (new plainRuntime)
        (plainAdmission "a" none (new plainRuntime).head) = m := commit_ok hm
    rw [runCalls, List.foldl_cons, List.foldl_cons, hfirst, commit_ok hm₁, List.foldl_nil]
  obtain ⟨-, -, ⟨_, hop', -⟩ | ⟨-, hnew⟩⟩ := admitTo_ok hm₁
  · exact absurd (hop.symm.trans hop') (by simp)
  obtain ⟨next, hnext, -, -, hrows₁⟩ := (admitNew_ok rfl hnew).rows
  rw [hrows, List.map_singleton, List.singleton_append] at hrows₁
  have hid : (mark (plainAdmission "b" (some "a") m.head).request row).recordId = "a" :=
    mark_recordId.trans hstores.recordId
  have hmark : mark (plainAdmission "b" (some "a") m.head).request row ∈ m₁.records.rows := by
    rw [hrows₁]
    exact List.mem_cons_self
  have hsup : (mark (plainAdmission "b" (some "a") m.head).request row).supersedesId = none :=
    mark_supersedesId.trans hstores.supersedes
  have hv : Revives "a" m₁ { m₁ with records := clearRows m₁.records } := by
    refine ⟨⟨next, ?_, hnext.supersedes⟩, fun r hr => ?_, _, hid ▸ Table.get?_of_mem hmark, ?_⟩
    · rw [hrows₁]
      simp
    · obtain ⟨_, -, rfl⟩ := List.mem_map.1 hr
      simp
    · exact clearRows_get? hmark hid hsup
  obtain ⟨admitted, hi⟩ := inv_run plainRuntime
    [plainAdmission "a" none (new plainRuntime).head, plainAdmission "b" (some "a") m.head]
  rw [hrun] at hi
  have hreads : ∃ record, read plainRuntime "a" none { m₁ with records := clearRows m₁.records } = .ok record ∧
      read plainRuntime "a" none m₁ ≠ .ok record :=
    hv.reads hi (edited_clear m₁) fun head heq => (by cases heq)
  obtain ⟨record, hread, hne⟩ := hreads
  exact hne (hrun ▸ h _ _ "a" record (hrun ▸ edited_clear m₁) hread)

end StoredMemory

end VeraMono

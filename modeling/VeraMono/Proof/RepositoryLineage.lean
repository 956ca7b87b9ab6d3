import VeraMono.Proof.Verification

/-!
# The lineage of the coordination repository

`append` checks the references of a draft against the rows it finds, and
`verify_integrity` derives the same rules again from the rows alone. Whatever writers
append, and however their transactions fall, the rows are the ones both agree on.
-/

namespace VeraMono

open Framework

namespace SQLiteCoordinationRepository

variable {D : Type} {K : BusHashing D} {py : Stdlib} {log log' : SQLiteCoordinationRepository D}
  {draft : CoordinationEventDraft} {t : ClockText} {event : CoordinationEvent}

/-- A reference of an event names an earlier event of its thread. -/
def RefersBack (log : SQLiteCoordinationRepository D) (e : Entry CoordinationEvent D)
    (reference : Option String) : Prop :=
  ∀ eventId, reference = some eventId → ∃ o ∈ log.entries, o.body.eventId = eventId ∧
    o.sequence < e.sequence ∧ o.body.threadKey = e.body.threadKey

/-- What holds of the events among themselves. -/
structure InLineage (log : SQLiteCoordinationRepository D) : Prop where
  gapless : log.entries.map Entry.sequence = List.range' 1 log.sequence
  acknowledged : ∀ e ∈ log.entries, RefersBack log e e.body.acknowledgesEventId
  superseded : ∀ e ∈ log.entries, RefersBack log e e.body.supersedesEventId
  once : ∀ e ∈ log.entries, ∀ e' ∈ log.entries, e.body.supersedesEventId.isSome →
    e.body.supersedesEventId = e'.body.supersedesEventId → e = e'

theorem InLineage.empty : InLineage (repositoryChain K).empty where
  gapless := rfl
  acknowledged _ he := absurd he List.not_mem_nil
  superseded _ he := absurd he List.not_mem_nil
  once _ he := absurd he List.not_mem_nil

abbrev row (K : BusHashing D) (log : SQLiteCoordinationRepository D) (event : CoordinationEvent) :
    Entry CoordinationEvent D :=
  (repositoryChain K).next log event

theorem entries_extend : ((repositoryChain K).extend log event).entries = log.entries ++ [row K log event] :=
  rfl

theorem refersBack_row {reference : Option String} (hl : (repositoryChain K).WellFormed log)
    (h : ∀ eventId, reference = some eventId → ∃ o ∈ log.entries, o.body.eventId = eventId ∧
      o.body.threadKey = event.threadKey) :
    RefersBack ((repositoryChain K).extend log event) (row K log event) reference := by
  intro eventId hid
  obtain ⟨o, ho, hoid, hthread⟩ := h eventId hid
  have hle : o.sequence ≤ log.sequence := (hl.linked.mem ho).2.2
  exact ⟨o, entries_extend ▸ List.mem_append_left _ ho, hoid, Nat.lt_succ_of_le hle, hthread⟩

theorem RefersBack.extend {e : Entry CoordinationEvent D} {reference : Option String}
    (h : RefersBack log e reference) : RefersBack ((repositoryChain K).extend log event) e reference := by
  intro eventId hid
  obtain ⟨o, ho, hrest⟩ := h eventId hid
  exact ⟨o, entries_extend ▸ List.mem_append_left _ ho, hrest⟩

theorem InLineage.append [DecidableEq D] (h : InLineage log) (hl : (repositoryChain K).WellFormed log)
    (ha : SQLiteCoordinationRepository.append K py draft t log = .ok (event, log')) : InLineage log' := by
  obtain ⟨c, -, hack, hsup, hc, hevent, -, hsucc, rfl⟩ := append_ok ha
  obtain ⟨-, -, hcd⟩ := CoordinationEventDraft.canonical_ok hc
  have hdraft : event.toCoordinationEventDraft = c := by rw [hevent]
  have hthread : event.threadKey = draft.threadKey := by rw [hdraft, hcd]
  have hack' : event.acknowledgesEventId = draft.acknowledgesEventId := by rw [hdraft, hcd]
  have hsup' : event.supersedesEventId = draft.supersedesEventId := by rw [hdraft, hcd]
  have hcases {e : Entry CoordinationEvent D} (he : e ∈ ((repositoryChain K).extend log event).entries) :
      e ∈ log.entries ∨ e = row K log event := by
    rwa [entries_extend, List.mem_append, List.mem_singleton] at he
  constructor
  · have hnext : List.range' 1 (log.sequence + 1) = List.range' 1 log.sequence ++ [log.sequence + 1] := by
      rw [List.range'_concat, Nat.one_mul, Nat.add_comm 1]
    rw [entries_extend, List.map_append, h.gapless]
    exact hnext.symm
  · intro e he
    rcases hcases he with he | rfl
    · exact (h.acknowledged e he).extend
    · exact refersBack_row hl (by rw [hthread]; exact fun i hi => acknowledged_ok hack i (hack' ▸ hi))
  · intro e he
    rcases hcases he with he | rfl
    · exact (h.superseded e he).extend
    · exact refersBack_row hl (by rw [hthread]; exact fun i hi => superseded_ok hsup i (hsup' ▸ hi))
  · intro e he e' he' hsome heq
    rcases hcases he with he | rfl <;> rcases hcases he' with he' | rfl
    · exact h.once e he e' he' hsome heq
    · exact absurd heq (hsucc (heq ▸ hsome) e he)
    · exact absurd heq.symm (hsucc hsome e' he')
    · rfl

/-- In every state that appends by any number of writers lead to, `verify_integrity` passes
and the events are in lineage; a write is one append or leaves the store alone, and a call
that raised changed nothing. -/
theorem repository_lineage [DecidableEq D] (K : BusHashing D) (py : Stdlib)
    (es : List (Event (LedgerCall (CoordinationEventDraft × ClockText)))) :
    let P := (Pool.init (repositoryChain K).empty).run (repositoryProgram K py) es
    (verifyIntegrity K py).run P.store = (.ok P.store.head, P.store) ∧ InLineage P.store ∧
      (∀ st ∈ P.trace, st.move.after = st.move.before ∨ ∃ draft t event,
        st.call = .write (draft, t) ∧
          SQLiteCoordinationRepository.append K py draft t st.move.before = .ok (event, st.move.after)) ∧
      ∀ i call e, P.thread i = some ⟨call, some (.raise e)⟩ →
        ∀ st ∈ P.trace, st.thread = i → st.move.after = st.move.before := by
  intro P
  have hfollows : Follows (repositoryProgram K py) (repositoryChain K).empty P := Pool.follows _ _ es
  have hstep (call : LedgerCall (CoordinationEventDraft × ClockText)) (moves : List (Move Empty _))
      (s s' : SQLiteCoordinationRepository D)
      (hs : ((repositoryProgram K py call).after moves).Steps s s') :
      s' = s ∨ ∃ draft t event, call = .write (draft, t) ∧
        SQLiteCoordinationRepository.append K py draft t s = .ok (event, s') := by
    cases call with
    | verify => exact .inl ((Prog.All.after (Prog.All.map verifyIntegrity_readOnly _)).steps hs)
    | write a =>
      rw [repositoryProgram, ledgerProgram, Prog.after_map, Prog.steps_map] at hs
      obtain ⟨-, hafter⟩ := Prog.steps_txn.1 hs
      cases ha : SQLiteCoordinationRepository.append K py a.1 a.2 s with
      | error e => exact .inl (by rwa [ha, Prog.committed] at hafter)
      | ok r => exact .inr ⟨a.1, a.2, r.1, rfl, by rw [ha, hafter, ha, Prog.committed]⟩
  have hinv : Verifiable K py P.store ∧ InLineage P.store := by
    refine hfollows.traced.invariant (P := fun log => Verifiable K py log ∧ InLineage log)
      ⟨.empty, .empty⟩ fun call moves s s' hs hi => ?_
    rcases hstep call moves s s' hs with rfl | ⟨draft, t, event, -, ha⟩
    · exact hi
    · exact ⟨hi.1.append ha, hi.2.append hi.1.chain ha⟩
  refine ⟨hinv.1.verifyIntegrity, hinv.2, fun st hst => ?_, fun i call e hi st hst hth => ?_⟩
  · obtain ⟨later, earlier, htr⟩ := List.append_of_mem hst
    exact hstep _ _ _ _ (htr ▸ hfollows.traced).split.2.2
  · have hlast : (repositoryProgram K py call).CommitsLast := by
      cases call with
      | verify =>
        exact .map (.bind (Prog.ReadOnly.read _) fun _ => .bind (Prog.ReadOnly.read _) fun _ => .ofExcept _) _
      | write a => exact .map (.txn _) _
    exact hfollows.raised hlast hi hst hth

end SQLiteCoordinationRepository

end VeraMono

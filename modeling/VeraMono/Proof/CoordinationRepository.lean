import VeraMono.Model.CoordinationRepository
import VeraMono.Proof.Digestible

/-!
# A repository that only `append` wrote verifies

`Verifiable` is what `verify_integrity` checks, stated for the log with its counters:
the chain is unbroken, and the checks of the verifier pass over its events. What `append`
tests before it inserts an event is what the verifier asks of that event later, so every
append keeps it.
-/

namespace VeraMono

open Framework

/-! ## `canonicalize` -/

theorem sortKeys_sortKeys {α : Type} (kvs : List (Text × α)) :
    sortKeys (sortKeys kvs) = sortKeys kvs := by
  let le (a b : Text × α) : Prop := a.1.codePoints ≤ b.1.codePoints
  have : Std.Total le := ⟨fun a b => le_total a.1.codePoints b.1.codePoints⟩
  have : IsTrans (Text × α) le := ⟨fun _ _ _ => le_trans⟩
  have hsorted : (sortKeys kvs).Pairwise le :=
    List.pairwise_insertionSort (fun a b => a.1.codePoints ≤ b.1.codePoints) kvs
  exact List.Pairwise.insertionSort_eq hsorted

theorem sequence_map_ok {ε α : Type} (as : List α) :
    sequence (as.map (.ok : α → Except ε α)) = .ok as := by
  induction as with
  | nil => rfl
  | cons a as ih => simp only [List.map_cons, sequence, ih]

theorem canonicalizeItems_eq (items : List PyValue) :
    canonicalizeItems items = items.map canonicalize := by
  induction items with
  | nil => rfl
  | cons v vs ih => rw [canonicalizeItems, ih, List.map_cons]

theorem canonicalizeEntries_eq (entries : List (PyValue × PyValue)) :
    canonicalizeEntries entries = entries.map fun e => (e.1, canonicalize e.2) := by
  induction entries with
  | nil => rfl
  | cons e rest ih => rw [canonicalizeEntries, ih, List.map_cons]

theorem stringKeys_eq {α : Type} {entries : List (PyValue × α)} {kvs : List (Text × α)}
    (h : stringKeys entries = some kvs) :
    entries = kvs.map fun kv => (PyValue.str kv.1, kv.2) := by
  obtain ⟨kvs', rfl⟩ := exists_stringKeys (stringKeys_some h)
  rw [stringKeys_map] at h
  rw [Option.some.inj h]

theorem canonical_list {ws : List PyValue} (h : ∀ w ∈ ws, canonicalize w = .ok w) :
    canonicalize (.list ws) = .ok (.list ws) := by
  have hws : canonicalizeItems ws = ws.map .ok := by
    rw [canonicalizeItems_eq]
    exact List.map_congr_left h
  rw [canonicalize, hws, sequence_map_ok]
  rfl

theorem canonical_dict {kvs : List (Text × Except Failure PyValue)} {es : List (PyValue × PyValue)}
    (hes : es.map .ok = (sortKeys kvs).map normalizedEntry)
    (h : ∀ e ∈ es, canonicalize e.2 = .ok e.2) : canonicalize (.dict es) = .ok (.dict es) := by
  have hentries : canonicalizeEntries es = (sortKeys kvs).map fun kv => (PyValue.str kv.1, kv.2) := by
    rw [canonicalizeEntries_eq]
    generalize sortKeys kvs = sorted at hes
    induction sorted generalizing es with
    | nil => simpa using hes
    | cons kv sorted ih =>
      cases es with
      | nil => cases hes
      | cons e es =>
        obtain ⟨he, hrest⟩ := List.cons.inj hes
        obtain ⟨hv, hk⟩ := normalizedEntry_ok he.symm
        rw [List.map_cons, List.map_cons, ih (fun e' he' => h e' (List.mem_cons_of_mem _ he')) hrest,
          h e List.mem_cons_self, hk, hv]
  rw [canonicalize, hentries, stringKeys_map]
  refine normalizedDict_ok.2 ⟨es, ?_, rfl⟩
  rw [sortKeys_sortKeys, ← hes, sequence_map_ok]

mutual

/-- What `canonicalize` returns, it leaves alone. -/
theorem canonicalize_idem : ∀ v w, canonicalize v = .ok w → canonicalize w = .ok w
  | .dict entries, w, h => by
    rw [canonicalize] at h
    split at h
    · rename_i kvs hkvs
      obtain ⟨es, hes, rfl⟩ := normalizedDict_ok.1 h
      have hes := sequence_ok hes
      refine canonical_dict hes fun e he => ?_
      obtain ⟨kv, hkv, hentry⟩ := List.mem_map.1 (hes ▸ List.mem_map_of_mem he)
      obtain ⟨hv, -⟩ := normalizedEntry_ok hentry
      have hin : (PyValue.str kv.1, kv.2) ∈ canonicalizeEntries entries := by
        rw [stringKeys_eq hkvs]
        exact List.mem_map.2 ⟨kv, (List.perm_insertionSort _ _).mem_iff.1 hkv, rfl⟩
      exact canonicalizeEntries_idem entries _ hin e.2 hv
    · cases h
  | .list items, w, h => by
    rw [canonicalize] at h
    obtain ⟨ws, hws, rfl⟩ := map_eq_ok.1 h
    refine canonical_list fun w hw => ?_
    exact canonicalizeItems_idem items _ (sequence_ok hws ▸ List.mem_map_of_mem hw) w rfl
  | .tuple items, w, h => by
    rw [canonicalize] at h
    obtain ⟨ws, hws, rfl⟩ := map_eq_ok.1 h
    refine canonical_list fun w hw => ?_
    exact canonicalizeItems_idem items _ (sequence_ok hws ▸ List.mem_map_of_mem hw) w rfl
  | .float none, _, h => by rw [canonicalize] at h; cases h
  | .float (some r), _, h => by rw [canonicalize] at h; cases h; rw [canonicalize]
  | .str t, _, h => by rw [canonicalize] at h; cases h; rw [canonicalize]
  | .int i, _, h => by rw [canonicalize] at h; cases h; rw [canonicalize]
  | .bool b, _, h => by rw [canonicalize] at h; cases h; rw [canonicalize]
  | .none, _, h => by rw [canonicalize] at h; cases h; rw [canonicalize]
  | .bytes _, _, h => by rw [canonicalize] at h; cases h
  | .set _, _, h => by rw [canonicalize] at h; cases h
  | .enum _, _, h => by rw [canonicalize] at h; cases h
  | .path _, _, h => by rw [canonicalize] at h; cases h
  | .dataclass _ _, _, h => by rw [canonicalize] at h; cases h
  | .other _, _, h => by rw [canonicalize] at h; cases h

theorem canonicalizeItems_idem :
    ∀ items, ∀ r ∈ canonicalizeItems items, ∀ w, r = .ok w → canonicalize w = .ok w
  | [], _, hr, _, _ => by cases hr
  | v :: vs, r, hr, w, hw => by
    rw [canonicalizeItems, List.mem_cons] at hr
    rcases hr with rfl | hr
    · exact canonicalize_idem v w hw
    · exact canonicalizeItems_idem vs r hr w hw

theorem canonicalizeEntries_idem :
    ∀ entries, ∀ e ∈ canonicalizeEntries entries, ∀ w, e.2 = .ok w → canonicalize w = .ok w
  | [], _, he, _, _ => by cases he
  | (k, v) :: rest, e, he, w, hw => by
    rw [canonicalizeEntries, List.mem_cons] at he
    rcases he with rfl | he
    · exact canonicalize_idem v w hw
    · exact canonicalizeEntries_idem rest e he w hw

end

theorem canonicalize_dict {entries : List (PyValue × PyValue)} {w : PyValue}
    (h : canonicalize (.dict entries) = .ok w) : ∃ es, w = .dict es := by
  rw [canonicalize] at h
  split at h
  · obtain ⟨es, -, rfl⟩ := normalizedDict_ok.1 h
    exact ⟨es, rfl⟩
  · cases h

theorem validateJsonObject_canonical {v w : PyValue} {name : String}
    (h : validateJsonObject v name = .ok ()) (hw : canonicalize v = .ok w) :
    validateJsonObject w name = .ok () := by
  cases v with
  | dict entries =>
    obtain ⟨es, rfl⟩ := canonicalize_dict hw
    rw [validateJsonObject, canonicalize_idem _ _ hw]
    rfl
  | _ => cases h

theorem CoordinationEventDraft.canonical_ok {d c : CoordinationEventDraft} (h : d.canonical = .ok c) :
    canonicalize d.payload = .ok c.payload ∧ canonicalize d.referenceData = .ok c.referenceData ∧
      c = { d with payload := c.payload, referenceData := c.referenceData } := by
  simp only [canonical, bind_eq_ok, pure_ok] at h
  obtain ⟨p, hp, r, hr, rfl⟩ := h
  exact ⟨hp, hr, rfl⟩

theorem CoordinationEventDraft.canonical_canonical {d c : CoordinationEventDraft}
    (h : d.canonical = .ok c) : c.canonical = .ok c := by
  obtain ⟨hp, hr, -⟩ := canonical_ok h
  simp only [canonical, canonicalize_idem _ _ hp, canonicalize_idem _ _ hr]
  rfl

/-! ## The checks of an event -/

section Texts

theorem validateText_ok {value name : String} :
    validateText value name = .ok () ↔ nonblank value = true ∧ value.toList.any isControl = false := by
  rw [validateText]
  by_cases hb : nonblank value = true
  · by_cases hc : value.toList.any isControl = true <;> simp [hb, hc]
  · simp [hb]

theorem workstreams_stored : ∀ w ∈ workstreams,
    nonblank w = true ∧ w.toList.any isControl = false ∧ w.length ≤ 256 := by
  decide +kernel

theorem validateWorkstream_ok {py : Stdlib} {value name : String}
    (h : validateWorkstream py value name = .ok ()) : value ∈ workstreams := by
  rw [validateWorkstream] at h
  split at h
  · cases h
  · split at h
    · cases h
    · exact not_not.1 ‹_›

theorem validateStoredAddress_workstream {value name : String} (h : value ∈ workstreams) :
    SQLiteCoordinationRepository.validateStoredAddress value name = .ok () := by
  obtain ⟨hb, hc, hl⟩ := workstreams_stored value h
  rw [SQLiteCoordinationRepository.validateStoredAddress, validateText_ok.2 ⟨hb, hc⟩]
  exact if_neg (Nat.not_lt.2 hl)

theorem hexDigit_text {c : Char} (hc : c ∈ hexDigits) : isWhitespace c = false ∧ isControl c = false := by
  have hall : hexDigits.all fun c => !isWhitespace c && !isControl c := by decide
  simpa using List.all_eq_true.1 hall c hc

variable {D : Type} {K : BusHashing D}

theorem coordinationEventId_text (sequence : Nat) (draft : CoordinationEventDraft) (name : String) :
    validateText (coordinationEventId K sequence draft) name = .ok () := by
  rw [coordinationEventId]
  generalize K.canonicalHash (.eventId sequence draft) = d
  have hlen := K.hexdigest_length d
  have hdigits (c : Char) (hc : c ∈ (K.hexdigest d).toList.take 32) := hexDigit_text
    (K.hexdigest_digits d c (List.mem_of_mem_take hc))
  rw [validateText_ok, nonblank, String.toList_ofList]
  have hne : ((K.hexdigest d).toList.take 32).length = 32 := by
    rw [List.length_take, String.length_toList, hlen]
    rfl
  constructor
  · obtain ⟨c, hc⟩ := List.exists_mem_of_length_pos (by omega : 0 < ((K.hexdigest d).toList.take 32).length)
    exact List.any_eq_true.2 ⟨c, hc, by rw [(hdigits c hc).1]; rfl⟩
  · exact List.any_eq_false.2 fun c hc => by rw [(hdigits c hc).2]; exact Bool.false_ne_true

end Texts

/-! ## Appending -/

namespace SQLiteCoordinationRepository

variable {D : Type} {K : BusHashing D} {py : Stdlib} {log log' : SQLiteCoordinationRepository D}
  {draft : CoordinationEventDraft} {t : ClockText} {event : CoordinationEvent}

/-- The events of a log, oldest first. -/
def bodies (log : SQLiteCoordinationRepository D) : List CoordinationEvent :=
  log.entries.map fun e => e.body

/-- What `verify_integrity` checks. -/
structure Verifiable (K : BusHashing D) (py : Stdlib) (log : SQLiteCoordinationRepository D) : Prop where
  chain : (repositoryChain K).WellFormed log
  events : (bodies log).foldlM (checkEvent K py) [] = .ok (bodies log).reverse

theorem Verifiable.empty : Verifiable K py (repositoryChain K).empty where
  chain := Chaining.wellFormed_empty
  events := rfl

theorem Verifiable.verifyRows [DecidableEq D] (h : Verifiable K py log) :
    verifyRows K py log.entries log.sequence log.head = .ok log.head := by
  rw [SQLiteCoordinationRepository.verifyRows,
    Chaining.verify_eq_ok.2 ⟨rfl, h.chain.linked, _, h.events⟩]

/-- What `append` tested when it added an event, and what it added. -/
theorem append_ok [DecidableEq D] (h : append K py draft t log = .ok (event, log')) :
    ∃ canonical, draft.validate py = .ok () ∧ checkAcknowledged K draft log = .ok () ∧
      checkSuperseded K draft log = .ok () ∧ draft.canonical = .ok canonical ∧
      event = { canonical with
        eventId := coordinationEventId K (log.sequence + 1) canonical, recordTime := t.text } ∧
      (repositoryChain K).lookup log event.eventId = none ∧
      (event.supersedesEventId.isSome → ∀ e ∈ log.entries,
        e.body.supersedesEventId ≠ event.supersedesEventId) ∧
      log' = (repositoryChain K).extend log event := by
  simp only [append, insertEvent, bind_eq_ok, ite_error_ok, ↓throw_bind, pure_ok, Except.ok.injEq,
    Prod.mk.injEq] at h
  obtain ⟨_, hv, _, ha, _, hs, c, hc, -, -, _, ⟨hfree, rfl⟩, rfl, rfl⟩ := h
  obtain ⟨hnew, hrows⟩ := not_or.1 hfree
  refine ⟨c, hv, ha, hs, hc, rfl, by simpa using hnew, fun hsome e he hsup => hrows ?_, rfl⟩
  exact ⟨e, he, .inr (.inr ⟨hsome, hsup⟩)⟩

theorem checkLineage_ok {id : Option String} {message : String}
    (h : ∀ i, id = some i → ∃ e ∈ log.entries, e.body.eventId = i ∧ e.body.threadKey = draft.threadKey)
    (hl : (repositoryChain K).WellFormed log) :
    checkLineage (bodies log).reverse draft.threadKey id message = .ok () := by
  cases id with
  | none => rfl
  | some i =>
    simp only [checkLineage]
    obtain ⟨e, he, hid, hthread⟩ := h i rfl
    have hmem : e.body ∈ (bodies log).reverse := List.mem_reverse.2 (List.mem_map_of_mem he)
    cases hf : (bodies log).reverse.find? fun s => s.eventId = i with
    | none => simpa [hid] using List.find?_eq_none.1 hf _ hmem
    | some s =>
      have hsid : s.eventId = i := by simpa using List.find?_some hf
      obtain ⟨e', he', rfl⟩ := List.mem_map.1 (List.mem_reverse.1 (List.mem_of_find?_eq_some hf))
      have heq : e' = e := List.inj_on_of_nodup_map hl.nodup he' he (hsid.trans hid.symm)
      simp [heq, hthread]

theorem acknowledged_ok (h : checkAcknowledged K draft log = .ok ()) (i : String)
    (hi : draft.acknowledgesEventId = some i) :
    ∃ e ∈ log.entries, e.body.eventId = i ∧ e.body.threadKey = draft.threadKey := by
  rw [checkAcknowledged, hi] at h
  simp only at h
  split at h
  · cases h
  · rename_i e he
    obtain ⟨hmem, hkey⟩ := Chaining.lookup_mem he
    exact ⟨e, hmem, hkey, not_not.1 (ite_error_ok.1 h).1⟩

theorem superseded_ok (h : checkSuperseded K draft log = .ok ()) (i : String)
    (hi : draft.supersedesEventId = some i) :
    ∃ e ∈ log.entries, e.body.eventId = i ∧ e.body.threadKey = draft.threadKey := by
  rw [checkSuperseded, hi] at h
  simp only [ite_error_ok] at h
  obtain ⟨-, h⟩ := h
  split at h
  · cases h
  · rename_i e he
    obtain ⟨hmem, hkey⟩ := Chaining.lookup_mem he
    exact ⟨e, hmem, hkey, not_not.1 (ite_error_ok.1 h).1⟩

/-- What a draft has to be for `from_row` to read its event back. -/
theorem validate_ok (h : draft.validate py = .ok ()) :
    validateText draft.threadKey "thread_key" = .ok () ∧ draft.sourceBranch ∈ workstreams ∧
      (∀ b, draft.targetBranch = some b → b ∈ workstreams) ∧
      draft.eventType ∈ coordinationEventTypes ∧ draft.status ∈ coordinationStatuses ∧
      (draft.eventType, draft.status) ∈ eventStatusPairs ∧
      validateText draft.objective "objective" = .ok () ∧
      validateText draft.summary "summary" = .ok () ∧
      validateJsonObject draft.payload "payload" = .ok () ∧
      validateJsonObject draft.referenceData "reference_data" = .ok () := by
  cases htarget : draft.targetBranch with
  | none =>
    simp only [CoordinationEventDraft.validate, htarget, bind_eq_ok, ite_error_ok, ↓throw_bind] at h
    obtain ⟨_, hthread, _, hsource, htype, hstatus, hpair, _, ho, _, hs, _, -, _, -, _, -, _, -, _, hp, _, hr,
      -⟩ := h
    exact ⟨hthread, validateWorkstream_ok hsource, by simp, not_not.1 htype, not_not.1 hstatus,
      not_not.1 hpair, ho, hs, hp, hr⟩
  | some b =>
    simp only [CoordinationEventDraft.validate, htarget, bind_eq_ok, ite_error_ok, ↓throw_bind] at h
    obtain ⟨_, hthread, _, hsource, _, hb, htype, hstatus, hpair, _, ho, _, hs, _, -, _, -, _, -, _, -, _, hp, _,
      hr, -⟩ := h
    exact ⟨hthread, validateWorkstream_ok hsource, by simpa using validateWorkstream_ok hb,
      not_not.1 htype, not_not.1 hstatus, not_not.1 hpair, ho, hs, hp, hr⟩

theorem fromRow_ok {c : CoordinationEventDraft} (hv : draft.validate py = .ok ())
    (hc : draft.canonical = .ok c) (sequence : Nat) (t : ClockText) :
    fromRow py { c with eventId := coordinationEventId K sequence c, recordTime := t.text } = .ok () := by
  obtain ⟨hthread, hsource, htarget, htype, hstatus, hpair, ho, hs, hp, hr⟩ := validate_ok hv
  obtain ⟨hcp, hcr, hcd⟩ := CoordinationEventDraft.canonical_ok hc
  have hp := validateJsonObject_canonical hp hcp
  have hr := validateJsonObject_canonical hr hcr
  have hid := coordinationEventId_text (K := K) sequence c "event_id"
  generalize coordinationEventId K sequence c = eventId at hid
  generalize c.payload = payload at hcd hp
  generalize c.referenceData = referenceData at hcd hr
  subst hcd
  cases hb : draft.targetBranch with
  | none =>
    simp only [fromRow, htype, hstatus, hpair, not_true, or_self, if_false, hp, hr, hid, ho, hs, hthread,
      t.valid, validateStoredAddress_workstream hsource, ok_bind]
  | some b =>
    simp only [fromRow, htype, hstatus, hpair, not_true, or_self, if_false, hp, hr, hid, ho, hs, hthread,
      t.valid, validateStoredAddress_workstream hsource, validateStoredAddress_workstream (htarget b hb),
      ok_bind]

/-- The verifier takes an event that reads back, has the name of its place, and refers to
earlier events as it may. -/
theorem checkEvent_ok {seen : List CoordinationEvent} {c : CoordinationEventDraft}
    (hrow : fromRow py event = .ok ()) (hfresh : ∀ s ∈ seen, s.eventId ≠ event.eventId)
    (hc : event.toCoordinationEventDraft.canonical = .ok c)
    (hid : event.eventId = coordinationEventId K (seen.length + 1) c)
    (hack : checkLineage seen event.threadKey event.acknowledgesEventId
      "coordination acknowledgement lineage is invalid" = .ok ())
    (hsup : checkLineage seen event.threadKey event.supersedesEventId
      "coordination supersession lineage is invalid" = .ok ())
    (hone : event.supersedesEventId.isSome → ∀ s ∈ seen,
      s.supersedesEventId ≠ event.supersedesEventId) :
    checkEvent K py seen event = .ok (event :: seen) := by
  have hfresh : ¬ ∃ s ∈ seen, s.eventId = event.eventId := fun ⟨s, hs, heq⟩ => hfresh s hs heq
  have hone : ¬ (event.supersedesEventId.isSome ∧
      ∃ s ∈ seen, s.supersedesEventId = event.supersedesEventId) :=
    fun ⟨hsome, s, hs, heq⟩ => hone hsome s hs heq
  rw [checkEvent, hrow, ok_bind, if_neg hfresh, hc, ok_bind, if_neg (not_not.2 hid.symm), hack, ok_bind,
    hsup, ok_bind, if_neg hone]
  rfl

theorem Verifiable.append [DecidableEq D] (h : Verifiable K py log)
    (ha : SQLiteCoordinationRepository.append K py draft t log = .ok (event, log')) :
    Verifiable K py log' := by
  obtain ⟨c, hv, hack, hsup, hc, hevent, hnew, hsucc, rfl⟩ := append_ok ha
  obtain ⟨-, -, hcd⟩ := CoordinationEventDraft.canonical_ok hc
  have hdraft : event.toCoordinationEventDraft = c := by rw [hevent]
  have hthread : event.threadKey = draft.threadKey := by rw [hdraft, hcd]
  have hack' : event.acknowledgesEventId = draft.acknowledgesEventId := by rw [hdraft, hcd]
  have hsup' : event.supersedesEventId = draft.supersedesEventId := by rw [hdraft, hcd]
  have hlen : (bodies log).reverse.length = log.sequence := by
    rw [List.length_reverse, bodies, List.length_map, h.chain.length]
  have hcheck : checkEvent K py (bodies log).reverse event = .ok (event :: (bodies log).reverse) := by
    refine checkEvent_ok (hevent ▸ fromRow_ok hv hc _ t) (fun s hs hid => ?_)
      (hdraft ▸ CoordinationEventDraft.canonical_canonical hc) (by rw [hlen, hevent])
      (by rw [hthread, hack', checkLineage_ok (acknowledged_ok hack) h.chain])
      (by rw [hthread, hsup', checkLineage_ok (superseded_ok hsup) h.chain]) fun hsome s hs => ?_
    · obtain ⟨e, he, rfl⟩ := List.mem_map.1 (List.mem_reverse.1 hs)
      exact Chaining.lookup_eq_none.1 hnew (List.mem_map.2 ⟨e, he, hid⟩)
    · obtain ⟨e, he, rfl⟩ := List.mem_map.1 (List.mem_reverse.1 hs)
      exact hsucc hsome e he
  have hbodies : bodies ((repositoryChain K).extend log event) = bodies log ++ [event] := by
    rw [bodies, Chaining.extend, List.map_append]
    rfl
  refine ⟨h.chain.extend hnew, ?_⟩
  rw [hbodies, List.foldlM_append, h.events, List.reverse_append]
  simp only [ok_bind, List.foldlM_cons, hcheck]
  rfl

end SQLiteCoordinationRepository

end VeraMono

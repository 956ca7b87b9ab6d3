import VeraMono.Proof.Ingest
import VeraMono.Proof.StoredLedgers

/-!
# Runs of ingest calls

The main result is `ingest_commits_once`: for any number of calls on one store, with every
interleaving and every crash, files never change, a record comes after all that it refers to, and
of the calls that end for one ingest id at most one reports a fresh result. Exactly one does where
the call that created the record ends; a call that crashed after that leaves the others to report
its record as a duplicate (`crashed_creator`).
-/

namespace VeraMono.Ingest

open Framework Framework.Shelf

variable {V : Type} {py : Library V}

/-! ## Fresh results -/

/-- A result that reports a record of its own. -/
def IngestResult.Fresh (result : IngestResult) : Prop :=
  result.status = .accepted ∨ (result.status = .quarantined ∧ "duplicate_existing_record" ∉ result.warnings)

theorem mismatchWarning_ne (claimed sniffed : String) :
    mismatchWarning claimed sniffed ≠ "duplicate_existing_record" := by
  intro h
  have hm : "media_type_mismatch: claimed=".toList.head? = some 'm' := by simp
  have hd : "duplicate_existing_record".toList.head? = some 'd' := by simp
  rw [← h] at hd
  unfold mismatchWarning at hd
  rw [String.toList_append, String.toList_append, String.toList_append, List.append_assoc, List.append_assoc,
    List.head?_append, hm, Option.some_or] at hd
  exact absurd hd (by decide)

theorem unflagged (item : Item) : "duplicate_existing_record" ∉ item.warnings := by
  rw [Item.warnings]
  split
  · exact List.not_mem_nil
  · split
    · exact fun h => mismatchWarning_ne _ _ (List.mem_singleton.1 h).symm
    · exact List.not_mem_nil

variable {record : IngestRecord} {P : IngestPool}

theorem RecordOf.fresh {item : Item} (h : RecordOf py item record) : record.result.Fresh := by
  obtain ⟨-, -, hwarnings, hstatus⟩ := h.fields
  refine hstatus.imp id fun hquarantined => ⟨hquarantined, ?_⟩
  change _ ∉ record.warnings
  rw [hwarnings]
  exact unflagged item

theorem Evidenced.fresh {s : FileSystemStore} {id : String} (h : Evidenced py s id record) :
    record.result.Fresh ∧ (record.status = .accepted ∨ record.status = .quarantined) := by
  obtain ⟨item, r, -, -, hr, hsem⟩ := h.outcome
  have hrecord : RecordOf py item record := ⟨r, hr, hsem⟩
  exact ⟨hrecord.fresh, hrecord.fields.2.2.2⟩

theorem Duplicate.not_fresh {result : IngestResult} (h : Duplicate result record)
    (hstatus : record.status = .accepted ∨ record.status = .quarantined) : ¬ result.Fresh := by
  rintro (haccepted | ⟨hquarantined, hflag⟩)
  · have hs := h.status
    rw [haccepted] at hs
    rcases hstatus with hr | hr <;> simp [hr] at hs
  · have hs := h.status
    rcases hstatus with hr | hr
    · simp [hr, hquarantined] at hs
    · exact hflag (h.flagged (by simp [hr]))

/-! ## Every run -/

abbrev IngestPool := Pool Empty FileSystemStore IngestError IngestResult IngestCall

/-- A thread has ended with a fresh result for an ingest id. -/
def FreshCall (P : IngestPool) (i : Nat) (id : String) : Prop :=
  ∃ c result, P.thread i = some ⟨c, some (.ret result)⟩ ∧ result.ingestId = some id ∧ result.Fresh

/-- What holds of a store and of the calls on it. -/
structure Committed (py : Library V) (P : IngestPool) : Prop where
  /-- What a path holds at any point it holds at the end. -/
  kept : ∀ st ∈ P.trace, ∀ path file,
    st.move.before.cells path = some file ∨ st.move.after.cells path = some file → P.store.cells path = some file
  /-- A content is stored under its digest. -/
  contents : ∀ digest file, P.store.cells (.blob digest) = some file →
    ∃ data, file = .blob data ∧ py.sha256 data = digest
  /-- A record is at its ingest id, and all that it refers to is stored. -/
  backed : ∀ id file, P.store.cells (.record id) = some file →
    ∃ record, file = .record record ∧ record.ingestId = id ∧ Backed py P.store record
  /-- A call that ends for an ingest id reports the record that is there, as its own or as a duplicate. -/
  reported : ∀ i c result id, P.thread i = some ⟨c, some (.ret result)⟩ → result.ingestId = some id →
    ∃ record, P.store.cells (.record id) = some (.record record) ∧
      (result.Fresh ∧ result = record.result ∨ ¬ result.Fresh ∧ Duplicate result record)
  /-- At most one call reports it as its own. -/
  once : ∀ i j id, FreshCall P i id → FreshCall P j id → i = j
  /-- The call that created a record crashed, still runs, or reports it as its own. -/
  creator : ∀ id file, P.store.cells (.record id) = some file → ∃ st ∈ P.trace, Fills (.record id) st ∧
    ((∃ c, P.thread st.thread = some ⟨c, none⟩) ∨
      (∃ c p, P.thread st.thread = some ⟨c, some p⟩ ∧ p.ended = false) ∨ FreshCall P st.thread id)
  /-- No call raises a `StoreConflict`. -/
  unconflicted : ∀ i c message, P.thread i ≠ some ⟨c, some (.raise (.storeConflict message))⟩

theorem ingest_disciplined (hsha : Function.Injective py.sha256) (huuid : Function.Injective py.uuid) :
    Disciplined (Shelf.discipline (Consistent py) IngestCall) (fun _ r _ h s => Reported py r h s) (ingest py) where
  spawn c s hi := (ingest_triple hsha huuid c [] s hi ⟨fun m hm => (by cases hm), trivial⟩).mono hi
    fun _ _ _ _ _ hr => hr.2
  rely _ _ _ hg := hg

theorem avoids_fills {i : Nat} {id : String} (hA : Avoids IsRecord (hist i P.trace))
    {st : Step Empty FileSystemStore IngestCall} (hst : st ∈ P.trace) (hth : st.thread = i)
    (hf : Fills (.record id) st) : False := by
  have hnone := hA st.move (mem_hist.2 ⟨st, hst, hth, rfl⟩) _ ⟨id, rfl⟩ hf.1
  obtain ⟨v, hv⟩ := hf.2
  rw [hnone] at hv
  cases hv

/-- The last move of a thread that created a record is a step that fills it, and it fills no other. -/
theorem filling_fills {i : Nat} {id : String}
    (hf : Filling IsRecord (.record id) (.record record) (hist i P.trace)) :
    (∃ st ∈ P.trace, st.thread = i ∧ Fills (.record id) st) ∧
      ∀ st ∈ P.trace, st.thread = i → ∀ id', Fills (.record id') st → id' = id := by
  obtain ⟨m, rest, hhist, hrest, hbefore, hafter⟩ := hf
  refine ⟨?_, fun st hst hth id' hf' => ?_⟩
  · obtain ⟨st, hst, hth, rfl⟩ := mem_hist.1 (hhist ▸ List.mem_cons_self : m ∈ hist i P.trace)
    exact ⟨st, hst, hth, hbefore, _, by rw [hafter, put_self]⟩
  · obtain ⟨hnone, v, hv⟩ := hf'
    rcases List.mem_cons.1 (hhist ▸ mem_hist.2 ⟨st, hst, hth, rfl⟩ : st.move ∈ m :: rest) with heq | hmem
    · by_contra hne
      rw [heq] at hnone hv
      rw [hafter, put_other _ _ fun h => hne (Path.record.inj h), hnone] at hv
      cases hv
    · rw [hrest st.move hmem _ ⟨id', rfl⟩ hnone] at hv
      cases hv

/-- What a thread that ended with a result knows. -/
theorem returned_reported
    (hP : Sound (Shelf.discipline (Consistent py) IngestCall) (fun _ r _ h s => Reported py r h s) emptyStore P)
    {i : Nat} {c : IngestCall} {result : IngestResult} {id : String}
    (hi : P.thread i = some ⟨c, some (.ret result)⟩) (hid : result.ingestId = some id) :
    ∃ record, P.store.cells (.record id) = some (.record record) ∧ record.ingestId = id ∧
      ((Filling IsRecord (.record id) (.record record) (hist i P.trace) ∧ result.Fresh ∧ result = record.result) ∨
        (Avoids IsRecord (hist i P.trace) ∧ ¬ result.Fresh ∧ Duplicate result record)) := by
  have hr := hP.safe i _ _ hi P.store .refl
  generalize hout : (Except.ok result : Except IngestError IngestResult) = r at hr
  cases hr with
  | failed => cases hout
  | apart hnone =>
    cases hout
    rw [hid] at hnone
    cases hnone
  | @fresh record h s hcell hfilling =>
    cases hout
    obtain rfl : record.ingestId = id := Option.some.inj hid
    have hevidenced : Evidenced py P.store record.ingestId record := hP.inv.files _ _ hcell
    exact ⟨record, hcell, rfl, .inl ⟨hfilling, hevidenced.fresh.1, rfl⟩⟩
  | @duplicate result' record h s hcell hA hdup =>
    cases hout
    obtain rfl : record.ingestId = id := Option.some.inj (hdup.ingestId.symm.trans hid)
    have hevidenced : Evidenced py P.store record.ingestId record := hP.inv.files _ _ hcell
    exact ⟨record, hcell, rfl, .inr ⟨hA, hdup.not_fresh hevidenced.fresh.2, hdup⟩⟩

/-- The call that filled a record reports it, once it ends. -/
theorem creator_fresh
    (hP : Sound (Shelf.discipline (Consistent py) IngestCall) (fun _ r _ h s => Reported py r h s) emptyStore P)
    {st : Step Empty FileSystemStore IngestCall} {id : String} (hst : st ∈ P.trace)
    (hf : Fills (.record id) st)
    {c : IngestCall} {p : Stored IngestResult} (hi : P.thread st.thread = some ⟨c, some p⟩)
    (hended : p.ended = true) : FreshCall P st.thread id := by
  cases p with
  | atom | acquire | release => cases hended
  | raise e =>
    have hr := hP.safe _ _ _ hi P.store .refl
    generalize hout : (Except.error e : Except IngestError IngestResult) = r at hr
    cases hr with
    | failed hA => exact (avoids_fills hA hst rfl hf).elim
    | apart | fresh | duplicate => cases hout
  | ret result =>
    have hr := hP.safe _ _ _ hi P.store .refl
    generalize hout : (Except.ok result : Except IngestError IngestResult) = r at hr
    cases hr with
    | failed => cases hout
    | apart _ hA => exact (avoids_fills hA hst rfl hf).elim
    | duplicate _ hA => exact (avoids_fills hA hst rfl hf).elim
    | @fresh record h s hcell hfilling =>
      cases hout
      obtain rfl : id = record.ingestId := (filling_fills hfilling).2 st hst rfl id hf
      have hevidenced : Evidenced py P.store record.ingestId record := hP.inv.files _ _ hcell
      exact ⟨c, _, hi, rfl, hevidenced.fresh.1⟩

/-- Each item is committed once, on top of what its record refers to. -/
theorem ingest_commits_once (hsha : Function.Injective py.sha256) (huuid : Function.Injective py.uuid)
    (es : List (Event IngestCall)) : Committed py ((Pool.init emptyStore).run (ingest py) es) := by
  have hP := (Sound.init consistent_empty).run (ingest_disciplined hsha huuid) es
  generalize (Pool.init emptyStore).run (ingest py) es = P at hP
  refine ⟨fun st hst path file => kept hP.valid hst, fun digest file hcell => ?_, fun id file hcell => ?_,
    fun i c result id hi hid => ?_, fun i j id hfi hfj => ?_, fun id file hcell => ?_, fun i c message hi => ?_⟩
  · have hfits := hP.inv.files _ _ hcell
    cases file with
    | blob data => exact ⟨data, rfl, hfits⟩
    | record | receipt | derivation => exact hfits.elim
  · have hfits := hP.inv.files _ _ hcell
    cases file with
    | record record => exact ⟨record, rfl, Evidenced.ingestId hfits, Evidenced.backed hfits⟩
    | blob | receipt | derivation => exact hfits.elim
  · obtain ⟨record, hcell, -, hends⟩ := returned_reported hP hi hid
    exact ⟨record, hcell, hends.imp (fun h => h.2) fun h => h.2⟩
  · obtain ⟨ci, ri, hi, hidi, hri⟩ := hfi
    obtain ⟨cj, rj, hj, hidj, hrj⟩ := hfj
    obtain ⟨_, -, -, hendi⟩ := returned_reported hP hi hidi
    obtain ⟨_, -, -, hendj⟩ := returned_reported hP hj hidj
    have hfilli := (hendi.resolve_right fun h => h.2.1 hri).1
    have hfillj := (hendj.resolve_right fun h => h.2.1 hrj).1
    obtain ⟨st, hst, rfl, hfst⟩ := (filling_fills hfilli).1
    obtain ⟨st', hst', rfl, hfst'⟩ := (filling_fills hfillj).1
    rw [filled_once hP.valid hst hst' hfst hfst']
  · obtain ⟨st, hst, hf⟩ := filled_by hP.valid rfl ⟨file, hcell⟩
    refine ⟨st, hst, hf, ?_⟩
    obtain ⟨⟨c, p⟩, hi, -⟩ := hP.calls st hst
    cases p with
    | none => exact .inl ⟨c, hi⟩
    | some p =>
      cases hended : p.ended with
      | false => exact .inr (.inl ⟨c, p, hi, hended⟩)
      | true => exact .inr (.inr (creator_fresh hP hst hf hi hended))
  · have hr := hP.safe i _ _ hi P.store .refl
    generalize hout : (Except.error (.storeConflict message) : Except IngestError IngestResult) = r at hr
    cases hr with
    | failed _ hconflict => exact hconflict message (Except.error.inj hout).symm
    | apart | fresh | duplicate => cases hout

/-! ## A creator that crashed -/

section
variable {α : Type} {K : FileSystemStore → Prop} {F : α → FileSystemStore → Prop} {op : Stored α}
  {s : FileSystemStore}

/-- A steady part that runs alone goes on. -/
theorem Steady.run (hop : Steady py K op F) (hs : Consistent py s) (hk : K s) :
    ∃ a s', op.run s = (.ok a, s') ∧ Consistent py s' ∧ K s' ∧ F a s' := by
  obtain ⟨hs', _, -, a, ha, -, hk', hf⟩ := (hop [] s hs ⟨fun m hm => (by cases hm), hk⟩).run hs
  exact ⟨a, _, Prod.ext ha rfl, hs', hk', hf⟩

theorem quarantine_run (hsha : Function.Injective py.sha256) (huuid : Function.Injective py.uuid) {call : IngestCall}
    {item : Item} {receiptIds : List String} {error : String} (hitem : IsItem py item)
    (houtcome : item.outcome py = .ok (item.record none .quarantined [] [] (some error))) (hs : Consistent py s)
    (hg : Gathered py item receiptIds s) : ∃ result s',
      (quarantine py call item receiptIds error).run s = (.ok result, s') ∧ result.ingestId = some item.ingestId ∧
        Consistent py s' := by
  obtain ⟨receipt, s₁, hreceipt, hs₁, hg₁, hfilled⟩ := (receipt_steady huuid Gathered.lasting).run hs hg
  rw [quarantine, Prog.run_bind_ok hreceipt, commit]
  have hrecord : RecordOf py item
      (item.record none .quarantined (receiptIds ++ [receipt.receiptId]) [] (some error)) := ⟨_, houtcome, rfl⟩
  have hputs := putRecordOrExisting_triple hsha hitem hrecord Gathered.lasting fun s hs =>
    ⟨hs.raw hitem, fun _ h => (by cases h), fun _ h => (by cases h), hs.2⟩
  obtain ⟨hs₂, h', hput⟩ := (hputs [] s₁ hs₁ ⟨fun m hm => (by cases hm), hg₁.snoc hfilled⟩).run hs₁
  rcases hput.2 with ⟨hnone, -⟩ | ⟨existing, hsome, -⟩
  · rw [Prog.run_bind_ok (Prod.ext hnone rfl)]
    exact ⟨_, _, rfl, rfl, hs₂⟩
  · rw [Prog.run_bind_ok (Prod.ext hsome rfl)]
    dsimp only
    obtain ⟨duplicate, s₃, hduplicate, hs₃, -⟩ := (receipt_steady huuid (.const True)).run hs₂ trivial
    rw [resultFromExisting, Prog.run_bind_ok hduplicate]
    exact ⟨_, _, rfl, rfl, hs₃⟩

end

/-- A library that computes what the demonstration needs of it. -/
def demoLibrary : Library Unit where
  sha256 := plainDigest
  uuid n := String.ofList (List.replicate n 'a')
  loads _ := .error ⟨.jsonDecodeError, "Expecting value: line 1 column 1 (char 0)"⟩
  dumps _ := .ok (.valid "null")
  decodeMessage _ := "invalid start byte"
  encodeMessage _ := "surrogates not allowed"
  nfc := id
  strip := id
  lower := id
  splitlines text := [text]

theorem demoLibrary_uuid : Function.Injective demoLibrary.uuid := fun m n h => by
  have hlength := congrArg List.length (String.ofList_injective h)
  rwa [List.length_replicate, List.length_replicate] at hlength

def noEntries : JsonDict := ⟨[], by simp, trivial⟩

/-- No bytes, claimed to be JSON. -/
def demoAcquisition : Acquisition where
  data := .empty
  source := ⟨"bytes", "inline:bytes", "text-bytes", "1", "2026-01-01T00:00:00+00:00", noEntries, noEntries, noEntries⟩
  claimedMediaType := some "application/json"

def demoCall : IngestCall where
  acquired := .acquisition demoAcquisition
  policy := ⟨10485760, "policy"⟩
  clock _ := "2026-01-01T00:00:00+00:00"

def demoItem : Item := itemOf demoLibrary demoAcquisition "policy" (sniffText .empty)

theorem demo_claimed : claimedMediaType demoLibrary demoAcquisition = some "application/json" := by
  have htake : "application/json".toList.takeWhile (fun c => c ≠ ';') = "application/json".toList :=
    by decide
  have hne : "application/json" ≠ "" := by simp
  unfold claimedMediaType demoAcquisition
  dsimp only
  rw [if_neg hne, cleanMediaType, htake, String.ofList_toList]
  rfl

theorem sniffText_ne (data : ByteArray) : sniffText data ≠ "application/json" := by
  rw [sniffText]
  split
  · simp
  · split <;> simp

theorem demo_sniffed : sniffMediaType demoLibrary .empty = .ok (sniffText .empty) := if_neg (by decide)

theorem demoItem_isItem : IsItem demoLibrary demoItem := ⟨demoAcquisition, "policy", _, demo_sniffed, rfl⟩

theorem demo_mismatch : (demoItem.claimed = some "application/json" ∨ demoItem.claimed = some "text/json") ∧
    demoItem.sniffed ≠ "application/json" := ⟨.inl demo_claimed, sniffText_ne .empty⟩

/-- The call alone ends with a result for its item, which is not fresh when a record was there. -/
theorem demo_run {K : FileSystemStore → Prop} {s : FileSystemStore} (hK : Lasting K) (hs : Consistent demoLibrary s)
    (hk : K s) : ∃ result s', (ingest demoLibrary demoCall).run s = (.ok result, s') ∧
      result.ingestId = some demoItem.ingestId ∧
      ((∃ s₃, K s₃ ∧ s₃.cells (.record demoItem.ingestId) = none) ∨ ¬ result.Fresh) := by
  have hsha : Function.Injective demoLibrary.sha256 := plainDigest_injective
  have huuid := demoLibrary_uuid
  have hingest : ingest demoLibrary demoCall = ingestAcquisition demoLibrary demoCall demoAcquisition := rfl
  have hsize : ¬ ((demoAcquisition.data.size : Int) > demoCall.policy.maxBytes) := by decide
  have hreceipt (id : String) : Lasting fun s => K s ∧ Filled (.receipt id) s := hK.and lasting_filled
  obtain ⟨acquired, s₁, hacquired, hs₁, hk₁⟩ := (receipt_steady huuid hK).run hs hk
  rw [hingest, ingestAcquisition, Prog.run_bind_ok hacquired, if_neg hsize, ingestContent]
  have hsniffed : (Prog.ofExcept ((sniffMediaType demoLibrary demoAcquisition.data).mapError .raised) :
      Stored String).run s₁ = (.ok (sniffText .empty), s₁) := by
    have hsniff : sniffMediaType demoLibrary demoAcquisition.data = .ok (sniffText .empty) := demo_sniffed
    rw [hsniff]
    rfl
  obtain ⟨⟨artifact, created⟩, s₂, hstored, hs₂, hk₂, hartifact, hblob⟩ :=
    (putBlob_steady hsha (hreceipt acquired.receiptId)).run hs₁ hk₁
  rw [Prog.run_bind_ok hsniffed]
  dsimp only
  rw [Prog.run_bind_ok hstored]
  dsimp only at hartifact ⊢
  obtain ⟨persisted, s₃, hpersisted, hs₃, ⟨⟨hk₃, hfilled⟩, hblob⟩, hfilled'⟩ :=
    (receipt_steady huuid ((hreceipt acquired.receiptId).and lasting_cell)).run hs₂ ⟨hk₂, hblob⟩
  have hg : Gathered demoLibrary demoItem ([acquired.receiptId] ++ [persisted.receiptId]) s₃ :=
    Gathered.snoc ⟨hblob, fun x hx => List.mem_singleton.1 hx ▸ hfilled⟩ hfilled'
  have hlook : (Shelf.look (.record demoItem.ingestId) : Stored (Option File)).run s₃ =
      (.ok (s₃.cells (.record demoItem.ingestId)), s₃) := rfl
  have hitem : itemOf demoLibrary demoAcquisition demoCall.policy.policyId (sniffText .empty) = demoItem := rfl
  rw [Prog.run_bind_ok hpersisted, hitem, Prog.run_bind_ok hlook]
  cases hcell : s₃.cells (.record demoItem.ingestId) with
  | none =>
    have hnone : ¬ (none : Option File).isSome = true := by simp
    rw [if_neg hnone, normalizeItem, if_pos demo_mismatch]
    obtain ⟨result, s', hrun, hid, -⟩ := quarantine_run hsha huuid demoItem_isItem (if_pos demo_mismatch) hs₃ hg
    exact ⟨result, s', hrun, hid, .inl ⟨s₃, hk₃, hcell⟩⟩
  | some file =>
    have hsome : (some file).isSome = true := rfl
    obtain ⟨existing, s₄, hexisting, hs₄, -, hrecord⟩ :=
      (getRecord_steady (lasting_filled (p := .record demoItem.ingestId)) fun s hs => hs).run hs₃ ⟨file, hcell⟩
    obtain ⟨duplicate, s₅, hduplicate, hs₅, -⟩ := (receipt_steady huuid (.const True)).run hs₄ trivial
    rw [if_pos hsome, Prog.run_bind_ok hexisting, resultFromExisting, Prog.run_bind_ok hduplicate]
    refine ⟨_, _, rfl, rfl, .inr ?_⟩
    obtain ⟨-, hstatus⟩ := Evidenced.fresh (hs₄.files _ _ hrecord)
    rcases hstatus with hstatus | hstatus <;> simp [IngestResult.Fresh, hstatus]

/-- The first call crashes when its record is there; the second reports a duplicate, and no call
that ended reports a fresh result. -/
theorem crashed_creator : ∃ es,
    let P := (Pool.init emptyStore).run (ingest demoLibrary) es
    (∃ c, P.thread 0 = some ⟨c, none⟩) ∧
      (∃ c result, P.thread 1 = some ⟨c, some (.ret result)⟩ ∧ result.ingestId = some demoItem.ingestId) ∧
      ∀ i, ¬ FreshCall P i demoItem.ingestId := by
  -- The first call runs alone to its end, so its record is there.
  obtain ⟨result₀, s₁, hrun₀, hid₀, -⟩ := demo_run (.const True) consistent_empty trivial
  obtain ⟨n, hstore, hthread, hothers⟩ := Pool.run_alone (ingest demoLibrary)
    (P := (Pool.init emptyStore : IngestPool).exec (ingest demoLibrary) (.spawn 0 demoCall)) (i := 0) rfl
  have hdisciplined : Disciplined (Shelf.discipline (Consistent demoLibrary) IngestCall)
      (fun _ r _ h s => Reported demoLibrary r h s) (ingest demoLibrary) :=
    ingest_disciplined plainDigest_injective demoLibrary_uuid
  have hsound := (Sound.init consistent_empty).run hdisciplined (.spawn 0 demoCall :: List.replicate n (.step 0))
  generalize hP₁ : ((Pool.init emptyStore : IngestPool).exec (ingest demoLibrary) (.spawn 0 demoCall)).run
    (ingest demoLibrary) (List.replicate n (.step 0)) = P₁ at hstore hthread hothers
  change Sound _ _ _ (Pool.run (ingest demoLibrary) ((Pool.init emptyStore : IngestPool).exec (ingest demoLibrary)
    (.spawn 0 demoCall)) (List.replicate n (.step 0))) at hsound
  rw [hP₁] at hsound
  have hended : P₁.thread 0 = some ⟨demoCall, some (.ret result₀)⟩ := by
    have hends : (Prog.ofExcept ((ingest demoLibrary demoCall).run emptyStore).1 : Stored IngestResult) =
        .ret result₀ := by
      rw [hrun₀]
      rfl
    rw [hthread]
    exact congrArg (fun p => some (Thread.mk demoCall (some p))) hends
  obtain ⟨record, hcell, -⟩ := returned_reported hsound hended hid₀
  have hidle (i : Nat) (hi : i ≠ 0) : P₁.thread i = none := (hothers i hi).trans (Function.update_of_ne hi ..)
  -- It crashes, and the second call runs alone.
  generalize hP₂ : (P₁.exec (ingest demoLibrary) (.crash 0)).exec (ingest demoLibrary) (.spawn 1 demoCall) = P₂
  have hcrashed : P₂.store = P₁.store ∧
      P₂.thread = Function.update (Function.update P₁.thread 0 (some ⟨demoCall, none⟩)) 1
        (some ⟨demoCall, some (ingest demoLibrary demoCall)⟩) := by
    have hfree : Function.update P₁.thread 0 (some ⟨demoCall, none⟩) 1 = none := hidle 1 (by decide)
    rw [← hP₂]
    simp only [Pool.exec, hended, hfree, and_self]
  obtain ⟨hstore₂, hthread₂⟩ := hcrashed
  obtain ⟨m, -, hthread', hothers'⟩ := Pool.run_alone (ingest demoLibrary) (P := P₂) (i := 1)
    (c := demoCall) (p := ingest demoLibrary demoCall) (by rw [hthread₂, Function.update_self])
  obtain ⟨result₁, s₂, hrun₁, hid₁, hfresh⟩ := demo_run (s := P₂.store)
    (lasting_filled (p := .record demoItem.ingestId)) (hstore₂ ▸ hsound.inv) ⟨_, hstore₂ ▸ hcell⟩
  have hstale : ¬ result₁.Fresh := by
    refine hfresh.resolve_left ?_
    rintro ⟨s₃, ⟨file, hfile⟩, hnone⟩
    rw [hnone] at hfile
    cases hfile
  refine ⟨(.spawn 0 demoCall :: List.replicate n (.step 0)) ++
    (.crash 0 :: .spawn 1 demoCall :: List.replicate m (.step 1)), ?_⟩
  have hrun : (Pool.init emptyStore : IngestPool).run (ingest demoLibrary)
      ((.spawn 0 demoCall :: List.replicate n (.step 0)) ++
        (.crash 0 :: .spawn 1 demoCall :: List.replicate m (.step 1))) =
      P₂.run (ingest demoLibrary) (List.replicate m (.step 1)) := by
    rw [Pool.run, List.foldl_append]
    change Pool.run (ingest demoLibrary) (((Pool.run (ingest demoLibrary) ((Pool.init emptyStore : IngestPool).exec
      (ingest demoLibrary) (.spawn 0 demoCall)) (List.replicate n
      (.step 0))).exec (ingest demoLibrary) (.crash 0)).exec
      (ingest demoLibrary) (.spawn 1 demoCall)) (List.replicate m (.step 1)) = _
    rw [hP₁, hP₂]
  rw [hrun]
  generalize P₂.run (ingest demoLibrary) (List.replicate m (.step 1)) = P at hthread' hothers'
  have hzero : P.thread 0 = some ⟨demoCall, none⟩ := by
    rw [hothers' 0 (by decide), hthread₂, Function.update_of_ne (by decide), Function.update_self]
  have hone : P.thread 1 = some ⟨demoCall, some (.ret result₁)⟩ := by
    rw [hthread', hrun₁]
    rfl
  refine ⟨⟨_, hzero⟩, ⟨_, _, hone, hid₁⟩, ?_⟩
  rintro i ⟨c, result, hi, hid, hfresh⟩
  by_cases h0 : i = 0
  · rw [h0, hzero] at hi
    cases hi
  · by_cases h1 : i = 1
    · rw [h1, hone] at hi
      cases hi
      exact hstale hfresh
    · rw [hothers' i h1, hthread₂, Function.update_of_ne h1, Function.update_of_ne h0, hidle i h0] at hi
      cases hi

/-- One call on an empty store. -/
theorem demo_commits_once :
    Committed demoLibrary ((Pool.init emptyStore).run (ingest demoLibrary) [.spawn 0 demoCall]) :=
  ingest_commits_once plainDigest_injective demoLibrary_uuid [.spawn 0 demoCall]

end VeraMono.Ingest

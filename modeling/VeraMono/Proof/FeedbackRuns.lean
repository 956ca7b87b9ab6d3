import VeraMono.Proof.FeedbackLearner

/-!
# Runs of the feedback journal

In every run the database holds a history, and each journal on it the state of the first events
of it (`reachable_lineage`). A replay accepts the history exactly when every payload text is short
enough (`replay_iff`); a `stage` can commit one that is not (`oversized_stage`).
-/

namespace VeraMono

namespace Feedback

open Framework

variable {rt : Runtime} {cfg : Config} {w w' : World}

/-! ## Replays -/

/-- The metadata of a database are those of a journal of this configuration. -/
structure Scoped (rt : Runtime) (cfg : Config) (info : JournalMeta) : Prop where
  schema : info.schema = "1"
  project : info.projectId = projectId
  installation : info.installationId = cfg.installationId
  key : info.reviewerKeySha256 = rt.keyDigest cfg.key
  journalText : requireText "journal_id" 128 info.journalId = .ok ()
  journalId : info.journalId.length = 32 ∧ info.journalId.toList.all isLowerHex = true

variable {db : Database} {kind : String} {payload : Payload} {st : State} {now : Instant}
  {own st' : State}

theorem replay_ok {checkpoint : Option String} :
    replay rt cfg db checkpoint = .ok st ↔ Scoped rt cfg db.info ∧ db.events.length ≤ maxEvents ∧
      db.events.foldlM (replayEvent rt cfg) (State.initial rt db.info.journalId) = .ok st ∧
      ∀ head ∈ checkpoint, st.head = head := by
  unfold replay
  simp only [↓throw_bind, ite_error_ok, bind_eq_ok, not_or, not_not, not_lt, ne_eq, pure_ok]
  constructor
  · rintro ⟨⟨hschema, hproject⟩, hinstallation, hkey, ⟨⟩, htext, hid, hbound, state, hfold, hcheckpoint, rfl⟩
    refine ⟨⟨hschema, hproject, hinstallation, hkey, htext, hid⟩, hbound, hfold, ?_⟩
    rintro head rfl
    simpa using hcheckpoint
  · rintro ⟨⟨hschema, hproject, hinstallation, hkey, htext, hid⟩, hbound, hfold, hcheckpoint⟩
    refine ⟨⟨hschema, hproject⟩, hinstallation, hkey, ⟨⟩, htext, hid, hbound, st, hfold, ?_, rfl⟩
    cases checkpoint with
    | none => exact Bool.false_ne_true
    | some head => simpa using hcheckpoint head rfl

/-- A replay of a history accepts it exactly when each of its payload texts is short enough. -/
theorem replay_iff (hloads : FaithfulLoads rt) (hscoped : Scoped rt cfg db.info)
    (h : History rt cfg db.info.journalId db.events st) {st' : State} :
    replay rt cfg db none = .ok st' ↔
      (∀ row ∈ db.events, row.payloadJson.length ≤ maxPayloadText) ∧ st' = st := by
  constructor
  · intro hreplay
    obtain ⟨-, -, hfold, -⟩ := replay_ok.1 hreplay
    obtain ⟨hfits, hread⟩ := fits_of_replayed hfold
    exact ⟨hfits, Except.ok.inj (hread.symm.trans (h.recorded hloads))⟩
  · rintro ⟨hfits, rfl⟩
    exact replay_ok.2 ⟨hscoped, h.bounded, h.replayed hloads hfits, fun _ h => nomatch h⟩

theorem replay_checkpoint {head : String} :
    replay rt cfg db (some head) = .ok st ↔ replay rt cfg db none = .ok st ∧ st.head = head := by
  rw [replay_ok, replay_ok]
  constructor
  · rintro ⟨hscoped, hbound, hfold, hhead⟩
    exact ⟨⟨hscoped, hbound, hfold, fun _ h => nomatch h⟩, hhead head rfl⟩
  · rintro ⟨⟨hscoped, hbound, hfold, -⟩, rfl⟩
    refine ⟨hscoped, hbound, hfold, ?_⟩
    rintro _ ⟨⟩
    rfl

/-! ## Appending -/

theorem append_ok {db db' : Database}
    (h : append rt cfg own kind payload now db = (.ok st', db')) :
    own.eventCount < maxEvents ∧ ∃ current after, replay rt cfg db none = .ok current ∧ current.head = own.head ∧
      current.eventCount = own.eventCount ∧ applyEvent rt cfg current kind payload (some now) = .ok after ∧
      st' = after.committed (eventHash rt own.head kind payload.document) ∧
      db' = db.insert kind own.head payload.document (eventHash rt own.head kind payload.document) := by
  unfold append at h
  split at h
  · cases h
  · rename_i hcount
    dsimp only at h
    split at h
    · cases h
    · rename_i after hbody
      obtain ⟨hstate, hdb⟩ := Prod.mk.inj h
      simp only [↓throw_bind, ite_error_ok, bind_eq_ok, not_or, not_not, ne_eq] at hbody
      obtain ⟨current, hreplay, ⟨hhead, hsame⟩, hevent⟩ := hbody
      exact ⟨not_le.1 hcount, current, after, (replay_checkpoint.1 hreplay).1, hhead, hsame, hevent,
        (Except.ok.inj hstate).symm, hdb.symm⟩

theorem append_error {own : State} {db db' : Database}
    {error : LearningError} (h : append rt cfg own kind payload now db = (.error error, db')) : db' = db := by
  unfold append at h
  split at h
  · exact (Prod.mk.inj h).2.symm
  · dsimp only at h
    split at h
    · exact (Prod.mk.inj h).2.symm
    · cases h

/-! ## Runs -/

/-- The database holds a history, and each journal on it is of one of its parts. -/
structure Lineage (rt : Runtime) (cfg : Config) (w : World) : Prop where
  scope : Scoped rt cfg w.db.info
  history : ∃ st, History rt cfg w.db.info.journalId w.db.events st
  journals : ∀ i journal, w.journals i = some journal → journal.cfg = cfg ∧
    ∃ k ≤ w.db.events.length, History rt cfg w.db.info.journalId (w.db.events.take k) journal.state

theorem Lineage.commit (hloads : FaithfulLoads rt) (hw : Lineage rt cfg w)
    (h : append rt cfg own kind payload now w.db = (.ok st', db)) :
    (∀ row ∈ w.db.events, row.payloadJson.length ≤ maxPayloadText) ∧ ∃ st after,
      History rt cfg w.db.info.journalId w.db.events st ∧ st.head = own.head ∧
      applyEvent rt cfg st kind payload (some now) = .ok after ∧
      st' = after.committed (eventHash rt st.head kind payload.document) ∧
      db = { w.db with events := w.db.events ++ [rowOf rt w.db.events.length st kind payload] } ∧
      History rt cfg db.info.journalId db.events st' := by
  obtain ⟨hcount, current, after, hreplay, hhead, hsame, hevent, rfl, rfl⟩ := append_ok h
  obtain ⟨st, hst⟩ := hw.history
  obtain ⟨hfits, rfl⟩ := (replay_iff hloads hw.scope hst).1 hreplay
  rw [← hsame, hst.eventCount] at hcount
  rw [← hhead]
  exact ⟨hfits, current, after, hst, rfl, hevent, rfl, rfl, hst.appended hcount (applied hevent) hevent⟩

theorem Lineage.put (hw : Lineage rt cfg w) (i : Nat) {journal : Journal} (hcfg : journal.cfg = cfg)
    (hjournal : ∃ k ≤ w.db.events.length,
      History rt cfg w.db.info.journalId (w.db.events.take k) journal.state) : Lineage rt cfg (w.put i journal) where
  scope := hw.scope
  history := hw.history
  journals j other hj := by
    by_cases hij : j = i
    · subst hij
      simp only [World.put, Function.update_self] at hj
      cases hj
      exact ⟨hcfg, hjournal⟩
    · simp only [World.put, Function.update_of_ne hij] at hj
      exact hw.journals j other hj

theorem Lineage.extend (hw : Lineage rt cfg w) {row : EventRow}
    (hdb : db = { w.db with events := w.db.events ++ [row] })
    (h : History rt cfg db.info.journalId db.events st) : Lineage rt cfg { w with db } := by
  subst hdb
  refine ⟨hw.scope, ⟨st, h⟩, fun i journal hi => ?_⟩
  obtain ⟨hcfg, k, hk, hjournal⟩ := hw.journals i journal hi
  refine ⟨hcfg, k, ?_, ?_⟩
  · rw [List.length_append]
    exact hk.trans (Nat.le_add_right _ _)
  · rw [List.take_append_of_le_length hk]
    exact hjournal

theorem Lineage.appended (hloads : FaithfulLoads rt) (hw : Lineage rt cfg w)
    (i : Nat) (staging : Option Payload)
    (h : append rt cfg own kind payload now w.db = (.ok st', db)) :
    Lineage rt cfg (World.put { w with db } i ⟨cfg, st', staging⟩) := by
  obtain ⟨-, st, after, -, -, -, -, hdb, hhistory⟩ := hw.commit hloads h
  exact (hw.extend hdb hhistory).put i rfl ⟨db.events.length, le_rfl, by rwa [List.take_length]⟩

theorem Lineage.step (hloads : FaithfulLoads rt) (hkeys : Function.Injective rt.keyDigest) (hw : Lineage rt cfg w)
    (h : Step rt w w') : Lineage rt cfg w' := by
  cases h with
  | opened i hreplay =>
    rename_i cfg' checkpoint state
    obtain ⟨hscoped, -, hfold, -⟩ := replay_ok.1 hreplay
    have hcfg : cfg' = cfg := by
      cases cfg
      cases cfg'
      obtain rfl := hscoped.installation.symm.trans hw.scope.installation
      obtain rfl := hkeys (hscoped.key.symm.trans hw.scope.key)
      rfl
    subst hcfg
    obtain ⟨st, hst⟩ := hw.history
    obtain rfl := Except.ok.inj ((fits_of_replayed hfold).2.symm.trans (hst.recorded hloads))
    exact hw.put i rfl ⟨w.db.events.length, le_rfl, by rwa [List.take_length]⟩
  | prepared i hi hprepare =>
    obtain ⟨hcfg, hjournal⟩ := hw.journals i _ hi
    exact hw.put i hcfg hjournal
  | staged i hi hpayload happend =>
    obtain ⟨hcfg, hjournal⟩ := hw.journals i _ hi
    rw [hcfg] at happend ⊢
    exact hw.appended hloads i none happend
  | refused i hi hpayload happend =>
    obtain ⟨hcfg, hjournal⟩ := hw.journals i _ hi
    rw [append_error happend]
    exact hw.put i hcfg hjournal
  | reviewed i hi happend =>
    rename_i journal review now state db
    obtain ⟨hcfg, hjournal⟩ := hw.journals i _ hi
    rw [applyReview, hcfg] at happend
    rw [show ({ journal with state } : Journal) = ⟨cfg, state, journal.staging⟩ by rw [hcfg]]
    exact hw.appended hloads i journal.staging happend

theorem requireText_journalId {id : String} (h : id.length = 32 ∧ id.toList.all isLowerHex = true) :
    requireText "journal_id" 128 id = .ok () := by
  obtain ⟨hlength, hhex⟩ := h
  have hblank : nonblank id = true := by
    rw [← String.length_toList] at hlength
    obtain ⟨c, cs, hid⟩ := List.exists_cons_of_length_pos (by omega : 0 < id.toList.length)
    have hc : isLowerHex c = true := List.all_eq_true.1 hhex c (hid ▸ List.mem_cons_self)
    rw [nonblank, hid, List.any_cons, Bool.or_eq_true]
    refine .inl ?_
    have hrange : 48 ≤ c.toNat ∧ c.toNat ≤ 57 ∨ 97 ≤ c.toNat ∧ c.toNat ≤ 102 := by
      simp only [isLowerHex, Bool.or_eq_true, Bool.and_eq_true, decide_eq_true_eq, Char.le_def,
        UInt32.le_iff_toNat_le] at hc
      exact hc
    simp only [isWhitespace, Bool.not_eq_true', Bool.or_eq_false_iff, Bool.and_eq_false_iff,
      decide_eq_false_iff_not, beq_eq_false_iff_ne]
    omega
  rw [requireText, if_neg]
  rw [not_or, not_not, not_lt, hlength]
  exact ⟨hblank, by decide⟩

theorem reachable_lineage (hloads : FaithfulLoads rt) (hkeys : Function.Injective rt.keyDigest)
    (h : Reachable rt cfg w) : Lineage rt cfg w := by
  induction h with
  | created hcreated =>
    rename_i db
    refine ⟨⟨hcreated.schema, hcreated.project, hcreated.installation, hcreated.key,
      requireText_journalId hcreated.journalId, hcreated.journalId⟩, ⟨.initial rt db.info.journalId, ?_⟩,
      fun i journal hi => nomatch hi⟩
    rw [hcreated.events]
    exact .created
  | step _ hstep ih => exact ih.step hloads hkeys hstep

/-! ## Reading what was written -/

/-- A journal with the head of the database has the state of the database. -/
theorem Lineage.current (hloads : FaithfulLoads rt) (hsha : Function.Injective rt.sha256) (hw : Lineage rt cfg w)
    {i : Nat} {journal : Journal} (hi : w.journals i = some journal)
    (hst : History rt cfg w.db.info.journalId w.db.events st) (hhead : journal.state.head = st.head) :
    journal.state = st := by
  obtain ⟨-, k, hk, hjournal⟩ := hw.journals i journal hi
  have hlength := hjournal.length_eq hsha hst hhead
  rw [List.length_take, min_eq_left hk] at hlength
  rw [hlength, List.take_length] at hjournal
  exact hjournal.unique hloads hst

/-- In every run a replay accepts the events that were committed exactly when the text of each
payload is short enough. It then ends in the state of every journal that has its head, and in
that of the journal that commits, for which the text of the new payload decides alone. -/
theorem replay_of_run (hloads : FaithfulLoads rt) (hkeys : Function.Injective rt.keyDigest)
    (hsha : Function.Injective rt.sha256) (h : Reachable rt cfg w) :
    ((∃ st, replay rt cfg w.db none = .ok st) ↔ ∀ row ∈ w.db.events, row.payloadJson.length ≤ maxPayloadText) ∧
    ((∀ row ∈ w.db.events, row.payloadJson.length ≤ maxPayloadText) → ∀ i journal, w.journals i = some journal →
      ∀ st, replay rt cfg w.db none = .ok st → journal.state.head = st.head →
        replay rt journal.cfg w.db (some journal.state.head) = .ok journal.state) ∧
    ∀ i journal kind payload now state db, w.journals i = some journal →
      append rt journal.cfg journal.state kind payload now w.db = (.ok state, db) →
      (replay rt journal.cfg db (some state.head) = .ok state ↔
        (canonical payload.document).length ≤ maxPayloadText) := by
  have hw := reachable_lineage hloads hkeys h
  obtain ⟨st, hst⟩ := hw.history
  refine ⟨⟨?_, ?_⟩, ?_, ?_⟩
  · rintro ⟨st', hreplay⟩
    exact ((replay_iff hloads hw.scope hst).1 hreplay).1
  · exact fun hfits => ⟨st, (replay_iff hloads hw.scope hst).2 ⟨hfits, rfl⟩⟩
  · intro hfits i journal hi st' hreplay hhead
    obtain ⟨-, rfl⟩ := (replay_iff hloads hw.scope hst).1 hreplay
    rw [(hw.journals i journal hi).1, hw.current hloads hsha hi hst hhead]
    exact replay_checkpoint.2 ⟨hreplay, rfl⟩
  · intro i journal kind payload now state db hi happend
    rw [(hw.journals i journal hi).1] at happend ⊢
    obtain ⟨hfits, before, after, -, -, -, -, hdb, hhistory⟩ := hw.commit hloads happend
    have hscope : Scoped rt cfg db.info := hdb ▸ hw.scope
    rw [replay_checkpoint, and_iff_left rfl, replay_iff hloads hscope hhistory, and_iff_left rfl, hdb,
      List.forall_mem_append, and_iff_right hfits, List.forall_mem_singleton]
    rfl

/-! ## A batch that cannot be read back -/

/-- Where a replay of the journal's own state returns it and the event applies, the append commits. -/
theorem append_commits {own after : State}
    (hcount : own.eventCount < maxEvents) (hreplay : replay rt cfg db none = .ok own)
    (hevent : applyEvent rt cfg own kind payload (some now) = .ok after) :
    append rt cfg own kind payload now db =
      (.ok (after.committed (eventHash rt own.head kind payload.document)),
        db.insert kind own.head payload.document (eventHash rt own.head kind payload.document)) := by
  rw [append, if_neg (not_le.2 hcount), replay_checkpoint.2 ⟨hreplay, rfl⟩, ok_bind,
    if_neg (fun h => h.elim (fun h => h rfl) fun h => h rfl), hevent]
  rfl

theorem replay_error (hscope : Scoped rt cfg db.info) (hbound : db.events.length ≤ maxEvents)
    {e : LearningError}
    (hfold : db.events.foldlM (replayEvent rt cfg) (State.initial rt db.info.journalId) = .error e)
    (checkpoint : Option String) : replay rt cfg db checkpoint = .error e := by
  unfold replay
  simp only [hscope.schema, hscope.project, hscope.installation, hscope.key, hscope.journalText, hscope.journalId,
    ne_eq, not_true_eq_false, or_self, if_false, ok_bind, not_lt.2 hbound, hfold]
  rfl

/-- A row whose payload text is too long ends the replay of the database it was added to. -/
theorem replay_oversized (hloads : FaithfulLoads rt) (hscope : Scoped rt cfg db.info)
    (h : History rt cfg db.info.journalId db.events st) (hkind : kind ∈ "STAGE" :: actions)
    (hfits : ∀ row ∈ db.events, row.payloadJson.length ≤ maxPayloadText) (hcount : db.events.length < maxEvents)
    {prior hash : String} {payload : Json} (hlong : maxPayloadText < (canonical payload).length)
    (checkpoint : Option String) :
    replay rt cfg (db.insert kind prior payload hash) checkpoint =
      .error (.learningBlocked "journal integrity: malformed payload size") := by
  have hrow : replayEvent rt cfg st ⟨db.events.length + 1, kind, prior, canonical payload, hash⟩ =
      .error (.learningBlocked "journal integrity: malformed payload size") := by
    rw [replayEvent, if_neg (by rw [h.eventCount, not_or, not_not, not_not]; exact ⟨rfl, hkind⟩), if_pos hlong]
    rfl
  have hfold : (db.insert kind prior payload hash).events.foldlM (replayEvent rt cfg)
      (State.initial rt (db.insert kind prior payload hash).info.journalId) =
      .error (.learningBlocked "journal integrity: malformed payload size") := by
    rw [Database.insert, List.foldlM_append, h.replayed hloads hfits, ok_bind, List.foldlM_cons, hrow]
    rfl
  refine replay_error (show Scoped rt cfg (db.insert kind prior payload hash).info from hscope) ?_ hfold checkpoint
  rw [Database.insert, List.length_append, List.length_singleton]
  exact hcount

/-- A first batch whose answers are long enough is staged, and its journal is never read again. -/
theorem stage_unreadable (hloads : FaithfulLoads rt) (hsha : Function.Injective rt.sha256)
    (hcreated : Created rt cfg db) {samples : List FeedbackSample} {key : FeedbackSample → String}
    {case : HeldoutCase}
    {cue : String} (hsamples : Distinct rt samples key) (hbound : samples.length ≤ maxSamples)
    (hvalid : case.validate rt = .ok ()) (hcue : cueOf rt case.cue = .ok cue)
    (hids : case.caseId ∉ samples.map FeedbackSample.sampleId)
    (hsources : case.sourceId ∉ samples.map FeedbackSample.sourceId)
    (hanswer : ∀ row ∈ samples, row.answer = case.expected) (hmatch : ∃ row ∈ samples, cueOf rt row.cue = .ok cue)
    (hlong : maxPayloadText < (samples.map fun row => (dumpsString row.answer).length).sum) (now : Instant) :
    ∃ evidence payload state after, prepareStage rt cfg (.initial rt db.info.journalId) samples [case] db =
        .ok (evidence, payload) ∧
      append rt cfg (.initial rt db.info.journalId) "STAGE" payload now db = (.ok state, after) ∧
      ∀ checkpoint, replay rt cfg after checkpoint =
        .error (.learningBlocked "journal integrity: malformed payload size") := by
  have hscope : Scoped rt cfg db.info := ⟨hcreated.schema, hcreated.project, hcreated.installation, hcreated.key,
    requireText_journalId hcreated.journalId, hcreated.journalId⟩
  have hhistory : History rt cfg db.info.journalId db.events (.initial rt db.info.journalId) := by
    rw [hcreated.events]
    exact .created
  have hfits : ∀ row ∈ db.events, row.payloadJson.length ≤ maxPayloadText := by
    rw [hcreated.events]
    exact fun row h => absurd h List.not_mem_nil
  have hreplay := (replay_iff hloads hscope hhistory).2 ⟨hfits, rfl⟩
  have hnonempty : samples ≠ [] := by
    obtain ⟨row, hrow, -⟩ := hmatch
    exact List.ne_nil_of_mem hrow
  obtain ⟨candidate, hperm, hstage⟩ := stage_first hsha hsamples hnonempty hbound
  obtain ⟨evidence, learner, hevaluate, hqualified⟩ := evaluate_first rt
    { Learner.new rt with pending := some (hash rt (versionDocument candidate), candidate) } case
    rfl rfl version_new hvalid hcue (fun h => hids ((hperm.map _).mem_iff.1 h))
    (fun h => hsources ((hperm.map _).mem_iff.1 h)) (fun row h => ⟨_, hsamples.cue row (hperm.mem_iff.1 h)⟩)
    (fun row h => hanswer row (hperm.mem_iff.1 h))
    (by
      obtain ⟨row, hrow, hcue⟩ := hmatch
      exact ⟨row, hperm.mem_iff.2 hrow, hcue⟩)
  have hevent : applyEvent rt cfg (.initial rt db.info.journalId) "STAGE" (.stage samples [case] evidence.document)
      (some now) = .ok { State.initial rt db.info.journalId with learner, pendingEvaluation := some evidence } := by
    unfold applyEvent
    simp only [if_true]
    rw [show (State.initial rt db.info.journalId).learner = Learner.new rt from rfl, hstage, ok_bind]
    dsimp only
    rw [hevaluate, ok_bind]
    simp only [hqualified, not_true_eq_false, ne_eq, or_self, if_false]
    rfl
  have hcount : (State.initial rt db.info.journalId).eventCount < maxEvents := show 0 < maxEvents by decide
  refine ⟨evidence, .stage samples [case] evidence.document, _, _, ?_, append_commits hcount hreplay hevent,
    fun checkpoint => ?_⟩
  · unfold prepareStage
    rw [replay_checkpoint.2 ⟨hreplay, rfl⟩, ok_bind,
      show (State.initial rt db.info.journalId).learner = Learner.new rt from rfl, hstage, ok_bind]
    dsimp only
    rw [hevaluate, ok_bind]
    simp only [hqualified, not_true_eq_false, if_false]
    rfl
  · have hplain : Plain evidence.document := by
      obtain ⟨_, scores, -, -, hcases, rfl, -⟩ := evaluate_ok hevaluate
      obtain ⟨-, hpasses, hmore⟩ := qualified_iff.1 hqualified
      exact plain_evaluation hcases ((hmore.le.trans hpasses.le).trans hcases) (hpasses.le.trans hcases)
    refine replay_oversized hloads hscope hhistory List.mem_cons_self hfits ?_
      (hlong.trans_le (stage_text_length samples [case] hplain)) checkpoint
    rw [hcreated.events]
    decide

/-! ## The runtime of the examples -/

mutual

/-- The document that a value without floats is. -/
def documentOf : PyValue → Option Json
  | .none => some .null
  | .bool b => some (.bool b)
  | .int i => some (.int i)
  | .str (.valid s) => some (.str s)
  | .list items => (itemsOf items).map .arr
  | .dict entries => (entriesOf entries).map .obj
  | _ => none

def itemsOf : List PyValue → Option (List Json)
  | [] => some []
  | item :: items => (documentOf item).bind fun j => (itemsOf items).map (j :: ·)

def entriesOf : List (PyValue × PyValue) → Option (List (String × Json))
  | [] => some []
  | (.str (.valid k), item) :: entries => (documentOf item).bind fun j => (entriesOf entries).map ((k, j) :: ·)
  | _ :: _ => none

end

mutual

theorem documentOf_toPy : ∀ j : Json, documentOf j.toPy = some j
  | .null | .bool _ | .int _ | .str _ => rfl
  | .arr items => by rw [Json.toPy, documentOf, itemsOf_toPy items]; rfl
  | .obj entries => by rw [Json.toPy, documentOf, entriesOf_toPy entries]; rfl

theorem itemsOf_toPy : ∀ js : List Json, itemsOf (Json.toPyItems js) = some js
  | [] => rfl
  | j :: js => by rw [Json.toPyItems, itemsOf, documentOf_toPy j, itemsOf_toPy js]; rfl

theorem entriesOf_toPy : ∀ es : List (String × Json), entriesOf (Json.toPyEntries es) = some es
  | [] => rfl
  | (k, j) :: es => by rw [Json.toPyEntries, entriesOf, documentOf_toPy j, entriesOf_toPy es]; rfl

end

/-- A text of one character. -/
def repeated (n : Nat) (c : Char) : String := String.ofList (List.replicate n c)

/-- A runtime whose hash keeps the text, and whose reviewer signs with zeros. -/
def demoRuntime : Runtime where
  casefold text := text
  sha256 text := "sha256:" ++ text
  keyDigest key := String.ofList (key.map fun b => Char.ofNat b.toNat)
  verify _ signature _ := signature = repeated 128 '0'
  loads text := (jsonLoads (defaultHooks fun _ => none) text).toOption.bind documentOf

theorem demoRuntime_loads : FaithfulLoads demoRuntime := fun j hj => by
  simp only [demoRuntime]
  rw [jsonLoads_dumps (defaultHooks_keepsEntries _) hj]
  exact documentOf_toPy j

theorem demoRuntime_sha256 : Function.Injective demoRuntime.sha256 := fun s t h => by
  have hlist := congrArg String.toList h
  simp only [demoRuntime, String.toList_append] at hlist
  exact String.toList_injective (List.append_cancel_left hlist)

theorem demoRuntime_keyDigest : Function.Injective demoRuntime.keyDigest := fun k l h => by
  refine List.map_injective_iff.2 (fun a b hab => ?_) (String.ofList_injective h)
  have hvalid (b : UInt8) : Nat.isValidChar b.toNat := .inl (b.toNat_lt.trans (by decide))
  have hnat (b : UInt8) : (Char.ofNat b.toNat).toNat = b.toNat := by
    rw [Char.ofNat, dif_pos (hvalid b)]
    rfl
  exact UInt8.toNat_inj.1 ((hnat a).symm.trans ((congrArg Char.toNat hab).trans (hnat b)))

def demoConfig : Config := ⟨"installation", [1]⟩

/-- A new journal file. -/
def demoDatabase : Database where
  info := ⟨"1", projectId, "installation", repeated 32 '0', demoRuntime.keyDigest [1]⟩
  events := []

theorem demoDatabase_created : Created demoRuntime demoConfig demoDatabase :=
  ⟨rfl, rfl, rfl, rfl, by decide, rfl⟩

theorem replay_of_new_journal : ((∃ st, replay demoRuntime demoConfig demoDatabase none = .ok st) ↔
      ∀ row ∈ demoDatabase.events, row.payloadJson.length ≤ maxPayloadText) :=
  (replay_of_run demoRuntime_loads demoRuntime_keyDigest demoRuntime_sha256 (.created demoDatabase_created)).1

/-! ## A batch of fifty long answers -/

theorem length_repeated (n : Nat) (c : Char) : (repeated n c).length = n := by
  rw [repeated, String.length_ofList, List.length_replicate]

theorem nonblank_repeated (n : Nat) {c : Char} (hc : isWhitespace c = false) :
    nonblank (repeated (n + 1) c) = true := by
  rw [nonblank, repeated, String.toList_ofList, List.replicate_succ, List.any_cons, hc]
  rfl

theorem dumpsString_repeated (n : Nat) (c : Char) :
    (dumpsString (repeated n c)).length = n * (escapeChar c).length + 2 := by
  rw [dumpsString, repeated, String.toList_ofList, List.length_cons, List.length_append, List.length_flatMap,
    List.map_replicate, List.sum_replicate_nat]
  rfl

/-- An answer at its bound, of a control character that a document spells with six. -/
def longAnswer : String := repeated 1024 (Char.ofNat 1)

def cueAt (i : Nat) : String := String.singleton (Char.ofNat (0x4E00 + i))

def sampleAt (i : Nat) : FeedbackSample :=
  ⟨cueAt i, "samples", cueAt i, longAnswer, "consent", "privacy", "provenance"⟩

def longBatch : List FeedbackSample := (List.range 50).map sampleAt

def heldout : HeldoutCase := ⟨"case", "holdout", cueAt 0, longAnswer⟩

theorem cueAt_distinct : ((List.range 50).map cueAt).Nodup := by decide

theorem cueAt_plain : ∀ i ∈ List.range 50, nonblank (cueAt i) = true ∧ strip (cueAt i).toList = (cueAt i).toList := by
  decide

theorem bounded_ok {name value : String} {limit : Nat} (hblank : nonblank value = true)
    (hlength : value.length ≤ limit) : bounded name limit value = .ok value := by
  rw [bounded, if_neg (by rw [not_or, not_not, not_lt]; exact ⟨hblank, hlength⟩)]

theorem cueOf_cueAt {i : Nat} (hi : i ∈ List.range 50) : cueOf demoRuntime (cueAt i) = .ok (cueAt i) := by
  obtain ⟨hblank, hstrip⟩ := cueAt_plain i hi
  rw [cueOf, bounded_ok hblank (by rw [cueAt, String.length_singleton]; decide), Except.map, hstrip,
    String.ofList_toList]
  rfl

theorem bounded_longAnswer (name : String) : bounded name 1024 longAnswer = .ok longAnswer :=
  bounded_ok (nonblank_repeated 1023 (by decide)) (length_repeated 1024 _).le

theorem longBatch_distinct : Distinct demoRuntime longBatch FeedbackSample.cue where
  valid row hrow := by
    obtain ⟨i, hi, rfl⟩ := List.mem_map.1 hrow
    have hid : bounded "sample_id" 256 (cueAt i) = .ok (cueAt i) :=
      bounded_ok (cueAt_plain i hi).1 (by rw [cueAt, String.length_singleton]; decide)
    simp only [FeedbackSample.validate, sampleAt, hid, cueOf_cueAt hi, bounded_longAnswer]
    rfl
  cue row hrow := by
    obtain ⟨i, hi, rfl⟩ := List.mem_map.1 hrow
    exact cueOf_cueAt hi
  ids := by
    rw [longBatch, List.map_map]
    exact cueAt_distinct
  keys := by
    rw [longBatch, List.map_map]
    exact cueAt_distinct

theorem longAnswer_text : (dumpsString longAnswer).length = 6146 :=
  (dumpsString_repeated 1024 (Char.ofNat 1)).trans (by decide)

theorem longBatch_text : (longBatch.map fun row => (dumpsString row.answer).length).sum = 50 * 6146 := by
  have hrows : ∀ row ∈ longBatch, (dumpsString row.answer).length = 6146 := fun row hrow => by
    obtain ⟨i, -, rfl⟩ := List.mem_map.1 hrow
    exact longAnswer_text
  rw [List.map_congr_left hrows, List.map_const', List.sum_replicate_nat, longBatch, List.length_map,
    List.length_range]

def demoNow : Instant := ⟨1767225600, by decide⟩

/-- `stage` commits fifty answers at their bound with one held-out case, and no replay of the
journal accepts the event. -/
theorem long_batch_unreadable : ∃ evidence payload state after,
    prepareStage demoRuntime demoConfig (.initial demoRuntime demoDatabase.info.journalId) longBatch [heldout]
      demoDatabase = .ok (evidence, payload) ∧
    append demoRuntime demoConfig (.initial demoRuntime demoDatabase.info.journalId) "STAGE" payload demoNow
      demoDatabase = (.ok state, after) ∧
    ∀ checkpoint, replay demoRuntime demoConfig after checkpoint =
      .error (.learningBlocked "journal integrity: malformed payload size") := by
  have hlong : maxPayloadText < (longBatch.map fun row => (dumpsString row.answer).length).sum := by
    rw [longBatch_text]
    decide
  have hbound : longBatch.length ≤ maxSamples := by
    rw [longBatch, List.length_map, List.length_range]
    decide
  have hcue : cueOf demoRuntime (cueAt 0) = .ok (cueAt 0) := cueOf_cueAt (List.mem_range.2 (by decide))
  have hvalid : heldout.validate demoRuntime = .ok () := by
    simp only [HeldoutCase.validate, heldout, hcue, bounded_longAnswer]
    rfl
  have hids : heldout.caseId ∉ longBatch.map FeedbackSample.sampleId := by
    rw [longBatch, List.map_map]
    decide
  have hsources : heldout.sourceId ∉ longBatch.map FeedbackSample.sourceId := by
    rw [longBatch, List.map_map]
    decide
  have hanswer : ∀ row ∈ longBatch, row.answer = heldout.expected := fun row hrow => by
    obtain ⟨i, -, rfl⟩ := List.mem_map.1 hrow
    rfl
  have hmem : sampleAt 0 ∈ longBatch := List.mem_map.2 ⟨0, List.mem_range.2 (by decide), rfl⟩
  exact stage_unreadable demoRuntime_loads demoRuntime_sha256 demoDatabase_created longBatch_distinct hbound hvalid
    hcue hids hsources hanswer ⟨sampleAt 0, hmem, hcue⟩ hlong demoNow

end Feedback

end VeraMono

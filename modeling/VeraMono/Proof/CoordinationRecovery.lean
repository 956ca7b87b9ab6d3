import VeraMono.Proof.LiveDispatch

/-!
# What the recovery of a command finds

`assess_command` reads the journal of commands and the fence. The journal gets a result only from
a thread that ran the bus method itself before (`JournalsRun`), and its bindings name the effect
of their command (`bound`); the fence has no row of an effect that no thread has reserved.
-/

namespace VeraMono

open Framework Transition

variable {D : Type}

/-! ## The promise of a call -/

def Started (effectId : String) (h : Moved D) : Prop := ∃ m ∈ h, Starts effectId m

section Promise
variable [DecidableEq D] (R : Runtime D)

/-- The result of a command is that of this call: the digest is that of the value its
bus method returned, the rest is what the receipt of that value says. -/
structure ResultOf (c : InvokeArgs D) (r : CommandResult D) : Prop where
  commandId : r.commandId = c.commandId
  digest : ∃ authority value, c.execute = .ok value ∧
    resultDigest R (coordinationDispatch c authority) value = .ok r.resultDigest
  receipt : c.receipt = some ⟨r.resultClass, r.databaseWriteConfirmed, r.eventId, r.eventSequence⟩

/-- A result that a call adds is its own, after its own start of the bus method, and
a binding it adds names the effect of its command. -/
def JournalsRun (c : FenceCall D) (h : Moved D) (s : VeraState D) : Transition D → Prop
  | .commands j =>
    (∀ r ∈ j.results.rows, r ∈ s.commands.results.rows ∨
      ∃ a, c = .call (.invoke a) ∧ ResultOf R a r ∧ Started ("coordination:" ++ a.commandId) h) ∧
    ∀ b ∈ j.bindings.rows, b ∈ s.commands.bindings.rows ∨ b.effectId = "coordination:" ++ b.commandId
  | _ => True

/-- The promise of every call: `JournalsRun`. Nothing is assumed of the others. -/
def recordDiscipline : Discipline Lock (VeraState D) (FenceCall D) where
  inv _ := True
  rely _ _ _ _ _ := True
  guar c h _ s s' := ∃ t, t.Does R s s' ∧ JournalsRun R c h s t

end Promise

/-- A transition that leaves the command journal alone. -/
def Apart (t : Transition D) : Prop := ∀ j, t ≠ .commands j

section Journal
variable [DecidableEq D] {H : Hashing D} {j j' : CommandJournal D}

theorem CommandJournal.writeMeta_tables (h : CommandJournal.writeMeta H j = .ok j') :
    j'.bindings = j.bindings ∧ j'.results = j.results := by
  simp only [CommandJournal.writeMeta, bind_eq_ok] at h
  obtain ⟨_, -, h⟩ := h
  cases h
  exact ⟨rfl, rfl⟩

theorem CommandJournal.bind_ok {b b' : CommandBinding D}
    (h : CommandJournal.bind H b j = .ok (b', j')) :
    j'.results = j.results ∧ ∀ x ∈ j'.bindings.rows, x ∈ j.bindings.rows ∨ x = b := by
  rw [CommandJournal.bind] at h
  split at h
  · split at h
    · cases h
    · cases h
      exact ⟨rfl, fun _ => .inl⟩
  · rename_i hnone
    split at h
    · cases h
    · obtain ⟨j'', hj, heq⟩ := map_eq_ok.1 h
      cases heq
      obtain ⟨hb, hr⟩ := CommandJournal.writeMeta_tables hj
      refine ⟨hr, fun x hx => ?_⟩
      rw [hb, Table.rows_insert hnone, List.mem_append, List.mem_singleton] at hx
      exact hx

theorem CommandJournal.recordResult_ok {r r' : CommandResult D}
    (h : CommandJournal.recordResult H r j = .ok (r', j')) :
    j'.bindings = j.bindings ∧ ∀ x ∈ j'.results.rows, x ∈ j.results.rows ∨ x = r := by
  rw [CommandJournal.recordResult] at h
  split at h
  · split at h
    · cases h
    · cases h
      exact ⟨rfl, fun _ => .inl⟩
  · rename_i hnone
    split at h
    · cases h
    · obtain ⟨j'', hj, heq⟩ := map_eq_ok.1 h
      cases heq
      obtain ⟨hb, hr⟩ := CommandJournal.writeMeta_tables hj
      refine ⟨hb, fun x hx => ?_⟩
      rw [hr, Table.rows_insert hnone, List.mem_append, List.mem_singleton] at hx
      exact hx

end Journal

section Invoke
variable {R : Runtime D} {c : FenceCall D} {held : Finset Lock} {α : Type} {effectId : String}
  {T : Transition D → Prop} {p : Op D α}

theorem Started.cons {h : Moved D} {m : Move Lock (VeraState D)} (hs : Started effectId h) :
    Started effectId (m :: h) :=
  have ⟨m', hm, hs⟩ := hs
  ⟨m', List.mem_cons_of_mem _ hm, hs⟩

variable [DecidableEq D]

variable {args : DispatchArgs D} {t : Transition D}

omit [DecidableEq D] in
theorem journalsRun_of_apart {h : Moved D} {s : VeraState D} (ht : Apart t) :
    JournalsRun R c h s t := by
  cases t with
  | commands j => exact absurd rfl (ht j)
  | _ => trivial

omit [DecidableEq D] in
theorem apart_within {P : Moved D → Prop} (hP : ∀ m h, P h → P (m :: h)) (hp : Within R Apart p) :
    Triple ((recordDiscipline R).contract c) held (fun h _ => P h) p fun _ h _ => P h :=
  .segment (.hist P) hp fun _ _ _ _ hh ⟨t, ht, hd⟩ =>
    ⟨trivial, ⟨t, hd, journalsRun_of_apart ht⟩, hP _ _ hh⟩

/-- The effect ran in this thread and what it returned has the digest. -/
def Ran (R : Runtime D) (args : DispatchArgs D) (digest : D) (h : Moved D) : Prop :=
  Started args.effectId h ∧
    ∃ value, args.execute = .ok value ∧ resultDigest R args value = .ok digest

omit [DecidableEq D] in
theorem Ran.cons {digest : D} (m : Move Lock (VeraState D)) (h : Moved D)
    (hr : Ran R args digest h) : Ran R args digest (m :: h) := ⟨hr.1.cons, hr.2⟩

/-- An assertion about the value a program returns. -/
def Returns (P : α → Moved D → Prop) (r : Except Failure α) (h : Moved D) (_ : VeraState D) : Prop :=
  ∀ a, r = .ok a → P a h

omit [DecidableEq D] in
theorem execute_ran :
    Triple ((recordDiscipline R).contract c) held (fun _ _ => True) (execute args)
      (Returns fun value h => Started args.effectId h ∧ args.execute = .ok value) := by
  have hemit {P A : Moved D → Prop} {e : WorldEvent D}
      (hP : ∀ h s, P h → A (⟨.act, s, { s with world := e :: s.world }⟩ :: h)) :
      Triple ((recordDiscipline R).contract c) held (fun h _ => P h) (Op.emit e)
        fun _ h _ => A h := by
    refine .txn (.hist P) (fun _ => .hist A) (fun h s _ s' _ hh hr => ?_) fun _ _ _ _ _ hr => nomatch hr
    cases hr
    exact ⟨trivial, ⟨.world e, ⟨trivial, rfl⟩, trivial⟩, hP h s hh⟩
  refine .bind (hemit (A := Started args.effectId) fun h s _ => ⟨_, List.mem_cons_self, rfl⟩)
    (fun _ => ?_) fun _ _ _ _ _ _ => nofun
  cases hx : args.execute with
  | ok value =>
    refine .bind (hemit fun _ _ hh => hh.cons) (fun _ => .pure (.hist fun h => _) ?_)
      fun _ _ _ _ _ _ => nofun
    rintro h s - hh v ⟨⟩
    exact ⟨hh, rfl⟩
  | error e =>
    exact .bind (hemit (A := fun _ => True) fun _ _ _ => trivial)
      (fun _ => .throw (.hist fun h => _) fun _ _ _ _ _ => nofun) fun _ _ _ _ _ _ => nofun

omit [DecidableEq D] in
theorem apart_of_records (ht : records effectId t) : Apart t := by
  rintro j rfl
  exact ht

theorem runEffect_ran :
    Triple ((recordDiscipline R).contract c) held (fun _ _ => True) (runEffect R args)
      (Returns fun result => Ran R args result.2) := by
  have hrest {β : Type} {p : Op D β} (hp : Within R (records args.effectId) p) :
      Triple ((recordDiscipline R).contract c) held (fun _ _ => True) p fun _ _ _ => True :=
    apart_within (fun _ _ => id) (.mono (fun _ => apart_of_records) hp)
  refine .tryCatch (Q := Returns fun result => Ran R args result.2) (.bind execute_ran (fun value =>
    .bind (Q := Returns fun digest => Ran R args digest) (.ofExcept (.hist fun h => _) ?_)
    (fun digest => .pure (.hist fun h => _) ?_) fun _ _ _ _ _ => nofun) fun _ _ _ _ _ => nofun)
    (fun e => ?_) fun _ _ _ _ => id
  · rintro h s - hh digest hd
    obtain ⟨hs, hx⟩ := hh value rfl
    exact ⟨hs, value, hx, hd⟩
  · rintro h s - hh _ ⟨⟩
    exact hh digest rfl
  · refine .conseq (A := fun _ _ => True) (.bind (hrest settle_records) (fun unknown =>
      .bind (hrest (stage_within rfl)) (fun _ => .throw (Q := Returns _) (.hist fun h => _) ?_)
        fun _ _ _ _ _ => nofun) fun _ _ _ _ _ => nofun) (fun _ _ _ _ => trivial) fun _ _ _ _ => id
    exact fun _ _ _ _ => nofun

theorem claimDispatch_records {cut : EffectFence.EvidenceCut D} :
    Within R (records effectId) (claimDispatch effectId cut) :=
  claimDispatch_within trivial (fun _ h => h) fun _ r' (h : r'.state = .executing) =>
    show r'.state.reconciled = false by rw [h]; rfl

theorem dispatchLocked_ran {requestDigest : D} :
    Triple ((recordDiscipline R).contract c) held (fun _ _ => True)
      (dispatchLocked R args requestDigest) (Returns fun result => Ran R args result.resultDigest) := by
  have hrest {β : Type} {P : Moved D → Prop} (hP : ∀ m h, P h → P (m :: h)) {p : Op D β}
      (hp : Within R (records args.effectId) p) :
      Triple ((recordDiscipline R).contract c) held (fun h _ => P h) p fun _ h _ => P h :=
    apart_within hP (.mono (fun _ => apart_of_records) hp)
  have hfree {β : Type} {p : Op D β} := hrest (β := β) (P := fun _ => True) (fun _ _ => id) (p := p)
  refine .bind (hfree reserveEffect_within) (fun cut => .bind (hfree validate_within) (fun _ =>
    .bind (hfree claimDispatch_records) (fun executing => .bind (hfree (stage_within rfl))
    (fun _ => .bind runEffect_ran (fun result => ?_) fun _ _ _ _ _ => nofun) fun _ _ _ _ _ => nofun)
    fun _ _ _ _ _ => nofun) fun _ _ _ _ _ => nofun) fun _ _ _ _ _ => nofun
  refine .conseq (A := fun h _ => Ran R args result.2 h) (.bind (hrest Ran.cons settle_records)
    (fun committed => .bind (hrest Ran.cons (stage_within rfl)) (fun _ =>
      .pure (Q := Returns _) (.hist fun h => _) ?_) fun _ _ _ _ _ => nofun) fun _ _ _ _ _ => nofun)
    (fun _ _ _ hh => hh result rfl) fun _ _ _ _ => id
  rintro h s - hh _ ⟨⟩
  exact hh

/-- A dispatch of the coordination gateway ran its effect itself when it returns. -/
theorem dispatchVerified_ran :
    Triple ((recordDiscipline R).contract c) ∅ (fun _ _ => True) (dispatchVerified R false args)
      (Returns fun result => Ran R args result.resultDigest) := by
  refine .guard (.hist fun h => _) (fun _ _ _ _ _ _ => nofun) fun _ => .guard (.hist fun h => _)
    (fun _ _ _ _ _ _ => nofun) fun _ => .bind (Q := fun _ _ _ => True)
    (.ofExcept (.hist fun _ => True) fun _ _ _ _ => trivial) (fun d => ?_) fun _ _ _ _ _ => nofun
  exact .withLock (A := fun _ _ => True) (by decide) (.hist fun _ => True)
    (fun r => .hist fun h => ∀ result, r = .ok result → Ran R args result.resultDigest h)
    (fun _ _ _ _ => trivial) dispatchLocked_ran
    (fun _ _ _ _ hr result hok => (hr result hok).cons _ _) fun _ _ _ _ => nofun

theorem bindCommand_journals {args : InvokeArgs D} {binding : CommandBinding D}
    (hb : binding.effectId = "coordination:" ++ binding.commandId) :
    Triple ((recordDiscipline R).contract c) ∅ (fun _ _ => True) (bindCommand R args binding)
      fun _ _ _ => True := by
  have hlift {β : Type} (r : Except Failure β) :
      Triple ((recordDiscipline R).contract c) ∅ (fun _ _ => True) (Op.lift r) fun _ _ _ => True :=
    .ofExcept (.hist fun _ => True) fun _ _ _ _ => trivial
  refine Triple.seq (Q := fun _ _ _ => True) ?_ fun _ => .seq (hlift _) fun _ => .seq (hlift _)
    fun _ => .part _ (fun (s : VeraState D) j => { s with commands := j }) (.hist fun _ => True) (fun _ => .hist fun _ => True)
    (fun h s a j _ _ hj => ?_) fun h s e _ _ _ => ?_
  · exact apart_within (fun _ _ => id) (.readOnly (fun _ => nofun) verifyIntegrity_readOnly)
  · obtain ⟨hres, hbind⟩ := CommandJournal.bind_ok hj
    refine ⟨trivial, ⟨.commands j, ⟨trivial, rfl⟩, fun r hr => .inl (hres ▸ hr), fun b hmem => ?_⟩, trivial⟩
    rcases hbind b hmem with hold | rfl
    · exact .inl hold
    · exact .inr hb
  · exact ⟨⟨.idle, ⟨trivial, rfl⟩, trivial⟩, trivial⟩

theorem recordResult_journals {args : InvokeArgs D} {receipt : CommandReceipt} {authority digest : D}
    (hc : c = .call (.invoke args)) (hreceipt : args.receipt = some receipt) :
    Triple ((recordDiscipline R).contract c) ∅
      (fun h _ => Ran R (coordinationDispatch args authority) digest h)
      (recordResult R args receipt digest) fun _ _ _ => True := by
  have hkeep {β : Type} {p : Op D β} (hp : Within R Apart p) :
      Triple ((recordDiscipline R).contract c) ∅
        (fun h _ => Ran R (coordinationDispatch args authority) digest h) p
        fun _ h _ => Ran R (coordinationDispatch args authority) digest h :=
    apart_within Ran.cons hp
  have hlift {β : Type} (r : Except Failure β) := hkeep (Within.lift (T := Apart) r)
  refine Triple.seq (hkeep (.readOnly (fun _ => nofun) verifyIntegrity_readOnly)) fun _ =>
    .seq (hkeep (.readM (fun _ => nofun) _)) fun binding => .seq (hlift _) fun _ => ?_
  refine .guard (.hist fun _ => True) (fun _ _ _ _ _ => trivial) fun _ => .guard (.hist fun _ => True)
    (fun _ _ _ _ _ => trivial) fun _ => .part _ (fun (s : VeraState D) j => { s with commands := j }) (.hist fun h => _)
    (fun _ => .hist fun _ => True) (fun h s a j _ hran hj => ?_) fun h s e _ _ _ => ?_
  · obtain ⟨hbind, hres⟩ := CommandJournal.recordResult_ok hj
    refine ⟨trivial, ⟨.commands j, ⟨trivial, rfl⟩, fun r hr => ?_, fun b hb => .inl (hbind ▸ hb)⟩, trivial⟩
    rcases hres r hr with hold | rfl
    · exact .inl hold
    · obtain ⟨hs, value, hx, hd⟩ := hran
      exact .inr ⟨args, hc, ⟨rfl, ⟨authority, value, hx, hd⟩, hreceipt⟩, hs⟩
  · exact ⟨⟨.idle, ⟨trivial, rfl⟩, trivial⟩, trivial⟩

theorem invoke_journals {args : InvokeArgs D} (hc : c = .call (.invoke args)) :
    Triple ((recordDiscipline R).contract c) ∅ (fun _ _ => True) (invoke R args) fun _ _ _ => True := by
  have hlift {β : Type} (r : Except Failure β) :
      Triple ((recordDiscipline R).contract c) ∅ (fun _ _ => True) (Op.lift r) fun _ _ _ => True :=
    .ofExcept (.hist fun _ => True) fun _ _ _ _ => trivial
  refine .guard (.hist fun _ => True) (fun _ _ _ _ _ => trivial) fun _ => .seq (hlift _) fun _ =>
    .seq (hlift _) fun _ => .seq (hlift _) fun _ => .seq (hlift _) fun _ => .seq (hlift _) fun _ =>
    .seq (bindCommand_journals rfl) fun _ => .seq dispatchVerified_ran fun result => ?_
  cases hr : args.receipt with
  | none => exact .throw (.hist fun _ => True) fun _ _ _ _ => trivial
  | some receipt =>
    exact .conseq (.seq (recordResult_journals hc hr) fun _ => .pure (.hist fun _ => True) fun _ _ _ _ => trivial)
      (fun _ _ _ hran => hran result rfl) fun _ _ _ _ => id

/-! ## The run -/

omit [DecidableEq D] in
theorem apart_of_makes {c : Call D} (hi : ¬ ∃ args, c = .invoke args)
    (ht : c.makes t) : Apart t := by
  rintro j rfl
  cases c with
  | invoke args => exact hi ⟨args, rfl⟩
  | cancelReservedCommand | resumeContext | reconstruct => exact ht.elim id id
  | admitRecord | replaceControlSource => rcases ht with ht | ht <;> simp at ht
  | validateActionPermit => cases ht
  | _ => exact ht

theorem fenceProgram_journals (c : FenceCall D) (s : VeraState D) :
    Safe ((recordDiscipline R).contract c) (fun _ _ _ _ => True) (fenceProgram R c) ∅ [] s := by
  have hsafe {p : Op D (Reply D)}
      (hp : Triple ((recordDiscipline R).contract c) ∅ (fun _ _ => True) p fun _ _ _ => True) :
      Safe ((recordDiscipline R).contract c) (fun _ _ _ _ => True) p ∅ [] s :=
    (hp [] s trivial trivial).mono trivial fun _ _ _ _ _ _ => trivial
  have hfence {p : Op D (EffectReceipt D)} (hp : Within R Apart p) :
      Safe ((recordDiscipline R).contract c) (fun _ _ _ _ => True) (p.map Reply.receipt) ∅ [] s :=
    hsafe (apart_within (fun _ _ => id) (hp.map _))
  cases c with
  | settle effectId result known => exact hfence (settle_within (fun _ => nofun) fun _ _ _ _ => nofun)
  | reconcileUnknown effectId occurred result evidence =>
    refine hfence (onFence_within (fun _ => nofun) fun s r t' h => ?_)
    obtain ⟨row, -, -, -, hd⟩ := reconcile_does h
    exact ⟨.advance row _, fun _ => nofun, hd⟩
  | call c =>
    by_cases hi : ∃ args, c = .invoke args
    · obtain ⟨args, rfl⟩ := hi
      exact hsafe (((invoke_journals rfl).map _).conseq (fun _ _ _ => id) fun _ _ _ _ _ => trivial)
    refine (Safe.of_locked (program_locked c) (fun _ _ _ _ _ ⟨t, ht, _, hd⟩ => ?_) trivial).mono
      trivial fun _ _ _ _ _ _ => trivial
    exact ⟨trivial, t, hd, journalsRun_of_apart (apart_of_makes hi ht)⟩

theorem recordPool_sound (d : D) (es : List (Event (FenceCall D))) :
    Sound (recordDiscipline R) (fun _ _ _ _ _ => True) (VeraState.initial R.hash d)
      (FencePool.run R d es) :=
  (Sound.init trivial).run
    { spawn := fun c s _ => fenceProgram_journals c s, rely := fun _ _ _ _ => trivial } es

end Invoke

section Trace
variable [DecidableEq D] {R : Runtime D} {s₀ s : VeraState D}
  {trace : List (Step Lock (VeraState D) (FenceCall D))}

omit [DecidableEq D] in
theorem commands_eq_of_apart {t : Transition D} {s s' : VeraState D} (hd : t.Does R s s')
    (ht : Apart t) : s'.commands = s.commands := by
  rw [hd.eq]
  cases t with
  | commands j => exact absurd rfl (ht j)
  | _ => rfl

omit [DecidableEq D] in
/-- A binding of the journal names the effect of its command. -/
theorem bound (h : Valid (recordDiscipline R) s₀ trace s) (h₀ : s₀.commands.bindings.rows = []) :
    ∀ b ∈ s.commands.bindings.rows, b.effectId = "coordination:" ++ b.commandId := by
  induction h with
  | init =>
    rw [h₀]
    exact fun _ hb => nomatch hb
  | lock _ _ _ _ _ ih => exact ih
  | act i c _ _ hg ih =>
    obtain ⟨t, hd, hj⟩ := hg
    by_cases ht : Apart t
    · rw [commands_eq_of_apart hd ht]
      exact ih
    · obtain ⟨j, rfl⟩ : ∃ j, t = .commands j := by simpa [Apart] using ht
      rw [hd.eq]
      exact fun b hb => (hj.2 b hb).elim (ih b) id

/-- The step at which a result was recorded and the start of its bus method, which the
same thread made. -/
def RecordedIn (R : Runtime D) (trace : List (Step Lock (VeraState D) (FenceCall D)))
    (r : CommandResult D) : Prop :=
  ∃ st ∈ trace, ∃ a, st.call = .call (.invoke a) ∧ ResultOf R a r ∧
    ∃ start ∈ trace, start.thread = st.thread ∧ Starts ("coordination:" ++ r.commandId) start.move

omit [DecidableEq D] in
theorem RecordedIn.cons {r : CommandResult D} (st : Step Lock (VeraState D) (FenceCall D))
    (h : RecordedIn R trace r) : RecordedIn R (st :: trace) r :=
  have ⟨st', hst, a, hc, hres, start, hstart, hs⟩ := h
  ⟨st', List.mem_cons_of_mem _ hst, a, hc, hres, start, List.mem_cons_of_mem _ hstart, hs⟩

omit [DecidableEq D] in
theorem recorded (h : Valid (recordDiscipline R) s₀ trace s) (h₀ : s₀.commands.results.rows = []) :
    ∀ r ∈ s.commands.results.rows, RecordedIn R trace r := by
  induction h with
  | init =>
    rw [h₀]
    exact fun _ hr => nomatch hr
  | lock _ _ _ _ _ ih => exact fun r hr => (ih r hr).cons _
  | act i c _ _ hg ih =>
    obtain ⟨t, hd, hj⟩ := hg
    by_cases ht : Apart t
    · rw [commands_eq_of_apart hd ht]
      exact fun r hr => (ih r hr).cons _
    · obtain ⟨j, rfl⟩ : ∃ j, t = .commands j := by simpa [Apart] using ht
      rw [hd.eq]
      intro r hr
      rcases hj.1 r hr with hold | ⟨a, rfl, hres, m, hm, hs⟩
      · exact (ih r hold).cons _
      · obtain ⟨start, hstart, hthread, rfl⟩ := mem_hist.1 hm
        exact ⟨_, List.mem_cons_self, a, rfl, hres, start, List.mem_cons_of_mem _ hstart, hthread,
          hres.commandId ▸ hs⟩

end Trace

/-! ## The assessment -/

section Assessment
variable [DecidableEq D] {R : Runtime D} {commandId : String} {consistent : Bool}
  {a : CommandRecoveryAssessment D} {s s' : VeraState D}

omit [DecidableEq D] in
theorem run_readM_ok {α : Type} {f : VeraState D → Except Failure α} {a : α}
    (h : (Prog.readM f : Op D α).run s = (.ok a, s')) : f s = .ok a := by
  rw [Prog.run_readM] at h
  exact congrArg Prod.fst h

theorem readBinding_ok {H : Hashing D} {j : CommandJournal D} {binding : CommandBinding D}
    (h : CommandJournal.readBinding H commandId j = .ok binding) :
    j.bindings.get? commandId = some binding := by
  rw [CommandJournal.readBinding] at h
  split at h
  · cases h
  · split at h
    · cases h
    · cases h
      assumption

theorem readResultRow_ok {H : Hashing D} {j : CommandJournal D} {binding : CommandBinding D}
    {result : Option (CommandResult D)}
    (h : CommandJournal.readResultRow H binding j = .ok result) :
    j.results.get? binding.commandId = result := by
  rw [CommandJournal.readResultRow] at h
  split at h
  · cases h
    assumption
  · split at h
    · cases h
    · cases h
      assumption

/-- An assessment is made of the binding, the result and the fence row it reads. -/
theorem assessCommand_ok (h : (assessCommand R commandId consistent).run s = (.ok a, s')) :
    ∃ binding result current, s.commands.bindings.get? commandId = some binding ∧
      s.commands.results.get? commandId = result ∧
      a = assessment binding result (s.fence.get? binding.effectId) current consistent := by
  obtain ⟨_, -, h⟩ := Prog.run_readOnly_bind verifyIntegrity_readOnly h
  obtain ⟨binding, hb, h⟩ := Prog.run_readOnly_bind (.readM _) h
  obtain ⟨result, hr, h⟩ := Prog.run_readOnly_bind
    (Prog.All.bind (Prog.ReadOnly.readM _) fun _ => Prog.ReadOnly.readM _) h
  obtain ⟨_, -, h⟩ := Prog.run_readOnly_bind (OutboundExecutionAudit.verifyFenceConsistency_readOnly _ _) h
  obtain ⟨_, ⟨⟩, h⟩ := Prog.run_readOnly_bind (.read _) h
  have hbinding := run_readM_ok hb
  obtain ⟨binding', hb', hr⟩ := Prog.run_readOnly_bind (.readM _) hr
  obtain rfl : binding' = binding := Except.ok.inj ((run_readM_ok hb').symm.trans hbinding)
  have hrow := readBinding_ok hbinding
  have hresult := readResultRow_ok (run_readM_ok hr)
  rw [Table.get?_key hrow] at hresult
  rw [Prog.run_bind] at h
  split at h
  · rename_i current _ _
    cases h
    exact ⟨binding', result, current, hrow, hresult, rfl⟩
  · cases h

/-- The findings of `assess_command` are true of the run: a command whose retry is
allowed never reached its bus method; of a terminal command with a recorded result the
bus method ran once, and the result is that of the call which started it; and a
command whose effect may have happened, without a result, is up for recovery. -/
structure SoundlyAssessed (R : Runtime D) (P : Pool Lock (VeraState D) Failure (Reply D) (FenceCall D))
    (commandId : String) (a : CommandRecoveryAssessment D) : Prop where
  retry : a.retryCandidateAllowed = true →
    P.store.world.count (.executeStarted ("coordination:" ++ commandId)) = 0
  terminal : a.terminal = true → a.resultRecorded = true →
    P.store.world.count (.executeStarted ("coordination:" ++ commandId)) = 1 ∧
    ∃ r, P.store.commands.results.get? commandId = some r ∧ ∃ start ∈ P.trace,
      Starts ("coordination:" ++ commandId) start.move ∧
        ∃ c, start.call = .call (.invoke c) ∧ ResultOf R c r
  recovery : ∀ receipt, P.store.fence.get? ("coordination:" ++ commandId) = some receipt →
    receipt.state = .executing ∨ receipt.state = .attemptedUnknown ∨
      receipt.state = .committed ∧ P.store.commands.results.get? commandId = none →
    a.recoveryRequired = true

section Cases
variable {binding : CommandBinding D} {result : Option (CommandResult D)}
  {fence : Option (EffectReceipt D)} {current : Option Bool}

theorem assessment_retry
    (h : (assessment binding result fence current consistent).retryCandidateAllowed = true) :
    fence = none := by
  cases fence with
  | none => rfl
  | some receipt =>
    cases result with
    | some r => cases h
    | none => revert h; rw [assessment]; cases receipt.state <;> exact nofun

theorem assessment_recorded
    (h : (assessment binding result fence current consistent).resultRecorded = true) :
    ∃ r, result = some r := by
  cases result with
  | some r => exact ⟨r, rfl⟩
  | none =>
    cases fence with
    | none => cases h
    | some receipt => revert h; rw [assessment]; cases receipt.state <;> exact nofun

/-- An effect that may have happened, without a result, is up for recovery. -/
theorem assessment_recovery {receipt : EffectReceipt D} (hf : fence = some receipt)
    (hs : receipt.state = .executing ∨ receipt.state = .attemptedUnknown ∨
      receipt.state = .committed ∧ result = none) :
    (assessment binding result fence current consistent).recoveryRequired = true := by
  subst hf
  cases result with
  | none => rcases hs with hs | hs | ⟨hs, -⟩ <;> simp [assessment, hs]
  | some r => rcases hs with hs | hs | ⟨-, ⟨⟩⟩ <;> simp [assessment, hs]

end Cases

end Assessment

theorem unstarted_of_untouched [DecidableEq D] {R : Runtime D} {s₀ s : VeraState D} {effectId : String}
    {trace : List (Step Lock (VeraState D) (FenceCall D))} (h : Valid (onceDiscipline R) s₀ trace s)
    (h₀ : s₀.world.count (.executeStarted effectId) = 0) (hs : Untouched effectId s) :
    s.world.count (.executeStarted effectId) = 0 := by
  by_contra hne
  obtain ⟨start, hstart, hst⟩ := (count_starts h h₀).2 hne
  obtain ⟨later, earlier, rfl⟩ := List.append_of_mem hstart
  obtain ⟨-, after, claim, before, rfl, -, hc, -⟩ := own_claim h.split.2.1 hst
  have hmem : claim ∈ later ++ start :: (after ++ claim :: before) := by simp
  exact h.persist (P := fun s => ¬ Untouched effectId s) (fun _ _ _ _ _ _ => touched_step)
    hmem hc.touched hs

theorem unstarted_of_no_row [DecidableEq D] {R : Runtime D} {s₀ s : VeraState D} {effectId : String}
    {trace : List (Step Lock (VeraState D) (FenceCall D))} (h : Valid (onceDiscipline R) s₀ trace s)
    (h₀ : s₀.world.count (.executeStarted effectId) = 0) (hrow : s.fence.get? effectId = none) :
    s.world.count (.executeStarted effectId) = 0 :=
  unstarted_of_untouched h h₀ fun r hr => by
    rw [hrow] at hr
    cases hr

theorem count_of_start [DecidableEq D] {R : Runtime D} {s₀ s : VeraState D} {effectId : String}
    {trace : List (Step Lock (VeraState D) (FenceCall D))} {st : Step Lock (VeraState D) (FenceCall D)}
    (h : Valid (onceDiscipline R) s₀ trace s) (h₀ : s₀.world.count (.executeStarted effectId) = 0)
    (hst : st ∈ trace) (hs : Starts effectId st.move) :
    s.world.count (.executeStarted effectId) = 1 := by
  refine le_antisymm (count_starts h h₀).1 (h.persist (P := fun s => 1 ≤ s.world.count (.executeStarted effectId))
    (fun _ _ _ _ s' _ hg hle => ?_) hst ?_)
  · obtain ⟨t, hd, -⟩ := hg
    rw [hd.world_eq, List.count_append]
    exact hle.trans (Nat.le_add_left _ _)
  · rw [show st.move.after.world = _ from hs, List.count_cons_self]
    exact Nat.le_add_left _ _

/-- In every state that calls, crashes, restarts and cancellations lead to, what
`assess_command` finds is true of the run. -/
theorem assessed_soundly [DecidableEq D] (R : Runtime D) (d : D) (es : List (Event (FenceCall D)))
    (commandId : String) (consistent : Bool) {a : CommandRecoveryAssessment D} {s : VeraState D}
    (h : (assessCommand R commandId consistent).run (FencePool.run R d es).store = (.ok a, s)) :
    SoundlyAssessed R (FencePool.run R d es) commandId a := by
  have hv := (fencePool_sound (R := R) d es).valid
  have hP := recordPool_sound (R := R) d es
  obtain ⟨binding, result, current, hb, hr, rfl⟩ := assessCommand_ok h
  have hid : binding.effectId = "coordination:" ++ commandId :=
    Table.get?_key hb ▸ bound hP.valid rfl binding (Table.mem_of_get? hb)
  rw [hid]
  refine ⟨fun hretry => unstarted_of_no_row hv rfl (assessment_retry hretry), fun _ hrec => ?_,
    fun receipt hrow hs => assessment_recovery hrow (hr ▸ hs)⟩
  obtain ⟨r, rfl⟩ := assessment_recorded hrec
  have hrecorded : RecordedIn R (FencePool.run R d es).trace r :=
    recorded hP.valid rfl r (Table.mem_of_get? hr)
  obtain ⟨st, hst, c, hc, hres, start, hstart, hthread, hs⟩ := hrecorded
  rw [Table.get?_key hr] at hs
  obtain ⟨t, ht, hcall⟩ := hP.calls st hst
  obtain ⟨t', ht', hcall'⟩ := hP.calls start hstart
  obtain rfl : t' = t := Option.some.inj (ht'.symm.trans (hthread ▸ ht))
  exact ⟨count_of_start hv rfl hstart hs, r, hr, start, hstart, hs, c,
    hcall'.symm.trans (hcall.trans hc), hres⟩

def receiptedInvoke : InvokeArgs Nat := { sampleInvoke with receipt := some ⟨"OK", true, some "v", some 1⟩ }

def recordedRun : List (Event (FenceCall Nat)) :=
  (calledRun (.invoke receiptedInvoke) 120).map (Event.map .call)

theorem assessed_soundly_recorded : ∃ a,
    ((assessCommand sample "m" true).run (FencePool.run sample 0 recordedRun).store).1 = .ok a ∧
      (a.terminal && a.resultRecorded) = true ∧
      SoundlyAssessed sample (FencePool.run sample 0 recordedRun) "m" a := by
  have hok : (match ((assessCommand sample "m" true).run (FencePool.run sample 0 recordedRun).store).1 with
      | .ok a => a.terminal && a.resultRecorded
      | .error _ => false) = true := by decide +kernel
  match h : (assessCommand sample "m" true).run (FencePool.run sample 0 recordedRun).store with
  | (.ok a, s) => exact ⟨a, rfl, by rw [h] at hok; exact hok, assessed_soundly sample 0 _ _ _ h⟩
  | (.error e, s) => rw [h] at hok; cases hok

end VeraMono

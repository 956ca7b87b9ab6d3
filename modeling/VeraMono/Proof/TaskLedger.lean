import VeraMono.Proof.TaskFold

/-!
# Ledgers whose every task can be read

`Sound` says of a ledger that it verifies, that the fold takes the events of every task, and what
no two tasks share. `Admissible` is the rest of what the commands check before they file an event:
`Sound.extend` needs it, besides that the fold takes the event. `history_spec` says what a history
tells of its events, and `Sound.extend_of` what one more event needs to be new.
-/

namespace VeraMono

open Framework

variable {D : Type} [DecidableEq D] {rt : TaskRuntime D}

namespace TaskLedger

variable {log : TaskLedger D} {b : TaskBody D} {t : String} {h h' : TaskHistory D}

/-! ## Events and histories of a longer ledger -/

/-- The ledger with one more event. -/
abbrev extend (rt : TaskRuntime D) (log : TaskLedger D) (b : TaskBody D) : TaskLedger D :=
  (taskChain rt).extend log b

abbrev next (rt : TaskRuntime D) (log : TaskLedger D) (b : TaskBody D) : TaskEvent D :=
  (taskChain rt).next log b

omit [DecidableEq D] in
theorem events_extend_self : events b.taskId (extend rt log b) =
    events b.taskId log ++ [next rt log b] := by
  simp [events, extend, Chaining.extend, Chaining.next]

omit [DecidableEq D] in
theorem events_extend_other (ht : b.taskId ≠ t) : events t (extend rt log b) = events t log := by
  simp [events, extend, Chaining.extend, Chaining.next, ht]

theorem history_ok : history rt t log = .ok h ↔ ∃ e es h₀, events t log = e :: es ∧
    openEvent rt e = .ok h₀ ∧ es.foldlM (foldEvent rt) h₀ = .ok h := by
  rw [history]
  cases events t log with
  | nil => simp
  | cons e es => simp [bind_eq_ok]

theorem history_extend_other (ht : b.taskId ≠ t) :
    history rt t (extend rt log b) = history rt t log := by
  simp only [history, events_extend_other ht]

theorem history_extend_open (he : events b.taskId log = []) :
    history rt b.taskId (extend rt log b) = .ok h ↔ openEvent rt (next rt log b) = .ok h := by
  simp [history_ok, events_extend_self, he, pure_ok]

theorem history_extend_fold (hh : history rt b.taskId log = .ok h) :
    history rt b.taskId (extend rt log b) = .ok h' ↔
      foldEvent rt h (next rt log b) = .ok h' := by
  obtain ⟨e, es, h₀, he, ho, hf⟩ := history_ok.1 hh
  rw [history_ok, events_extend_self, he, List.cons_append]
  constructor
  · rintro ⟨e', es', h₁, heq, ho', hf'⟩
    obtain ⟨rfl, rfl⟩ := List.cons.inj heq
    obtain rfl : h₀ = h₁ := Except.ok.inj (ho.symm.trans ho')
    rw [List.foldlM_append, hf] at hf'
    obtain ⟨h₂, hh₂, hp⟩ := foldlM_cons_ok.1 hf'
    rw [hh₂, pure_ok.1 hp]
  · intro hn
    refine ⟨e, es ++ [next rt log b], h₀, rfl, ho, ?_⟩
    rw [List.foldlM_append, hf]
    exact foldlM_cons_ok.2 ⟨h', hn, rfl⟩

theorem history_events (hh : history rt t log = .ok h) : events t log ≠ [] := by
  obtain ⟨e, es, _, he, -⟩ := history_ok.1 hh
  simp [he]

/-- What a history says of the events it was read from. -/
theorem history_spec (hh : history rt t log = .ok h) :
    HistoryOk h ∧ ∀ e ∈ events t log, h.Visible e.body := by
  obtain ⟨e, es, h₀, he, ho, hf⟩ := history_ok.1 hh
  obtain ⟨ok, hv, -⟩ := openEvent_spec ho
  obtain ⟨ok', hv'⟩ := foldlM_spec ok (List.forall_mem_singleton.2 hv) hf
  refine ⟨ok', fun e' he' => hv' _ ?_⟩
  rw [he, List.mem_cons] at he'
  rcases he' with rfl | he'
  · exact List.mem_append_left _ (List.mem_singleton_self _)
  · exact List.mem_append_right _ (List.mem_map_of_mem he')

theorem history_closed {pre post : List (TaskEvent D)} {e : TaskEvent D}
    (hh : history rt t log = .ok h) (he : events t log = pre ++ e :: post)
    (hc : e.body.payload.Closing) : post = [] := by
  obtain ⟨e₀, es, h₀, he₀, ho, hf⟩ := history_ok.1 hh
  rw [he₀] at he
  cases pre with
  | nil =>
    obtain ⟨rfl, rfl⟩ := List.cons.inj he
    obtain ⟨-, hv, hcl, -⟩ := openEvent_spec ho
    exact absurd (hc.visible hv) (by simp [hcl])
  | cons e₁ pre =>
    obtain ⟨rfl, rfl⟩ := List.cons.inj he
    exact foldlM_closed hc hf

omit [DecidableEq D] in
theorem mem_events {e : TaskEvent D} :
    e ∈ events t log ↔ e ∈ log.entries ∧ e.body.taskId = t := by
  simp [events]

/-! ## Sound ledgers -/

/-- No dependency has this kind and target. -/
def Unowned (rt : TaskRuntime D) (log : TaskLedger D) (kind targetId : String) : Prop :=
  ∀ t h, history rt t log = .ok h → ∀ d ∈ h.dependencies, ¬(d.kind = kind ∧ d.targetId = targetId)

/-- No active delegation has this scope. -/
def Undelegated (rt : TaskRuntime D) (log : TaskLedger D) (scope : String × String × String) : Prop :=
  ∀ t h, history rt t log = .ok h → ∀ d ∈ h.activeDelegations, d.scopeKey ≠ scope

/-- What the commands check of an event that the fold does not. -/
def Admissible (rt : TaskRuntime D) (log : TaskLedger D) (h : TaskHistory D) (b : TaskBody D) : Prop :=
  match b.payload with
  | .dependency _ _ _ kind targetId => Unowned rt log kind targetId
  | .delegated d .. => Undelegated rt log (d.repository, d.ref, d.subject)
  | .correction id .. => b.eventId = s!"{b.taskId}:CORRECTION:{id}"
  | .closed .. => h.unresolvedCorrectionIds = [] ∧ h.activeDelegations = []
  | _ => True

/-- The marks of `verify_chain` at the end of a ledger. -/
structure Marked (rt : TaskRuntime D) (log : TaskLedger D) (m : TaskMarks) : Prop where
  check : (log.entries.map fun e => e.body).foldlM checkEvent ⟨[], []⟩ = .ok m
  opened : ∀ t, t ∈ m.opened ↔ events t log ≠ []
  closed : ∀ t ∈ m.closed, ∃ h, history rt t log = .ok h ∧ h.closed = true

/-- What a history says of the ledger it is read from. -/
structure Recorded (entries : List (TaskEvent D)) (t : String) (h : TaskHistory D) : Prop where
  opened : ∃ e ∈ entries, e.body.eventId = s!"{t}:OPEN"
  digests : ∀ d ∈ h.delegations, ∃ e ∈ entries, e.digest = d.eventDigest
  corrections : ∀ c ∈ h.corrections, ∃ e ∈ entries,
    e.body.eventId = s!"{t}:CORRECTION:{c.correctionId}"
  gate : h.closed = true → h.unresolvedCorrectionIds = [] ∧ h.activeDelegations = []

omit [DecidableEq D] in
theorem Recorded.mono {es es' : List (TaskEvent D)} (hr : Recorded es t h)
    (hsub : ∀ e ∈ es, e ∈ es') : Recorded es' t h where
  opened := hr.opened.imp fun e he => ⟨hsub e he.1, he.2⟩
  digests d hd := (hr.digests d hd).imp fun e he => ⟨hsub e he.1, he.2⟩
  corrections c hc := (hr.corrections c hc).imp fun e he => ⟨hsub e he.1, he.2⟩
  gate := hr.gate

structure Sound (rt : TaskRuntime D) (log : TaskLedger D) : Prop where
  chain : (taskChain rt).WellFormed log
  marks : ∃ m, Marked rt log m
  readable : ∀ t, events t log ≠ [] → ∃ h, history rt t log = .ok h
  recorded : ∀ t h, history rt t log = .ok h → Recorded log.entries t h
  targets : ∀ t t' h h', history rt t log = .ok h → history rt t' log = .ok h' →
    ∀ d ∈ h.dependencies, ∀ d' ∈ h'.dependencies, d.kind = d'.kind → d.targetId = d'.targetId → t = t'
  scopes : ∀ t t' h h', history rt t log = .ok h → history rt t' log = .ok h' →
    ∀ d ∈ h.activeDelegations, ∀ d' ∈ h'.activeDelegations, d.scopeKey = d'.scopeKey →
      t = t' ∧ d.delegationId = d'.delegationId

theorem sound_empty : Sound rt (taskChain rt).empty where
  chain := Chaining.wellFormed_empty
  marks := ⟨⟨[], []⟩, rfl, fun _ => by simp [events, Chaining.empty], nofun⟩
  readable _ h := absurd rfl h
  recorded _ _ h := absurd rfl (history_events h)
  targets _ _ _ _ h := absurd rfl (history_events h)
  scopes _ _ _ _ h := absurd rfl (history_events h)

/-- A ledger with one more event, from what is new in the history of its task: the
dependencies and delegations it did not have before are nobody's, and the
delegation is the one called `new`. -/
theorem Sound.extend_of (hs : Sound rt log) (new : String)
    (hn : (taskChain rt).lookup log b.eventId = none)
    (hh : history rt b.taskId (extend rt log b) = .ok h')
    (hm : ∃ m, Marked rt (extend rt log b) m)
    (hr : Recorded (extend rt log b).entries b.taskId h')
    (hd : ∀ d ∈ h'.dependencies, (∃ h, history rt b.taskId log = .ok h ∧ d ∈ h.dependencies) ∨
      Unowned rt log d.kind d.targetId)
    (ha : ∀ d ∈ h'.activeDelegations, (∃ h, history rt b.taskId log = .ok h ∧
      ∃ d₀ ∈ h.activeDelegations, d₀.delegationId = d.delegationId ∧ d₀.scopeKey = d.scopeKey) ∨
      d.delegationId = new ∧ Undelegated rt log d.scopeKey) : Sound rt (extend rt log b) where
  chain := hs.chain.extend hn
  marks := hm
  readable t ht := by
    by_cases hb : b.taskId = t
    · exact ⟨h', hb ▸ hh⟩
    · rw [history_extend_other hb]
      exact hs.readable t (events_extend_other hb ▸ ht)
  recorded t h ht := by
    by_cases hb : b.taskId = t
    · subst hb
      exact Except.ok.inj (hh.symm.trans ht) ▸ hr
    · rw [history_extend_other hb] at ht
      exact (hs.recorded t h ht).mono fun _ => List.mem_append_left _
  targets t t' h₁ h₂ ht ht' d hd₁ d' hd₂ hk hg := by
    by_cases hb : b.taskId = t <;> by_cases hb' : b.taskId = t'
    · exact hb.symm.trans hb'
    · subst hb
      obtain rfl := Except.ok.inj (hh.symm.trans ht)
      rw [history_extend_other hb'] at ht'
      rcases hd d hd₁ with ⟨h₀, hh₀, hd₀⟩ | hu
      · exact hs.targets _ _ _ _ hh₀ ht' d hd₀ d' hd₂ hk hg
      · exact absurd ⟨hk.symm, hg.symm⟩ (hu t' h₂ ht' d' hd₂)
    · subst hb'
      obtain rfl := Except.ok.inj (hh.symm.trans ht')
      rw [history_extend_other hb] at ht
      rcases hd d' hd₂ with ⟨h₀, hh₀, hd₀⟩ | hu
      · exact hs.targets _ _ _ _ ht hh₀ d hd₁ d' hd₀ hk hg
      · exact absurd ⟨hk, hg⟩ (hu t h₁ ht d hd₁)
    · rw [history_extend_other hb] at ht
      rw [history_extend_other hb'] at ht'
      exact hs.targets t t' _ _ ht ht' d hd₁ d' hd₂ hk hg
  scopes t t' h₁ h₂ ht ht' d hd₁ d' hd₂ hk := by
    -- an active delegation of the longer ledger is an old one, or the new one under a free scope
    have old {t : String} {h : TaskHistory D} (ht : history rt t (extend rt log b) = .ok h)
        {d : TaskDelegation D} (hd : d ∈ h.activeDelegations) :
        (∃ h₀, history rt t log = .ok h₀ ∧ ∃ d₀ ∈ h₀.activeDelegations,
          d₀.delegationId = d.delegationId ∧ d₀.scopeKey = d.scopeKey) ∨
        t = b.taskId ∧ d.delegationId = new ∧ Undelegated rt log d.scopeKey := by
      by_cases hb : b.taskId = t
      · subst hb
        obtain rfl := Except.ok.inj (hh.symm.trans ht)
        exact (ha d hd).imp_right fun hu => ⟨rfl, hu⟩
      · rw [history_extend_other hb] at ht
        exact .inl ⟨h, ht, d, hd, rfl, rfl⟩
    rcases old ht hd₁ with ⟨h₀, hh₀, d₀, hd₀, hid₀, hsc₀⟩ | ⟨rfl, hid, hu⟩
    · rcases old ht' hd₂ with ⟨h₀', hh₀', d₀', hd₀', hid₀', hsc₀'⟩ | ⟨-, -, hu'⟩
      · have := hs.scopes t t' _ _ hh₀ hh₀' d₀ hd₀ d₀' hd₀' (hsc₀.trans (hk.trans hsc₀'.symm))
        exact ⟨this.1, hid₀.symm.trans (this.2.trans hid₀')⟩
      · exact absurd (hsc₀.trans hk) (hu' t h₀ hh₀ d₀ hd₀)
    · rcases old ht' hd₂ with ⟨h₀', hh₀', d₀', hd₀', hid₀', hsc₀'⟩ | ⟨rfl, hid', -⟩
      · exact absurd (hsc₀'.trans hk.symm) (hu t' h₀' hh₀' d₀' hd₀')
      · exact ⟨rfl, hid.trans hid'.symm⟩

/-! ## Adding an event -/

omit [DecidableEq D] in
theorem entries_extend : (extend rt log b).entries = log.entries ++ [next rt log b] := rfl

/-- The marks of a ledger with one more event. -/
theorem Marked.extend_event {m m' : TaskMarks} (hm : Marked rt log m) (hc : checkEvent m b = .ok m')
    (ho : ∀ t, t ∈ m'.opened ↔ t = b.taskId ∨ t ∈ m.opened)
    (hcl : ∀ t ∈ m'.closed, t ∈ m.closed ∨ t = b.taskId)
    (hh' : b.taskId ∈ m'.closed →
      ∃ h, history rt b.taskId (extend rt log b) = .ok h ∧ h.closed = true) :
    Marked rt (extend rt log b) m' where
  check := by
    rw [entries_extend, List.map_append, List.foldlM_append, hm.check]
    exact foldlM_cons_ok.2 ⟨m', hc, rfl⟩
  opened t := by
    rw [ho, hm.opened]
    by_cases hb : b.taskId = t
    · subst hb
      simp [events_extend_self]
    · rw [events_extend_other hb]
      simp [Ne.symm hb]
  closed t ht := by
    by_cases hb : b.taskId = t
    · subst hb
      exact hh' ht
    · rw [history_extend_other hb]
      exact hm.closed t ((hcl t ht).resolve_right (Ne.symm hb))

theorem Marked.open {m : TaskMarks} (hm : Marked rt log m) (hh : history rt t log = .ok h)
    (hc : h.closed = false) : t ∈ m.opened ∧ t ∉ m.closed := by
  refine ⟨(hm.opened t).2 (history_events hh), fun ht => ?_⟩
  obtain ⟨h₁, hh₁, hc₁⟩ := hm.closed t ht
  obtain rfl := Except.ok.inj (hh.symm.trans hh₁)
  exact absurd (hc.symm.trans hc₁) (by simp)

theorem Sound.extend_open (hs : Sound rt log) (hid : b.eventId = s!"{b.taskId}:OPEN")
    (hn : (taskChain rt).lookup log b.eventId = none) (he : events b.taskId log = [])
    (ho : openEvent rt (next rt log b) = .ok h') : Sound rt (extend rt log b) := by
  obtain ⟨-, -, hcl, hcor, hdep, hdel⟩ := openEvent_spec ho
  have hh := (history_extend_open he).2 ho
  obtain ⟨m, hm⟩ := hs.marks
  have hopen : b.taskId ∉ m.opened := fun h => (hm.opened _).1 h he
  have hclosed : b.taskId ∉ m.closed := fun h => by
    obtain ⟨h₁, hh₁, -⟩ := hm.closed _ h
    exact history_events hh₁ he
  obtain ⟨packet, digest, lifecycle, hp, -⟩ := openEvent_ok.1 ho
  have hp : b.payload = .opened packet digest lifecycle := hp
  have hcheck : checkEvent m b = .ok { m with opened := b.taskId :: m.opened } := by
    simp [checkEvent, hclosed, hp, hopen]
  refine hs.extend_of "" hn hh
    ⟨_, hm.extend_event hcheck (fun t => List.mem_cons) (fun t => .inl)
      (fun h => absurd h hclosed)⟩
    ⟨⟨_, List.mem_append_right _ (List.mem_singleton_self _), hid⟩, ?_, ?_, ?_⟩ ?_ ?_
  · simp [hdel]
  · simp [hcor]
  · simp [hcl]
  · simp [hdep]
  · simp [TaskHistory.activeDelegations, hdel]

theorem Sound.extend_event (hs : Sound rt log) (hn : (taskChain rt).lookup log b.eventId = none)
    (hh : history rt b.taskId log = .ok h)
    (hf : foldEvent rt h (next rt log b) = .ok h') (ha : Admissible rt log h b) :
    Sound rt (extend rt log b) := by
  have hclosed := foldEvent_ok hf
  have hg := foldEvent_grows hf
  have hfrom := foldEvent_from hf
  have hh' := (history_extend_fold hh).2 hf
  have hrec : Recorded (extend rt log b).entries _ h :=
    (hs.recorded _ _ hh).mono fun _ => List.mem_append_left _
  have hself : next rt log b ∈ (extend rt log b).entries :=
    List.mem_append_right _ (List.mem_singleton_self _)
  obtain ⟨m, hm⟩ := hs.marks
  obtain ⟨hmo, hmc⟩ := hm.open hh hclosed
  have hmarks : ∃ m', Marked rt (extend rt log b) m' := by
    by_cases hcl : b.payload.Closing
    · have hcheck : checkEvent m b = .ok { m with closed := b.taskId :: m.closed } := by
        cases hp : b.payload <;> rw [hp] at hcl <;>
          first | exact hcl.elim | simp [checkEvent, hp, hmo, hmc]
      refine ⟨_, hm.extend_event hcheck (fun t => ?_) (fun t ht => (List.mem_cons.1 ht).symm)
        fun _ => ⟨h', hh', hcl.visible (foldEvent_visible hf)⟩⟩
      exact ⟨.inr, fun ht => ht.elim (fun ht => ht ▸ hmo) id⟩
    · have hcheck : checkEvent m b = .ok m := by
        cases hp : b.payload
        case opened =>
          rw [foldEvent, ite_error_ok] at hf
          simp only [next, Chaining.next, hp] at hf
          cases hf.2
        case closed => exact absurd (hp ▸ trivial) hcl
        all_goals simp [checkEvent, hp, hmo, hmc]
      refine ⟨m, hm.extend_event hcheck (fun t => ?_) (fun t => .inl) fun h => absurd h hmc⟩
      exact ⟨.inr, fun ht => ht.elim (fun ht => ht ▸ hmo) id⟩
  have hhist {h₁ : TaskHistory D} (hh₁ : history rt b.taskId log = .ok h₁) : h₁ = h :=
    Except.ok.inj (hh₁.symm.trans hh)
  have hnew (p : TaskPayload D) (hp : b.payload = p) : Admissible rt log h { b with payload := p } :=
    hp ▸ ha
  obtain ⟨new, hnewid⟩ : ∃ new, ∀ d al pr sh ev, b.payload = .delegated d al pr sh ev →
      d.delegationId = new := by
    cases b.payload with
    | delegated d => exact ⟨d.delegationId, fun _ _ _ _ _ hp => by cases hp; rfl⟩
    | _ => exact ⟨"", fun _ _ _ _ _ hp => by cases hp⟩
  refine hs.extend_of new hn hh' hmarks ⟨hrec.opened, fun d hd => ?_, fun c hc => ?_, fun hc => ?_⟩
    (fun d hd => ?_) fun d hd => ?_
  · rcases hfrom.digests d hd with hd | hd
    · exact hrec.digests d hd
    · exact ⟨_, hself, hd.symm⟩
  · rcases hfrom.corrections c hc with hc | ⟨s, pd, su, o, r, w, ev, hp⟩
    · exact hrec.corrections c hc
    · exact ⟨_, hself, hnew _ hp⟩
  · obtain ⟨hcl, hu, hdel⟩ := hfrom.closed hc
    have hgate : h.unresolvedCorrectionIds = [] ∧ h.activeDelegations = [] := by
      rw [Admissible] at ha
      cases hp : b.payload <;> simp only [next, Chaining.next, hp] at hcl ha <;>
        first | exact hcl.elim | exact ha
    rw [hu, TaskHistory.activeDelegations, hdel]
    exact hgate
  · rcases hfrom.dependencies d hd with hd | ⟨id, s, pd, hp⟩
    · exact .inl ⟨h, hh, hd⟩
    · exact .inr (hnew _ hp)
  · rcases hfrom.active d hd with hd | ⟨d', al, pr, sh, ev, hp, hid, hsc⟩
    · exact .inl ⟨h, hh, hd⟩
    · exact .inr ⟨hid.trans (hnewid _ _ _ _ _ hp), hsc ▸ hnew _ hp⟩

end TaskLedger

end VeraMono

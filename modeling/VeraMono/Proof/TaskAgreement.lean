import VeraMono.Model.TaskSample
import VeraMono.Proof.TaskCommands

/-!
# Writer and reader of the task ledger agree

Whatever commands ran, the ledger verifies and every task can be read, and what
the commands keep apart stays apart (`task_ledger_agrees`), and nothing that a task has
recorded is lost (`task_history_persists`).
-/

namespace VeraMono

open Framework TaskLedger TaskCommand

variable {D : Type} [DecidableEq D] {rt : TaskRuntime D}

/-- A ledger that verifies, whose tasks can all be read, and in which nothing has two owners. -/
structure LedgerAgrees (rt : TaskRuntime D) (log : TaskLedger D) : Prop where
  verified : ∃ head, verifyChain rt log = .ok head
  readable : ∀ e ∈ log.entries, ∃ s, read rt e.body.taskId log = .ok s
  oneOwner : ∀ t t' s s', read rt t log = .ok s → read rt t' log = .ok s' →
    ∀ d ∈ s.dependencies, ∀ d' ∈ s'.dependencies, d.kind = d'.kind → d.targetId = d'.targetId →
      t = t' ∧ d = d'
  targets : ∀ t s, read rt t log = .ok s → (s.dependencies.map fun d => (d.kind, d.targetId)).Nodup
  oneDelegate : ∀ t t' s s', read rt t log = .ok s → read rt t' log = .ok s' →
    ∀ d ∈ s.activeDelegations, ∀ d' ∈ s'.activeDelegations, d.scopeKey = d'.scopeKey →
      t = t' ∧ d = d'
  delegations : ∀ t s, read rt t log = .ok s → (s.delegations.map fun d => d.delegationId).Nodup
  closed : ∀ t s, read rt t log = .ok s → s.closed = true →
    s.unresolvedCorrectionIds = [] ∧ s.activeDelegations = []
  closing : ∀ pre e post, log.entries = pre ++ e :: post → e.body.payload.Closing →
    (∀ s, read rt e.body.taskId log = .ok s → s.closed = true) ∧
      ∀ e' ∈ post, e'.body.taskId ≠ e.body.taskId

theorem TaskLedger.Sound.agrees {log : TaskLedger D} (hs : Sound rt log) : LedgerAgrees rt log where
  verified := ⟨_, hs.verifies⟩
  readable e he := by
    obtain ⟨h, hh⟩ := hs.readable _ (List.ne_nil_of_mem (mem_events.2 ⟨he, rfl⟩))
    exact ⟨_, hs.read_eq hh⟩
  oneOwner t t' s s' hr hr' d hd d' hd' hk hg := by
    obtain ⟨h, _, hh, -, rfl⟩ := read_ok.1 hr
    obtain ⟨h', _, hh', -, rfl⟩ := read_ok.1 hr'
    obtain rfl := hs.targets t t' h h' hh hh' d hd d' hd' hk hg
    obtain rfl := Except.ok.inj (hh.symm.trans hh')
    exact ⟨rfl, List.inj_on_of_nodup_map (history_spec hh).1.targets hd hd' (Prod.ext hk hg)⟩
  targets t s hr := by
    obtain ⟨h, _, hh, -, rfl⟩ := read_ok.1 hr
    exact (history_spec hh).1.targets
  oneDelegate t t' s s' hr hr' d hd d' hd' hk := by
    obtain ⟨h, _, hh, -, rfl⟩ := read_ok.1 hr
    obtain ⟨h', _, hh', -, rfl⟩ := read_ok.1 hr'
    obtain ⟨rfl, hid⟩ := hs.scopes t t' h h' hh hh' d hd d' hd' hk
    obtain rfl := Except.ok.inj (hh.symm.trans hh')
    exact ⟨rfl, List.inj_on_of_nodup_map (history_spec hh).1.delegationIds (List.mem_filter.1 hd).1
      (List.mem_filter.1 hd').1 hid⟩
  delegations t s hr := by
    obtain ⟨h, _, hh, -, rfl⟩ := read_ok.1 hr
    exact (history_spec hh).1.delegationIds
  closed t s hr hc := by
    obtain ⟨h, _, hh, -, rfl⟩ := read_ok.1 hr
    obtain ⟨hu, ha⟩ := (hs.recorded t h hh).gate hc
    exact ⟨stateOf_unresolved_nil.2 hu, ha⟩
  closing pre e post hl hc := by
    have hmem : e ∈ events e.body.taskId log := mem_events.2 ⟨by simp [hl], rfl⟩
    refine ⟨fun s hr => ?_, fun e' he' ht => ?_⟩
    · obtain ⟨h, _, hh, -, rfl⟩ := read_ok.1 hr
      exact hc.visible ((history_spec hh).2 e hmem)
    · obtain ⟨h, hh⟩ := hs.readable _ (List.ne_nil_of_mem hmem)
      have hev : events e.body.taskId log =
          events e.body.taskId ⟨pre, 0, log.head⟩ ++ e :: events e.body.taskId ⟨post, 0, log.head⟩ := by
        simp [events, hl]
      have hnil := history_closed hh hev hc
      have : e' ∈ events e.body.taskId ⟨post, 0, log.head⟩ := mem_events.2 ⟨he', ht⟩
      rw [hnil] at this
      cases this

/-- After any commands, one more either raises and changes nothing or is followed by a
ledger in which writer and reader agree, as they did before it. -/
theorem task_ledger_agrees (hpy : RendersText rt.py) (cs : List TaskCommand) (c : TaskCommand) :
    LedgerAgrees rt (runAll rt cs) ∧ LedgerAgrees rt (c.run rt (runAll rt cs)).2 ∧
      ∀ f, (c.run rt (runAll rt cs)).1 = .error f → (c.run rt (runAll rt cs)).2 = runAll rt cs := by
  have hs := runAll_sound hpy cs
  exact ⟨hs.agrees, (run_sound hpy hs).agrees, fun f hf => run_error hpy hs hf⟩

theorem rendersText_sample : RendersText sampleTasks.py := fun _ _ h => by
  simp [sampleTasks, sampleStdlib, Stdlib.parseTimestamp] at h

/-- A task whose dependency was cancelled, whose correction was addressed by its checkpoint, and
which was closed. -/
def closedRun : List TaskCommand :=
  [.openTask "t" samplePacket sampleDigest,
    .bindDependency "t" "e" "PROVIDER_EFFECT" "x",
    .cancelDependency "t" "e" "dropped",
    .recordCorrection "t" "c" "s" "old" "new" "owner" ["e"],
    .checkpoint "t" "p" ⟨["e"], [], [], "n", sampleDigest, ["c"], some "m", none, none⟩,
    .closeTask "t" "z" [("source", "changed-and-verified")] ["e"] [] "c" "n" sampleDigest]

/-- Each of its commands files an event, and the agreement holds after them and after one more. -/
theorem task_ledger_agrees_sample :
    (runAll sampleTasks closedRun).entries.length = 6 ∧
      LedgerAgrees sampleTasks (runAll sampleTasks closedRun) ∧
      LedgerAgrees sampleTasks (TaskCommand.run sampleTasks
        (.reassignDelegation "t" "d" "r3" "B" ["e"]) (runAll sampleTasks closedRun)).2 :=
  have h := task_ledger_agrees rendersText_sample closedRun
    (.reassignDelegation "t" "d" "r3" "B" ["e"])
  ⟨by decide +kernel, h.1, h.2.1⟩

/-! ## Nothing is lost -/

variable {h : TaskHistory D} {log : TaskLedger D} {t : String}

/-- A command leaves the history of a task alone, or adds an event to it while it is open. -/
theorem run_grows (hpy : RendersText rt.py) (hs : Sound rt log) (hh : history rt t log = .ok h) (c : TaskCommand) :
    ∃ h', history rt t (c.run rt log).2 = .ok h' ∧ h.Grows h' ∧ (h.closed = true → h' = h) := by
  have hsame : ∃ h', history rt t log = .ok h' ∧ h.Grows h' ∧ (h.closed = true → h' = h) :=
    ⟨h, hh, .refl h, fun _ => rfl⟩
  obtain ⟨e, hr⟩ | ⟨s, -, hr⟩ | ⟨b, p, hd, hp, ⟨e, -, -, -, -, hr⟩ | ⟨hn, -, hr⟩⟩ := run_cases rt log c <;> rw [hr]
  · exact hsame
  · exact hsame
  · exact hsame
  · by_cases ht : b.taskId = t
    · subst ht
      have hs' := decision_sound hpy hs hd hp hn
      obtain ⟨h', hh'⟩ := hs'.readable b.taskId (by
        rw [events_extend_self (b := { b with payload := p })]
        exact List.append_ne_nil_of_right_ne_nil _ (by simp))
      have hfold := (history_extend_fold (b := { b with payload := p }) hh).1 hh'
      exact ⟨h', hh', foldEvent_grows hfold, fun hc => absurd (foldEvent_ok hfold) (by simp [hc])⟩
    · simpa only [history_extend_other (b := { b with payload := p }) ht] using hsame

/-- Whatever commands run later: a task that could be read still can. It keeps its packet, its
dependencies and their cancellations, its corrections and the delegations that are over; and a
closed task stays as it is. -/
theorem task_history_persists (hpy : RendersText rt.py) (cs cs' : List TaskCommand)
    (hh : history rt t (runAll rt cs) = .ok h) :
    ∃ h', read rt t (runAll rt (cs ++ cs')) = .ok (stateOf t (runAll rt (cs ++ cs')).head h') ∧
      h.Grows h' ∧ (h.closed = true → h' = h) := by
  suffices ∃ h', history rt t (runAll rt (cs ++ cs')) = .ok h' ∧ h.Grows h' ∧ (h.closed = true → h' = h) by
    obtain ⟨h', hh', hg⟩ := this
    exact ⟨h', (runAll_sound hpy _).read_eq hh', hg⟩
  induction cs' using List.reverseRecOn with
  | nil => exact ⟨h, by rwa [List.append_nil], .refl h, fun _ => rfl⟩
  | append_singleton cs' c ih =>
    obtain ⟨h', hh', hg, hc⟩ := ih
    obtain ⟨h'', hh'', hg', hc'⟩ := run_grows hpy (runAll_sound hpy _) hh' c
    refine ⟨h'', ?_, hg.trans hg', fun hclosed => ?_⟩
    · rw [← List.append_assoc, runAll, List.foldl_append]
      exact hh''
    · obtain rfl := hc hclosed
      exact hc' hclosed

/-- The task of the sample run, after one more reassignment. -/
theorem task_history_persists_sample : ∃ h h', history sampleTasks "t" (runAll sampleTasks reassignedRun) = .ok h ∧
    read sampleTasks "t" (runAll sampleTasks (reassignedRun ++ [.reassignDelegation "t" "d" "r3" "B" ["e"]])) =
      .ok (stateOf "t" (runAll sampleTasks (reassignedRun ++ [.reassignDelegation "t" "d" "r3" "B" ["e"]])).head h') ∧
      h.Grows h' := by
  have hok : (history sampleTasks "t" (runAll sampleTasks reassignedRun)).toBool = true := by decide +kernel
  obtain ⟨h, hh⟩ := toBool_iff.1 hok
  obtain ⟨h', hr, hg, -⟩ :=
    task_history_persists rendersText_sample reassignedRun [.reassignDelegation "t" "d" "r3" "B" ["e"]] hh
  exact ⟨h, h', hh, hr, hg⟩

end VeraMono

import VeraMono.Proof.Digestible
import VeraMono.Proof.TaskLedger

/-!
# The commands and the fold agree

What each command checked before it filed its event (the lemmas ending in `_ok`) is what the fold
of `read` asks of that event, and the rest is `Admissible`. So every command leaves a sound ledger,
and what can be read of a sound ledger is `LedgerAgrees`. `decision_file` says what a command
files, and `decision_sound` that the ledger stays sound.
-/

namespace VeraMono

open Framework

variable {D : Type} [DecidableEq D] {rt : TaskRuntime D}

namespace TaskLedger

variable {log : TaskLedger D} {dec : Decision D} {t : String}

/-! ## Reading -/

/-- The state that `read` makes of a history. -/
def stateOf (t : String) (head : D) (h : TaskHistory D) : TaskState D :=
  { h with
    unresolvedCorrectionIds := h.unresolvedCorrectionIds.insertionSort (· ≤ ·)
    taskId := t
    journalHeadDigest := head }

section
omit [DecidableEq D]
variable {head : D} {h : TaskHistory D}

@[simp] theorem stateOf_packet : (stateOf t head h).packet = h.packet := rfl
@[simp] theorem stateOf_taskId : (stateOf t head h).taskId = t := rfl
@[simp] theorem stateOf_closed : (stateOf t head h).closed = h.closed := rfl
@[simp] theorem stateOf_closeout : (stateOf t head h).closeout = h.closeout := rfl
@[simp] theorem stateOf_dependencies : (stateOf t head h).dependencies = h.dependencies := rfl
@[simp] theorem stateOf_activeDependencies :
    (stateOf t head h).activeDependencies = h.activeDependencies := rfl
@[simp] theorem stateOf_delegation? {id : String} :
    (stateOf t head h).delegation? id = h.delegation? id := rfl
@[simp] theorem stateOf_activeDelegations :
    (stateOf t head h).activeDelegations = h.activeDelegations := rfl
@[simp] theorem stateOf_cancelledDependencyIds :
    (stateOf t head h).cancelledDependencyIds = h.cancelledDependencyIds := rfl
@[simp] theorem stateOf_latestCheckpoint :
    (stateOf t head h).latestCheckpoint = h.latestCheckpoint := rfl
@[simp] theorem mem_stateOf_unresolved {id : String} :
    id ∈ (stateOf t head h).unresolvedCorrectionIds ↔ id ∈ h.unresolvedCorrectionIds :=
  List.mem_insertionSort _

theorem stateOf_unresolved_nil :
    (stateOf t head h).unresolvedCorrectionIds = [] ↔ h.unresolvedCorrectionIds = [] := by
  simp only [List.eq_nil_iff_forall_not_mem, mem_stateOf_unresolved]

end

variable {ev : List String} {s : TaskState D}

theorem read_ok : read rt t log = .ok s ↔ ∃ h head, history rt t log = .ok h ∧
    verifyChain rt log = .ok head ∧ s = stateOf t head h := by
  simp only [read, bind_eq_ok, pure_ok, exists_and_left]
  rfl

theorem Sound.verifies (hs : Sound rt log) : verifyChain rt log = .ok log.head := by
  obtain ⟨m, hm⟩ := hs.marks
  rw [verifyChain, Chaining.verify_eq_ok.2 ⟨rfl, hs.chain.linked, m, hm.check⟩]

theorem Sound.read_eq {h : TaskHistory D} (hs : Sound rt log) (hh : history rt t log = .ok h) :
    read rt t log = .ok (stateOf t log.head h) :=
  read_ok.2 ⟨h, _, hh, hs.verifies, rfl⟩

theorem mem_sortedSet {x : String} {xs : List String} : x ∈ sortedSet xs ↔ x ∈ xs := by
  rw [sortedSet, List.mem_insertionSort, List.mem_eraseDups]

theorem tasks_mem {states : List (TaskState D)}
    (hts : tasks rt log = .ok states) (hr : read rt t log = .ok s) : s ∈ states := by
  simp only [tasks, bind_eq_ok] at hts
  obtain ⟨_, -, hseq⟩ := hts
  obtain ⟨h, _, hh, -⟩ := read_ok.1 hr
  obtain ⟨e, he⟩ := List.exists_mem_of_ne_nil _ (history_events hh)
  have hid : t ∈ taskIds log := by
    obtain ⟨he, ht⟩ := mem_events.1 he
    exact mem_sortedSet.2 (List.mem_map.2 ⟨e, he, ht⟩)
  have hmem : read rt t log ∈ (taskIds log).map fun t => read rt t log := List.mem_map_of_mem hid
  rw [← sequence_ok hseq, hr] at hmem
  obtain ⟨s', hs', heq⟩ := List.mem_map.1 hmem
  exact Except.ok.inj heq ▸ hs'

/-! ## What each command checked -/

omit [DecidableEq D] in
theorem openTask_ok {p : TaskPacket} {d : String} (hd : openTask rt t p d log = .ok dec) :
    p.validate = .ok () ∧ nonblank t = true ∧ (d.length = 64 ∧ rt.hexInteger d = true) ∧
      dec = .file ⟨s!"{t}:OPEN", t, .opened p (packetDigest rt p) d⟩ := by
  simp only [openTask, bind_eq_ok, requireTaskText_ok, requireTaskDigest_ok, and_assoc,
    exists_and_left, exists_eq_left] at hd
  obtain ⟨_, hv, ht, hl, hx, hd⟩ := hd
  refine ⟨hv, ht, ⟨hl, hx⟩, ?_⟩
  split at hd
  · exact pure_ok.1 hd
  · exact pure_ok.1 hd
  · cases hd

theorem bindDependency_ok {id k g : String} (hd : bindDependency rt t id k g log = .ok dec) :
    ∃ s, read rt t log = .ok s ∧ s.closed = false ∧ nonblank id = true ∧ nonblank g = true ∧
      k ∈ taskDependencyKinds ∧
      ((∃ d, s.dependencies.find? (fun d => d.dependencyId = id) = some d ∧ d.kind = k ∧
          d.targetId = g ∧ dec = .answer s) ∨
        (∀ d ∈ s.dependencies, d.dependencyId ≠ id) ∧
          (¬∃ d ∈ s.dependencies, d.kind = k ∧ d.targetId = g) ∧
          (∀ t' s', read rt t' log = .ok s' → t' ≠ t →
            ∀ d ∈ s'.dependencies, ¬(d.kind = k ∧ d.targetId = g)) ∧
          dec = .file ⟨s!"{t}:DEPENDENCY:{id}", t,
            .dependency id s.packet.subject (packetDigest rt s.packet) k g⟩) := by
  simp only [bindDependency, bind_eq_ok, requireTaskText_ok, ite_error_ok, ↓throw_bind, and_assoc,
    exists_and_left, exists_eq_left, not_not, Bool.not_eq_true] at hd
  obtain ⟨s, hs, hc, hid, hg, hk, hd⟩ := hd
  refine ⟨s, hs, hc, hid, hg, hk, ?_⟩
  split at hd
  next d hf =>
    simp only [ite_error_ok, pure_ok, not_or, not_not] at hd
    obtain ⟨⟨hk', hg'⟩, rfl⟩ := hd
    exact .inl ⟨d, hf, hk', hg', rfl⟩
  next hf =>
    simp only [ite_error_ok, bind_eq_ok] at hd
    obtain ⟨hown, states, hts, hd⟩ := hd
    refine .inr ⟨fun d hd hi => ?_, hown, fun t' s' hs' ht' d hd' hkg => ?_, ?_⟩
    · exact absurd (List.find?_eq_none.1 hf d hd) (by simp [hi])
    · split at hd
      · cases hd
      next hnil =>
        have hnil := List.flatMap_eq_nil_iff.1 hnil s' (tasks_mem hts hs')
        obtain ⟨_, _, -, -, rfl⟩ := read_ok.1 hs'
        simp only [stateOf_taskId, ht', if_false, List.map_eq_nil_iff, List.filter_eq_nil_iff,
          decide_eq_true_eq] at hnil
        exact hnil d hd' hkg
    · split at hd
      · cases hd
      · exact pure_ok.1 hd

theorem cancelDependency_ok {id r : String} (hd : cancelDependency rt t id r log = .ok dec) :
    ∃ s d, read rt t log = .ok s ∧ s.closed = false ∧ nonblank id = true ∧ nonblank r = true ∧
      s.activeDependencies.find? (fun d => d.dependencyId = id) = some d ∧
      dec = .file ⟨s!"{t}:DEPENDENCY_CANCELLED:{id}", t,
        .dependencyCancelled id s.packet.subject (packetDigest rt s.packet) d.kind d.targetId r⟩ := by
  simp only [cancelDependency, bind_eq_ok, requireTaskText_ok, ite_error_ok, ↓throw_bind, and_assoc,
    exists_and_left, exists_eq_left, Bool.not_eq_true] at hd
  obtain ⟨s, hs, hc, hid, hr, hd⟩ := hd
  split at hd
  · cases hd
  next d hf => exact ⟨s, d, hs, hc, hid, hr, hf, pure_ok.1 hd⟩

omit [DecidableEq D] in
theorem activeDelegation_ok {id verb : String} {d : TaskDelegation D} :
    activeDelegation s id verb = .ok d ↔ s.delegation? id = some d ∧ d.active = true := by
  simp only [activeDelegation, TaskHistory.delegation, bind_eq_ok, ite_error_ok, ↓throw_bind, pure_ok,
    not_not]
  cases s.delegation? id with
  | none => simp
  | some d' =>
    simp only [Except.ok.injEq, exists_eq_left', Option.some.injEq]
    constructor
    · rintro ⟨ha, hd⟩
      exact ⟨hd.symm, hd ▸ ha⟩
    · rintro ⟨hd, ha⟩
      exact ⟨hd ▸ ha, hd.symm⟩

theorem delegateWork_ok {id p r su a : String} {al pr sh ev : List String}
    (hd : delegateWork rt t id p r su a al pr sh ev log = .ok dec) :
    ∃ s, read rt t log = .ok s ∧ s.closed = false ∧ nonblank id = true ∧ nonblank p = true ∧
      nonblank r = true ∧ nonblank su = true ∧ nonblank a = true ∧ al.all nonblank = true ∧
      pr.all nonblank = true ∧ sh.all nonblank = true ∧ ev.all nonblank = true ∧ sh ≠ [] ∧ ev ≠ [] ∧
      (¬∃ effect ∈ al, effect ∈ pr) ∧ ¬(s.delegation? id).isSome = true ∧
      (∀ t' s', read rt t' log = .ok s' → ∀ d ∈ s'.activeDelegations, d.scopeKey ≠ (p, r, su)) ∧
      dec = .file ⟨s!"{t}:DELEGATED:{id}", t,
        .delegated ⟨id, s.packet.subject, packetDigest rt s.packet, p, r, su, a⟩ al pr sh ev⟩ := by
  simp only [delegateWork, bind_eq_ok, requireTaskText_ok, requireTexts_ok, ite_error_ok, ↓throw_bind,
    and_assoc, exists_and_left, exists_eq_left, not_not, Bool.not_eq_true] at hd
  obtain ⟨s, hs, hc, hid, hp, hr, hsu, ha, hal, hpr, hsh, hev, hsh', hev', hover, hnew, states, hts,
    hd⟩ := hd
  refine ⟨s, hs, hc, hid, hp, hr, hsu, ha, hal, hpr, hsh, hev, hsh', hev', ?_, by simp [hnew], ?_, ?_⟩
  · rintro ⟨x, hx, hx'⟩
    exact absurd hx' (by simpa using List.filter_eq_nil_iff.1 hover x (mem_sortedSet.2 hx))
  · intro t' s' hs' d hd' hsc
    split at hd
    · cases hd
    next hnil =>
      have hnil := List.flatMap_eq_nil_iff.1 hnil s' (tasks_mem hts hs')
      simp only [List.map_eq_nil_iff, List.filter_eq_nil_iff, decide_eq_true_eq] at hnil
      exact hnil d hd' hsc
  · split at hd
    · cases hd
    · exact pure_ok.1 hd

theorem reassignDelegation_ok {id r a : String}
    (hd : reassignDelegation rt t id r a ev log = .ok dec) :
    ∃ s d, read rt t log = .ok s ∧ s.closed = false ∧ s.delegation? id = some d ∧
      d.active = true ∧ nonblank r = true ∧ nonblank a = true ∧ a ≠ d.assigneeRef ∧
      ev.all nonblank = true ∧ ev ≠ [] ∧
      dec = .file ⟨s!"{t}:DELEGATION_REASSIGNED:{id}:{r}", t,
        .delegationReassigned (bindingOf rt s d) a ev⟩ := by
  simp only [reassignDelegation, bind_eq_ok, activeDelegation_ok, requireTaskText_ok, requireTexts_ok,
    ite_error_ok, ↓throw_bind, pure_ok, and_assoc, exists_and_left, exists_eq_left,
    Bool.not_eq_true] at hd
  obtain ⟨s, hs, hc, d, hd⟩ := hd
  exact ⟨s, d, hs, hc, hd⟩

theorem returnDelegation_ok {id r su : String} {vs : List (String × String)}
    (hd : returnDelegation rt t id r su vs ev log = .ok dec) :
    ∃ s d, read rt t log = .ok s ∧ s.closed = false ∧ s.delegation? id = some d ∧
      d.active = true ∧ nonblank r = true ∧ nonblank su = true ∧
      SameKeys (vs.map Prod.fst) d.returnShape ∧
      (∀ key ∈ d.returnShape, nonblank (valueOf vs key) = true) ∧ ev.all nonblank = true ∧ ev ≠ [] ∧
      dec = .file ⟨s!"{t}:DELEGATION_RETURNED:{id}:{r}", t, .delegationReturned (bindingOf rt s d) su
        (d.returnShape.eraseDups.map fun key => (key, valueOf vs key)) ev⟩ := by
  simp only [returnDelegation, bind_eq_ok, activeDelegation_ok, requireTaskText_ok, requireTexts_ok,
    shapedValues_ok, ite_error_ok, ↓throw_bind, pure_ok, and_assoc, exists_and_left, exists_eq_left,
    Bool.not_eq_true, not_not] at hd
  obtain ⟨s, hs, hc, d, hd⟩ := hd
  exact ⟨s, d, hs, hc, hd⟩

theorem cancelDelegation_ok {id c r : String}
    (hd : cancelDelegation rt t id c r ev log = .ok dec) :
    ∃ s d, read rt t log = .ok s ∧ s.closed = false ∧ s.delegation? id = some d ∧
      d.active = true ∧ nonblank c = true ∧ nonblank r = true ∧ ev.all nonblank = true ∧ ev ≠ [] ∧
      dec = .file ⟨s!"{t}:DELEGATION_CANCELLED:{id}:{c}", t,
        .delegationCancelled (bindingOf rt s d) r ev⟩ := by
  simp only [cancelDelegation, bind_eq_ok, activeDelegation_ok, requireTaskText_ok, requireTexts_ok,
    ite_error_ok, ↓throw_bind, pure_ok, and_assoc, exists_and_left, exists_eq_left,
    Bool.not_eq_true] at hd
  obtain ⟨s, hs, hc, d, hd⟩ := hd
  exact ⟨s, d, hs, hc, hd⟩

theorem recordCorrection_ok {id su o r w : String}
    (hd : recordCorrection rt t id su o r w ev log = .ok dec) :
    ∃ s, read rt t log = .ok s ∧ s.closed = false ∧ nonblank id = true ∧ nonblank su = true ∧
      nonblank o = true ∧ nonblank r = true ∧ nonblank w = true ∧ ev.all nonblank = true ∧ ev ≠ [] ∧
      dec = .file ⟨s!"{t}:CORRECTION:{id}", t, .correction id s.packet.subject
        (packetDigest rt s.packet) su o r w ev⟩ := by
  simpa only [recordCorrection, bind_eq_ok, requireTaskText_ok, requireTexts_ok, ite_error_ok,
    ↓throw_bind, pure_ok, and_assoc, exists_and_left, exists_eq_left, Bool.not_eq_true] using hd

theorem checkpoint_ok {id : String} {c : CheckpointContent}
    (hd : checkpoint rt t id c log = .ok dec) :
    ∃ s, read rt t log = .ok s ∧ s.closed = false ∧ nonblank id = true ∧
      c.correctionIdsAddressed.all nonblank = true ∧
      (¬∃ i ∈ c.correctionIdsAddressed, i ∉ s.unresolvedCorrectionIds) ∧
      (¬∃ i ∈ s.unresolvedCorrectionIds, i ∉ c.correctionIdsAddressed) ∧
      (∀ v ∈ (c.submitted rt s.packet).responses, nonblank v = true) ∧
      ¬(c.correctionIdsAddressed ≠ [] ∧ ¬(c.submitted rt s.packet).responses.any (· ≠ "") = true) ∧
      dec = .file ⟨s!"{t}:CHECKPOINT:{id}", t, .checkpoint (c.submitted rt s.packet)⟩ := by
  have optional {label : String} {v : Option String} {u : Unit} :
      requireOptionalText label v = .ok u ↔ ∀ x, v = some x → nonblank x = true := by
    cases v with
    | none => simp [requireOptionalText]
    | some x => simp [requireOptionalText, map_eq_ok, requireTaskText_ok]
  simp only [checkpoint, bind_eq_ok, requireTaskText_ok, requireTexts_ok, requireTaskDigest_ok,
    optional, ite_error_ok, ↓throw_bind, pure_ok, and_assoc, exists_and_left, exists_eq_left,
    exists_unit, Bool.not_eq_true] at hd
  obtain ⟨s, hs, hc, hid, -, -, -, had, hsub, hall, hm, hr, hb, hresp, -, -, -, hd⟩ := hd
  refine ⟨s, hs, hc, hid, had, hsub, hall, fun v hv => ?_, by simpa using hresp, hd⟩
  simp only [TaskCheckpoint.responses, CheckpointContent.submitted, List.mem_filterMap, id_eq,
    List.mem_cons, List.not_mem_nil, or_false] at hv
  obtain ⟨o, ho, rfl⟩ := hv
  rcases ho with ho | ho | ho
  · exact hm v ho.symm
  · exact hr v ho.symm
  · exact hb v ho.symm

theorem closeTask_ok {id : String} {ss : List (String × String)} {ev bl : List String}
    {c n d : String} (hd : closeTask rt t id ss ev bl c n d log = .ok dec) :
    ∃ s r, read rt t log = .ok s ∧ s.closed = false ∧ s.unresolvedCorrectionIds = [] ∧
      s.activeDelegations = [] ∧ nonblank id = true ∧ (d.length = 64 ∧ rt.hexInteger d = true) ∧
      validateSurfaces rt s.packet ss = .ok r ∧
      dec = .file ⟨s!"{t}:CLOSE:{id}", t, .closed r ev [] c n d⟩ := by
  simp only [closeTask, bind_eq_ok, requireTaskText_ok, requireTexts_ok, requireTaskDigest_ok,
    ite_error_ok, ↓throw_bind, pure_ok, and_assoc, exists_and_left, exists_eq_left, ne_eq, not_not,
    Bool.not_eq_true] at hd
  obtain ⟨s, hs, hc, hu, ha, hid, -, -, hl, hx, -, -, -, -, r, hr, hd⟩ := hd
  exact ⟨s, r, hs, hc, hu, ha, hid, ⟨hl, hx⟩, hr, hd⟩

/-! ## The fold takes what the commands file -/

def RendersText (py : Stdlib) : Prop :=
  ∀ text rendered, py.parseTimestamp text = .utc rendered → nonblank rendered = true

theorem normalizeString_nonblank {py : Stdlib} (hpy : RendersText py) {hint : KeyHint}
    {v v' : String} (h : normalizeString py hint (.valid v) = .ok v') (hv : nonblank v = true) :
    nonblank v' = true := by
  cases hint with
  | plain => exact Except.ok.inj h ▸ hv
  | path =>
    simp only [normalizeString, validateString, normalizeRelativePosixPath, ite_error_ok] at h
    exact Except.ok.inj h.2.2.2.2 ▸ hv
  | timestamp =>
    simp only [normalizeString, validateString, normalizeTimestamp] at h
    split at h <;> cases h
    exact hpy _ _ ‹_›

theorem canonicalValues_ok {py : Stdlib} {vs vs' : List (String × String)}
    (h : sequence (vs.map fun kv => (normalizeString py (keyHint kv.1) (.valid kv.2)).map
      fun v => (kv.1, v)) = .ok vs') :
    vs'.map Prod.fst = vs.map Prod.fst ∧ ∀ kv ∈ vs', ∃ v, (kv.1, v) ∈ vs ∧
      normalizeString py (keyHint kv.1) (.valid v) = .ok kv.2 := by
  replace h := sequence_ok h
  induction vs generalizing vs' with
  | nil =>
    obtain rfl : vs' = [] := by simpa using h
    exact ⟨rfl, nofun⟩
  | cons kv vs ih =>
    cases vs' with
    | nil => cases h
    | cons kv' vs' =>
      obtain ⟨h₁, h₂⟩ := List.cons.inj h
      obtain ⟨v, hv, rfl⟩ := map_eq_ok.1 h₁.symm
      obtain ⟨hf, hm⟩ := ih h₂
      refine ⟨by simp [hf], fun kv' hkv => ?_⟩
      rcases List.mem_cons.1 hkv with rfl | hkv
      · exact ⟨kv.2, List.mem_cons_self, hv⟩
      · obtain ⟨w, hw, hn⟩ := hm kv' hkv
        exact ⟨w, List.mem_cons_of_mem _ hw, hn⟩

/-- An event of an open task that the fold takes and the commands have checked. -/
def Ready (rt : TaskRuntime D) (log : TaskLedger D) (b : TaskBody D) : Prop :=
  ∃ h, history rt b.taskId log = .ok h ∧ (∃ h', foldEvent rt h (next rt log b) = .ok h') ∧
    Admissible rt log h b

variable {b : TaskBody D}

theorem bindDependency_ready {id k g : String} (hs : Sound rt log)
    (hd : bindDependency rt t id k g log = .ok (.file b)) : Ready rt log b := by
  obtain ⟨s, hr, hc, hid, hg, hk, ⟨d, -, -, -, hdec⟩ | ⟨hnew, hown, hother, hdec⟩⟩ :=
    bindDependency_ok hd
  · cases hdec
  · cases hdec
    obtain ⟨h, head, hh, -, rfl⟩ := read_ok.1 hr
    have hkind : nonblank k = true := by
      simp only [taskDependencyKinds, List.mem_cons, List.not_mem_nil, or_false] at hk
      rcases hk with rfl | rfl | rfl <;> decide
    refine ⟨h, hh, ?_, ?_⟩
    · rw [foldEvent, if_neg (by simpa using hc)]
      exact ⟨_, foldDependency_ok.2 ⟨hid, rfl, rfl, hkind, hk, hg,
        fun he => he.elim fun d hd => hnew d hd.1 hd.2, hown, rfl⟩⟩
    · intro t' h' hh' d hd hkg
      by_cases ht : t' = t
      · subst ht
        obtain rfl := Except.ok.inj (hh.symm.trans hh')
        exact hown ⟨d, hd, hkg⟩
      · exact hother t' _ (hs.read_eq hh') ht d hd hkg

theorem cancelDependency_ready {id r : String}
    (hd : cancelDependency rt t id r log = .ok (.file b)) : Ready rt log b := by
  obtain ⟨s, d, hr, hc, hid, hrs, hf, hdec⟩ := cancelDependency_ok hd
  cases hdec
  obtain ⟨h, head, hh, -, rfl⟩ := read_ok.1 hr
  have hact := List.mem_filter.1 (List.mem_of_find?_eq_some hf)
  have hdid : d.dependencyId = id := by simpa using List.find?_some hf
  have hcan : id ∉ h.cancelledDependencyIds := by simpa [hdid] using hact.2
  have hfind : h.dependencies.find? (fun d => d.dependencyId = id) = some d := by
    cases hf' : h.dependencies.find? fun d => d.dependencyId = id with
    | none => exact absurd hdid (by simpa using List.find?_eq_none.1 hf' d hact.1)
    | some d' =>
      have hdid' : d'.dependencyId = id := by simpa using List.find?_some hf'
      rw [List.inj_on_of_nodup_map (history_spec hh).1.dependencyIds (List.mem_of_find?_eq_some hf')
        hact.1 (hdid'.trans hdid.symm)]
  refine ⟨h, hh, ?_, trivial⟩
  rw [foldEvent, if_neg (by simpa using hc)]
  exact ⟨_, foldDependencyCancelled_ok.2 ⟨hid, rfl, rfl, d, hfind, hcan, ⟨rfl, rfl⟩, hrs, rfl⟩⟩

theorem delegateWork_ready {id p r su a : String} {al pr sh ev : List String} (hs : Sound rt log)
    (hd : delegateWork rt t id p r su a al pr sh ev log = .ok (.file b)) : Ready rt log b := by
  obtain ⟨s, hr, hc, hid, hp, hrf, hsu, ha, hal, hpr, hsh, hev, hsh', hev', hover, hnew, hother,
    hdec⟩ := delegateWork_ok hd
  cases hdec
  obtain ⟨h, head, hh, -, rfl⟩ := read_ok.1 hr
  refine ⟨h, hh, ?_, fun t' h' hh' d hd => hother t' _ (hs.read_eq hh') d hd⟩
  rw [foldEvent, if_neg (by simpa using hc)]
  exact ⟨_, foldDelegated_ok.2 ⟨hid, rfl, rfl, hnew, hal, hpr, hover, hsh, hev,
    not_or.2 ⟨hsh', hev'⟩, hp, hrf, hsu, ha, rfl⟩⟩

section
variable {h : TaskHistory D} {head : D} {d : TaskDelegation D} {id : String}

omit [DecidableEq D] in
/-- The events of a delegation's life repeat the delegation as it is read. -/
theorem bindingOf_boundTo : BoundTo rt h d (bindingOf rt (stateOf t head h) d) := rfl

omit [DecidableEq D] in
theorem delegation?_bindingOf (hd : h.delegation? id = some d) :
    h.delegation? (bindingOf rt (stateOf t head h) d).delegationId = some d := by
  rw [bindingOf, TaskHistory.delegation?_id hd, hd]

theorem nonblank_bindingOf (hh : history rt t log = .ok h) (hd : h.delegation? id = some d) :
    nonblank (bindingOf rt (stateOf t head h) d).delegationId = true :=
  (history_spec hh).1.delegationTexts d (TaskHistory.delegation?_mem hd)

end

variable {ev : List String}

theorem reassignDelegation_ready {id r a : String}
    (hd : reassignDelegation rt t id r a ev log = .ok (.file b)) : Ready rt log b := by
  obtain ⟨s, d, hr, hc, hf, hact, -, ha, hne, hev, hev', hdec⟩ := reassignDelegation_ok hd
  cases hdec
  obtain ⟨h, head, hh, -, rfl⟩ := read_ok.1 hr
  refine ⟨h, hh, ?_, trivial⟩
  rw [foldEvent, if_neg (by simpa using hc)]
  exact ⟨_, foldReassigned_ok.2 ⟨nonblank_bindingOf hh hf, d, delegation?_bindingOf hf, hact,
    bindingOf_boundTo, ha, hne, hev, hev', rfl⟩⟩

/-- The stored return values still have the keys of the return shape, and still say
something under each. -/
theorem canonicalReturn_ok {py : Stdlib} (hpy : RendersText py) {shape : List String}
    {vs vs' : List (String × String)} (hvs : ∀ key ∈ shape, nonblank (valueOf vs key) = true)
    (h : sequence ((shape.eraseDups.map fun key => (key, valueOf vs key)).map fun kv =>
      (normalizeString py (keyHint kv.1) (.valid kv.2)).map fun v => (kv.1, v)) = .ok vs') :
    SameKeys (vs'.map Prod.fst) shape ∧ ∀ key ∈ shape, nonblank (valueOf vs' key) = true ∧
      normalizeString py (keyHint key) (.valid (valueOf vs key)) = .ok (valueOf vs' key) := by
  obtain ⟨hf, hm⟩ := canonicalValues_ok h
  rw [map_fst_map] at hf
  refine ⟨hf ▸ ⟨fun _ => List.mem_eraseDups.1, fun _ => List.mem_eraseDups.2⟩, fun key hk => ?_⟩
  have hkey : key ∈ vs'.map Prod.fst := hf ▸ List.mem_eraseDups.2 hk
  obtain ⟨v, hv, hn⟩ := hm _ (mem_of_valueOf hkey)
  obtain ⟨key', -, heq⟩ := List.mem_map.1 hv
  obtain ⟨rfl, rfl⟩ := Prod.mk.inj heq
  exact ⟨normalizeString_nonblank hpy hn (hvs _ hk), hn⟩

theorem returnDelegation_ready {id r su : String} {vs : List (String × String)}
    {p : TaskPayload D} (hpy : RendersText rt.py)
    (hd : returnDelegation rt t id r su vs ev log = .ok (.file b))
    (hp : canonicalPayload rt b.payload = .ok p) : Ready rt log { b with payload := p } := by
  obtain ⟨s, d, hr, hc, hf, hact, -, hsu, -, hvs, hev, hev', hdec⟩ := returnDelegation_ok hd
  cases hdec
  obtain ⟨h, head, hh, -, rfl⟩ := read_ok.1 hr
  obtain ⟨vs', hseq, rfl⟩ := map_eq_ok.1 hp
  obtain ⟨hkeys, hvs'⟩ := canonicalReturn_ok hpy hvs hseq
  refine ⟨h, hh, ?_, trivial⟩
  rw [foldEvent, if_neg (by simpa using hc)]
  exact ⟨_, foldReturned_ok.2 ⟨nonblank_bindingOf hh hf, d, delegation?_bindingOf hf, hact,
    bindingOf_boundTo, hsu, hkeys, fun key hk => (hvs' key hk).1, hev, hev', rfl⟩⟩

theorem cancelDelegation_ready {id c r : String}
    (hd : cancelDelegation rt t id c r ev log = .ok (.file b)) : Ready rt log b := by
  obtain ⟨s, d, hr, hc, hf, hact, -, hrs, hev, hev', hdec⟩ := cancelDelegation_ok hd
  cases hdec
  obtain ⟨h, head, hh, -, rfl⟩ := read_ok.1 hr
  refine ⟨h, hh, ?_, trivial⟩
  rw [foldEvent, if_neg (by simpa using hc)]
  exact ⟨_, foldDelegationCancelled_ok.2 ⟨nonblank_bindingOf hh hf, d, delegation?_bindingOf hf, hact,
    bindingOf_boundTo, hrs, hev, hev', rfl⟩⟩

/-- A correction under a new event id has a new id. -/
theorem recordCorrection_ready {id su o r w : String} (hs : Sound rt log)
    (hd : recordCorrection rt t id su o r w ev log = .ok (.file b))
    (hn : (taskChain rt).lookup log b.eventId = none) : Ready rt log b := by
  obtain ⟨s, hr, hc, hid, hsu, ho, hrq, hw, hev, hev', hdec⟩ := recordCorrection_ok hd
  cases hdec
  obtain ⟨h, head, hh, -, rfl⟩ := read_ok.1 hr
  refine ⟨h, hh, ?_, rfl⟩
  rw [foldEvent, if_neg (by simpa using hc)]
  refine ⟨_, foldCorrection_ok.2 ⟨hid, rfl, rfl, hsu, ho, hrq, hw, hev, hev', ?_, rfl⟩⟩
  rintro ⟨c, hc', rfl⟩
  obtain ⟨e, he, hk⟩ := (hs.recorded _ _ hh).corrections c hc'
  exact Chaining.lookup_eq_none.1 hn (List.mem_map.2 ⟨e, he, hk⟩)

theorem checkpoint_ready {id : String} {c : CheckpointContent}
    (hd : checkpoint rt t id c log = .ok (.file b)) : Ready rt log b := by
  obtain ⟨s, hr, hc, hid, had, hsub, hall, hresp, hsome, hdec⟩ := checkpoint_ok hd
  cases hdec
  obtain ⟨h, head, hh, -, rfl⟩ := read_ok.1 hr
  refine ⟨h, hh, ?_, trivial⟩
  rw [foldEvent, if_neg (by simpa using hc)]
  simp only [mem_stateOf_unresolved] at hsub hall
  refine ⟨_, foldCheckpoint_ok.2 ⟨had, hsub, hall, ?_, rfl⟩⟩
  rintro ⟨hne, hno⟩
  refine hsome ⟨hne, fun hany => hno ?_⟩
  obtain ⟨v, hv, -⟩ := List.any_eq_true.1 hany
  exact List.any_eq_true.2 ⟨v, hv, hresp v hv⟩

theorem closeTask_ready {id : String} {ss : List (String × String)} {ev bl : List String}
    {c n d : String} (hd : closeTask rt t id ss ev bl c n d log = .ok (.file b)) :
    Ready rt log b := by
  obtain ⟨s, r, hr, hc, hu, ha, -, hdg, hv, hdec⟩ := closeTask_ok hd
  cases hdec
  obtain ⟨h, head, hh, -, rfl⟩ := read_ok.1 hr
  refine ⟨h, hh, ?_, stateOf_unresolved_nil.1 hu, ha⟩
  rw [foldEvent, if_neg (by simpa using hc)]
  exact ⟨_, foldClosed_ok.2 ⟨r, validateSurfaces_again hv, rfl, hdg, rfl⟩⟩

/-! ## Runs of commands -/

theorem openTask_sound {p : TaskPacket} {d : String} (hs : Sound rt log)
    (hd : openTask rt t p d log = .ok (.file b))
    (hn : (taskChain rt).lookup log b.eventId = none) : Sound rt (extend rt log b) := by
  obtain ⟨hv, -, hdg, hdec⟩ := openTask_ok hd
  cases hdec
  have hnil : events t log = [] := by
    by_contra he
    obtain ⟨h, hh⟩ := hs.readable t he
    obtain ⟨e, hmem, hid⟩ := (hs.recorded t h hh).opened
    exact Chaining.lookup_eq_none.1 hn (List.mem_map.2 ⟨e, hmem, hid⟩)
  exact hs.extend_open rfl hn hnil (openEvent_ok.2 ⟨p, _, d, rfl, hv, rfl, hdg, rfl⟩)

theorem Ready.sound (hs : Sound rt log) (hn : (taskChain rt).lookup log b.eventId = none)
    (hr : Ready rt log b) : Sound rt (extend rt log b) := by
  obtain ⟨h, hh, ⟨h', hf⟩, ha⟩ := hr
  exact hs.extend_event hn hh hf ha

theorem append_ok {e : TaskEvent D} {log' : TaskLedger D} (h : append rt b log = .ok (e, log')) :
    ∃ p, canonicalPayload rt b.payload = .ok p ∧
      (taskChain rt).append log { b with payload := p } = .ok (e, log') := by
  simp only [append, bind_eq_ok] at h
  obtain ⟨_, -, _, -, p, hp, h⟩ := h
  refine ⟨p, hp, ?_⟩
  split at h
  next r hr =>
    cases h
    exact hr
  · cases h
  · cases h

end TaskLedger

open TaskLedger

namespace TaskCommand

variable {log : TaskLedger D} {c : TaskCommand} {b : TaskBody D}

def eventId : TaskCommand → String
  | .openTask t .. => s!"{t}:OPEN"
  | .bindDependency t i .. => s!"{t}:DEPENDENCY:{i}"
  | .cancelDependency t i _ => s!"{t}:DEPENDENCY_CANCELLED:{i}"
  | .delegateWork t i .. => s!"{t}:DELEGATED:{i}"
  | .reassignDelegation t i r .. => s!"{t}:DELEGATION_REASSIGNED:{i}:{r}"
  | .returnDelegation t i r .. => s!"{t}:DELEGATION_RETURNED:{i}:{r}"
  | .cancelDelegation t i c .. => s!"{t}:DELEGATION_CANCELLED:{i}:{c}"
  | .recordCorrection t i .. => s!"{t}:CORRECTION:{i}"
  | .checkpoint t i _ => s!"{t}:CHECKPOINT:{i}"
  | .closeTask t i .. => s!"{t}:CLOSE:{i}"

/-- The event that a command files: what is stored of it is what was filed, but for
return values. -/
theorem decision_file (hd : c.decision rt log = .ok (.file b)) :
    b.taskId = c.taskId ∧ b.eventId = c.eventId ∧
      ((∃ t i r s vs ev, c = .returnDelegation t i r s vs ev) ∨
        canonicalPayload rt b.payload = .ok b.payload) := by
  cases c <;> simp only [decision] at hd
  case openTask =>
    cases (openTask_ok hd).2.2.2
    exact ⟨rfl, rfl, .inr rfl⟩
  case bindDependency =>
    obtain ⟨_, _, _, _, _, _, ⟨_, _, _, _, h⟩ | ⟨_, _, _, h⟩⟩ := bindDependency_ok hd <;> cases h
    exact ⟨rfl, rfl, .inr rfl⟩
  case cancelDependency =>
    obtain ⟨_, _, _, _, _, _, _, h⟩ := cancelDependency_ok hd
    cases h
    exact ⟨rfl, rfl, .inr rfl⟩
  case delegateWork =>
    obtain ⟨_, _, _, _, _, _, _, _, _, _, _, _, _, _, _, _, _, h⟩ := delegateWork_ok hd
    cases h
    exact ⟨rfl, rfl, .inr rfl⟩
  case reassignDelegation =>
    obtain ⟨_, _, _, _, _, _, _, _, _, _, _, h⟩ := reassignDelegation_ok hd
    cases h
    exact ⟨rfl, rfl, .inr rfl⟩
  case returnDelegation =>
    obtain ⟨_, _, _, _, _, _, _, _, _, _, _, _, h⟩ := returnDelegation_ok hd
    cases h
    exact ⟨rfl, rfl, .inl ⟨_, _, _, _, _, _, rfl⟩⟩
  case cancelDelegation =>
    obtain ⟨_, _, _, _, _, _, _, _, _, _, h⟩ := cancelDelegation_ok hd
    cases h
    exact ⟨rfl, rfl, .inr rfl⟩
  case recordCorrection =>
    obtain ⟨_, _, _, _, _, _, _, _, _, _, h⟩ := recordCorrection_ok hd
    cases h
    exact ⟨rfl, rfl, .inr rfl⟩
  case checkpoint =>
    obtain ⟨_, _, _, _, _, _, _, _, _, h⟩ := checkpoint_ok hd
    cases h
    exact ⟨rfl, rfl, .inr rfl⟩
  case closeTask =>
    obtain ⟨_, _, _, _, _, _, _, _, _, h⟩ := closeTask_ok hd
    cases h
    exact ⟨rfl, rfl, .inr rfl⟩

/-- A sound ledger takes what a command files under a new id. -/
theorem decision_sound (hpy : RendersText rt.py) (hs : Sound rt log)
    (hd : c.decision rt log = .ok (.file b)) {p : TaskPayload D}
    (hp : canonicalPayload rt b.payload = .ok p) (hn : (taskChain rt).lookup log b.eventId = none) :
    Sound rt (extend rt log { b with payload := p }) := by
  obtain ⟨-, -, ⟨t, i, r, s, vs, ev, rfl⟩ | hsame⟩ := decision_file hd
  · exact (returnDelegation_ready hpy hd hp).sound hs hn
  · obtain rfl : b.payload = p := Except.ok.inj (hsame.symm.trans hp)
    change Sound rt (extend rt log b)
    cases c <;> simp only [decision] at hd
    case openTask => exact openTask_sound hs hd hn
    case bindDependency => exact (bindDependency_ready hs hd).sound hs hn
    case cancelDependency => exact (cancelDependency_ready hd).sound hs hn
    case delegateWork => exact (delegateWork_ready hs hd).sound hs hn
    case reassignDelegation => exact (reassignDelegation_ready hd).sound hs hn
    case returnDelegation => exact (returnDelegation_ready hpy hd hp).sound hs hn
    case cancelDelegation => exact (cancelDelegation_ready hd).sound hs hn
    case recordCorrection => exact (recordCorrection_ready hs hd hn).sound hs hn
    case checkpoint => exact (checkpoint_ready hd).sound hs hn
    case closeTask => exact (closeTask_ready hd).sound hs hn

variable (rt log c) in
theorem run_cases : (∃ e, c.run rt log = (.error e, log)) ∨
    (∃ s, c.decision rt log = .ok (.answer s) ∧ c.run rt log = (.ok s, log)) ∨
    ∃ b p, c.decision rt log = .ok (.file b) ∧ canonicalPayload rt b.payload = .ok p ∧
      ((∃ e ∈ log.entries, e.body.eventId = b.eventId ∧ e.body.taskId = b.taskId ∧
          e.body.payload = p ∧ c.run rt log = (read rt c.taskId log, log)) ∨
        (taskChain rt).lookup log b.eventId = none ∧
          (∀ e ∈ log.entries, e.digest ≠ (next rt log { b with payload := p }).digest) ∧
          c.run rt log = (read rt c.taskId (extend rt log { b with payload := p }),
            extend rt log { b with payload := p })) := by
  cases hd : c.decision rt log with
  | error e => exact .inl ⟨e, by rw [run, hd]⟩
  | ok dec =>
    cases dec with
    | answer s => exact .inr (.inl ⟨s, rfl, by rw [run, hd]⟩)
    | file b =>
      cases ha : append rt b log with
      | error e => exact .inl ⟨e, by rw [run, hd]; simp only [ha]⟩
      | ok r =>
        obtain ⟨e, log'⟩ := r
        obtain ⟨p, hp, happ⟩ := append_ok ha
        have hrun : c.run rt log = (read rt c.taskId log', log') := by
          rw [run, hd]
          simp only [ha]
        refine .inr (.inr ⟨b, p, rfl, hp, ?_⟩)
        rcases Chaining.append_cases happ with ⟨rfl, hl, hpay⟩ | ⟨hn, -, rfl⟩
        · obtain ⟨hmem, hkey⟩ := Chaining.lookup_mem hl
          obtain ⟨ht, hpl⟩ := Prod.mk.inj hpay
          exact .inl ⟨e, hmem, hkey, ht, hpl, hrun⟩
        · refine .inr ⟨hn, fun e he hdg => ?_, hrun⟩
          rw [Chaining.append, hn] at happ
          simp only at happ
          rw [if_pos ⟨e, he, hdg⟩] at happ
          cases happ

theorem run_sound (hpy : RendersText rt.py) (hs : Sound rt log) : Sound rt (c.run rt log).2 := by
  obtain ⟨e, hr⟩ | ⟨s, -, hr⟩ | ⟨b, p, hd, hp, ⟨e, -, -, -, -, hr⟩ | ⟨hn, -, hr⟩⟩ := run_cases rt log c
  · rwa [hr]
  · rwa [hr]
  · rwa [hr]
  · rw [hr]
    exact decision_sound hpy hs hd hp hn

theorem runAll_sound (hpy : RendersText rt.py) (cs : List TaskCommand) : Sound rt (runAll rt cs) := by
  rw [runAll]
  induction cs using List.reverseRecOn with
  | nil => exact sound_empty
  | append_singleton cs c ih =>
    rw [List.foldl_append]
    exact run_sound hpy ih

theorem run_error (hpy : RendersText rt.py) (hs : Sound rt log) {f : Failure}
    (hf : (c.run rt log).1 = .error f) : (c.run rt log).2 = log := by
  obtain ⟨e, hr⟩ | ⟨s, -, hr⟩ | ⟨b, p, hd, hp, ⟨e, -, -, -, -, hr⟩ | ⟨hn, -, hr⟩⟩ := run_cases rt log c
  · rw [hr]
  · rw [hr]
  · rw [hr]
  · have hs' := decision_sound hpy hs hd hp hn
    have ht := (decision_file hd).1
    have hne : events c.taskId (extend rt log { b with payload := p }) ≠ [] := by
      rw [← ht]
      exact events_extend_self (b := { b with payload := p }) ▸ List.append_ne_nil_of_right_ne_nil _ (by simp)
    obtain ⟨h, hh⟩ := hs'.readable _ hne
    rw [hr, hs'.read_eq hh] at hf
    cases hf

end TaskCommand

end VeraMono

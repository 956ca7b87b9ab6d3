import VeraMono.Model.PcSample
import VeraMono.Model.TaskScope
import VeraMono.Proof.TaskAgreement

/-!
# What a failed call leaves of a task's dependencies

A call binds its dependency first, and an already bound dependency is answered as it is. So when
the work fails, the compensation meets either the dependency that this call has just bound or one
that stood before it, and cancels both alike: `CancelsBound` is the second case, and there the call
drops an obligation. `bindDependency_keeps` and `failed_call_keeps_iff` say so of the binding and
of the whole call.
-/

namespace VeraMono

open Framework TaskLedger

variable {D : Type} [DecidableEq D]

/-! ## Dependencies of a sound ledger -/

namespace TaskLedger

variable {rt : TaskRuntime D} {log log' : TaskLedger D} {t id : String} {h : TaskHistory D}

def ActiveDependency (rt : TaskRuntime D) (t : String) (d : TaskDependency D) (log : TaskLedger D) :
    Prop :=
  ∃ state, read rt t log = .ok state ∧ d ∈ state.activeDependencies

instance (d : TaskDependency D) (log : TaskLedger D) : Decidable (ActiveDependency rt t d log) :=
  decidable_of_iff (∃ state ∈ (read rt t log).toOption, d ∈ state.activeDependencies) (by
    cases h : read rt t log <;> simp [ActiveDependency, h, Except.toOption])

def KeepsActive (rt : TaskRuntime D) (t : String) (log log' : TaskLedger D) : Prop :=
  ∀ d, ActiveDependency rt t d log → ActiveDependency rt t d log'

theorem KeepsActive.rfl : KeepsActive rt t log log := fun _ hd => hd

theorem Sound.active (hs : Sound rt log) (hh : history rt t log = .ok h) {d : TaskDependency D} :
    ActiveDependency rt t d log ↔ d ∈ h.activeDependencies := by
  constructor
  · rintro ⟨state, hr, hd⟩
    obtain rfl := Except.ok.inj ((hs.read_eq hh).symm.trans hr)
    exact hd
  · exact fun hd => ⟨_, hs.read_eq hh, hd⟩

omit [DecidableEq D] in
theorem mem_activeDependencies {d : TaskDependency D} : d ∈ h.activeDependencies ↔
    d ∈ h.dependencies ∧ d.dependencyId ∉ h.cancelledDependencyIds := by
  rw [TaskHistory.activeDependencies, List.mem_filter, decide_eq_true_eq]

theorem find_dependency (hh : history rt t log = .ok h) {d : TaskDependency D} (hd : d ∈ h.dependencies) :
    h.dependencies.find? (fun d' => d'.dependencyId = d.dependencyId) = some d := by
  cases hf : h.dependencies.find? fun d' => d'.dependencyId = d.dependencyId with
  | none => simpa using List.find?_eq_none.1 hf d hd
  | some d' =>
    have hid : d'.dependencyId = d.dependencyId := by simpa using List.find?_some hf
    rw [List.inj_on_of_nodup_map (history_spec hh).1.dependencyIds (List.mem_of_find?_eq_some hf) hd hid]

end TaskLedger

namespace TaskCommand

variable {rt : TaskRuntime D} {log : TaskLedger D} {t id k g r : String} {state : TaskState D}

/-- A dependency that was bound anew: it had no predecessor, and nothing else changed. -/
theorem bindDependency_keeps (hpy : RendersText rt.py) (hs : Sound rt log) (t id k g : String) :
    KeepsActive rt t log ((bindDependency t id k g).run rt log).2 := by
  obtain ⟨e, hr⟩ | ⟨s, -, hr⟩ | ⟨b, p, hd, hp, ⟨e, -, -, -, -, hr⟩ | ⟨hn, -, hr⟩⟩ :=
    run_cases rt log (bindDependency t id k g)
  · rw [hr]
    exact .rfl
  · rw [hr]
    exact .rfl
  · rw [hr]
    exact .rfl
  rw [hr]
  have hs' := decision_sound hpy hs hd hp hn
  obtain ⟨h, hh, ⟨h', hf⟩, -⟩ := bindDependency_ready hs hd
  obtain ⟨_, _, _, _, _, _, ⟨_, _, _, _, hdec⟩ | ⟨_, _, _, hdec⟩⟩ := bindDependency_ok hd
  · cases hdec
  cases hdec
  obtain rfl := Except.ok.inj hp
  have hh' := (history_extend_fold hh).2 hf
  rw [foldEvent] at hf
  split at hf
  · cases hf
  obtain ⟨-, -, -, -, -, -, -, -, rfl⟩ := foldDependency_ok.1 hf
  intro d hd
  rw [hs.active hh, mem_activeDependencies] at hd
  rw [Sound.active hs' hh', mem_activeDependencies]
  exact ⟨List.mem_append_left _ hd.1, hd.2⟩

theorem cancelDependency_keeps (hpy : RendersText rt.py) (hs : Sound rt log) {d : TaskDependency D}
    (hd : ActiveDependency rt t d log) (hne : d.dependencyId ≠ id) :
    ActiveDependency rt t d ((cancelDependency t id r).run rt log).2 := by
  obtain ⟨e, hr⟩ | ⟨s, -, hr⟩ | ⟨b, p, hdec, hp, ⟨e, -, -, -, -, hr⟩ | ⟨hn, -, hr⟩⟩ :=
    run_cases rt log (cancelDependency t id r)
  · rwa [hr]
  · rwa [hr]
  · rwa [hr]
  rw [hr]
  have hs' := decision_sound hpy hs hdec hp hn
  obtain ⟨h, hh, ⟨h', hf⟩, -⟩ := cancelDependency_ready hdec
  obtain ⟨_, _, _, _, _, _, _, hfile⟩ := cancelDependency_ok hdec
  cases hfile
  obtain rfl := Except.ok.inj hp
  have hh' := (history_extend_fold hh).2 hf
  rw [foldEvent] at hf
  split at hf
  · cases hf
  obtain ⟨-, -, -, _, -, -, -, -, rfl⟩ := foldDependencyCancelled_ok.1 hf
  rw [hs.active hh, mem_activeDependencies] at hd
  rw [Sound.active hs' hh', mem_activeDependencies]
  refine ⟨hd.1, ?_⟩
  simp only [TaskHistory.cancelledDependencyIds, List.map_append, List.mem_append, List.map_cons,
    List.map_nil, List.mem_singleton, not_or]
  exact ⟨hd.2, hne⟩

theorem cancelDependency_cancels (hpy : RendersText rt.py) (hs : Sound rt log)
    (hrun : ((cancelDependency t id r).run rt log).1 = .ok state) {d : TaskDependency D}
    (hid : d.dependencyId = id) :
    ¬ ActiveDependency rt t d ((cancelDependency t id r).run rt log).2 := by
  obtain ⟨e, hr⟩ | ⟨s, hdec, -⟩ | ⟨b, p, hdec, hp, ⟨e, he, -, het, hep, hr⟩ | ⟨hn, -, hr⟩⟩ :=
    run_cases rt log (cancelDependency t id r)
  · rw [hr] at hrun
    cases hrun
  · obtain ⟨_, _, _, _, _, _, _, hfile⟩ := cancelDependency_ok hdec
    cases hfile
  · rw [hr] at hrun ⊢
    obtain ⟨s, d', hread, -, -, -, hact, hfile⟩ := cancelDependency_ok hdec
    cases hfile
    obtain rfl := Except.ok.inj hp
    obtain ⟨h, _, hh, -, rfl⟩ := read_ok.1 hread
    -- the event that is there already shows in the history
    have hv := (history_spec hh).2 e (mem_events.2 ⟨he, het⟩)
    rw [TaskHistory.Visible, hep] at hv
    obtain ⟨c, hc, hcid, -⟩ := hv
    rw [hs.active hh, mem_activeDependencies, hid]
    exact fun hd => hd.2 (List.mem_map.2 ⟨c, hc, hcid⟩)
  · rw [hr]
    have hs' := decision_sound hpy hs hdec hp hn
    obtain ⟨h, hh, ⟨h', hf⟩, -⟩ := cancelDependency_ready hdec
    obtain ⟨_, _, _, _, _, _, _, hfile⟩ := cancelDependency_ok hdec
    cases hfile
    obtain rfl := Except.ok.inj hp
    have hh' := (history_extend_fold hh).2 hf
    rw [foldEvent] at hf
    split at hf
    · cases hf
    obtain ⟨-, -, -, _, -, -, -, -, rfl⟩ := foldDependencyCancelled_ok.1 hf
    rw [Sound.active hs' hh', mem_activeDependencies]
    rintro ⟨-, hd⟩
    simp [TaskHistory.cancelledDependencyIds, hid] at hd

end TaskCommand

namespace QualifiedRuntime

variable {Q : QualifiedRuntime D} {s : QualifiedState D} {scope : TaskScope} {t id : String}

/-! ## The steps of a call -/

theorem bindTaskDependencyUnlocked_cases (Q : QualifiedRuntime D) (t id k g : String)
    (s : QualifiedState D) :
    (∃ e, bindTaskDependencyUnlocked Q t id k g s = (.error e, s)) ∨
    (∃ state d, read Q.tasks t s.tasks = .ok state ∧ d ∈ state.activeDependencies ∧
      (d.dependencyId = id ∧ d.kind = k ∧ d.targetId = g) ∧
      bindTaskDependencyUnlocked Q t id k g s = (.ok state, s)) ∨
    ∃ state, read Q.tasks t s.tasks = .ok state ∧ (∀ d ∈ state.dependencies, d.dependencyId ≠ id) ∧
      bindTaskDependencyUnlocked Q t id k g s =
        (((TaskCommand.bindDependency t id k g).run Q.tasks s.tasks).1,
          { s with tasks := ((TaskCommand.bindDependency t id k g).run Q.tasks s.tasks).2 }) := by
  unfold bindTaskDependencyUnlocked
  cases hr : read Q.tasks t s.tasks with
  | error e => exact .inl ⟨e, rfl⟩
  | ok state =>
    dsimp only
    split
    · exact .inl ⟨_, rfl⟩
    cases hf : state.dependencies.find? fun d => d.dependencyId = id with
    | some d =>
      dsimp only
      have hid : d.dependencyId = id := by simpa using List.find?_some hf
      split
      · exact .inl ⟨_, rfl⟩
      next hkg =>
        split
        · exact .inl ⟨_, rfl⟩
        next hcancelled =>
          simp only [not_or, not_not] at hkg
          refine .inr (.inl ⟨state, d, rfl, ?_, ⟨hid, hkg⟩, rfl⟩)
          exact mem_activeDependencies.2 ⟨List.mem_of_find?_eq_some hf, hid ▸ hcancelled⟩
    | none =>
      dsimp only
      cases taskDependencyTargetStarted Q k g s.outbound with
      | error e => exact .inl ⟨e, rfl⟩
      | ok started =>
        cases started with
        | true => exact .inl ⟨_, rfl⟩
        | false =>
          refine .inr (.inr ⟨state, rfl, fun d hd hid => ?_, rfl⟩)
          exact absurd hid (by simpa using List.find?_eq_none.1 hf d hd)

theorem workFailed_tasks {α : Type} (Q : QualifiedRuntime D) (scope : TaskScope) (t id : String)
    (e : Failure) (s : QualifiedState D) :
    (workFailed (α := α) Q scope t id e s).2.tasks = s.tasks ∨
      taskDependencyTargetStarted Q scope.kind scope.targetId s.outbound = .ok false ∧
        (workFailed (α := α) Q scope t id e s).2.tasks =
          ((TaskCommand.cancelDependency t id scope.reason).run Q.tasks s.tasks).2 := by
  unfold workFailed
  cases taskDependencyTargetStarted Q scope.kind scope.targetId s.outbound with
  | error e => exact .inl rfl
  | ok started =>
    cases started with
    | true => exact .inl rfl
    | false => exact .inr ⟨rfl, rfl⟩

/-! ## The condition -/

/-- The work fails before its target has started, the dependency was active before the call,
and the ledger takes the cancellation. -/
def CancelsBound {α : Type} (Q : QualifiedRuntime D) (scope : TaskScope) (t id : String)
    (work : Work D α) (s : QualifiedState D) : Prop :=
  ∃ state d ref e outbound, read Q.tasks t s.tasks = .ok state ∧ state.closed = false ∧
    d ∈ state.activeDependencies ∧ (d.dependencyId = id ∧ d.kind = scope.kind ∧
      d.targetId = scope.targetId) ∧ dependencyRef Q state id = .ok ref ∧
    work ref s = (.error e, outbound) ∧
    taskDependencyTargetStarted Q scope.kind scope.targetId outbound = .ok false ∧
    ∃ cancelled, ((TaskCommand.cancelDependency t id scope.reason).run Q.tasks s.tasks).1 = .ok cancelled

variable {α : Type} {work : Work D α}

theorem taskScoped_drops (hpy : RendersText Q.tasks.py) (hs : Sound Q.tasks s.tasks)
    (h : CancelsBound Q scope t id work s) : (∃ e, (taskScoped Q scope t id work s).1 = .error e) ∧
      ¬ KeepsActive Q.tasks t s.tasks (taskScoped Q scope t id work s).2.tasks := by
  obtain ⟨state, d, ref, e, outbound, hr, hc, hact, ⟨hid, hk, hg⟩, href, hwork, hstart, cancelled,
    hcancel⟩ := h
  obtain ⟨hist, head, hh, -, rfl⟩ := read_ok.1 hr
  obtain ⟨hdep, hlive⟩ := mem_activeDependencies.1 hact
  have hfind := find_dependency hh hdep
  rw [hid] at hfind hlive
  have hbind : bindTaskDependencyUnlocked Q t id scope.kind scope.targetId s =
      (.ok (stateOf t head hist), s) := by
    unfold bindTaskDependencyUnlocked
    rw [hr]
    dsimp only
    rw [if_neg (by rw [hc]; exact Bool.false_ne_true), stateOf_dependencies, hfind]
    dsimp only
    rw [if_neg (not_or.2 ⟨not_not.2 hk, not_not.2 hg⟩), if_neg hlive]
  have hcall : taskScoped Q scope t id work s = (.error e, { s with
      outbound
      tasks := ((TaskCommand.cancelDependency t id scope.reason).run Q.tasks s.tasks).2 }) := by
    unfold taskScoped
    rw [hr]
    dsimp only
    rw [if_neg (by rw [hc]; exact Bool.false_ne_true), hbind]
    dsimp only
    rw [href]
    dsimp only
    rw [hwork]
    dsimp only
    unfold workFailed
    dsimp only
    rw [hstart]
    dsimp only
    rw [hcancel]
    rfl
  rw [hcall]
  refine ⟨⟨e, rfl⟩, fun hkeep => ?_⟩
  exact TaskCommand.cancelDependency_cancels hpy hs hcancel hid (hkeep d ⟨_, hr, hact⟩)

theorem taskScoped_keeps (hpy : RendersText Q.tasks.py) (hs : Sound Q.tasks s.tasks)
    (h : ¬ CancelsBound Q scope t id work s) {e : Failure}
    (he : (taskScoped Q scope t id work s).1 = .error e) :
    KeepsActive Q.tasks t s.tasks (taskScoped Q scope t id work s).2.tasks := by
  unfold taskScoped at he ⊢
  cases hr : read Q.tasks t s.tasks with
  | error _ => exact .rfl
  | ok state =>
    rw [hr] at he
    dsimp only at he ⊢
    split at he
    next hc =>
      rw [if_pos hc]
      exact .rfl
    next hc =>
      rw [if_neg hc]
      obtain ⟨_, hb⟩ | ⟨_, d, hr', hact, hsame, hb⟩ | ⟨_, hr', hnew, hb⟩ :=
        bindTaskDependencyUnlocked_cases Q t id scope.kind scope.targetId s
      · rw [hb]
        exact .rfl
      · obtain rfl := Except.ok.inj (hr.symm.trans hr')
        rw [hb] at he ⊢
        dsimp only at he ⊢
        cases href : dependencyRef Q state id with
        | error _ => exact .rfl
        | ok ref =>
          rw [href] at he
          dsimp only at he ⊢
          rcases hw : work ref s with ⟨e' | a, outbound⟩
          · dsimp only
            obtain heq | ⟨hstart, heq⟩ := workFailed_tasks (α := α) Q scope t id e'
              { s with outbound }
            · rw [heq]
              exact .rfl
            rw [heq]
            cases hrun : ((TaskCommand.cancelDependency t id scope.reason).run Q.tasks s.tasks).1 with
            | error _ =>
              dsimp only
              rw [TaskCommand.run_error hpy hs hrun]
              exact .rfl
            | ok cancelled =>
              exact absurd ⟨state, d, ref, e', outbound, hr, Bool.eq_false_iff.2 hc, hact, hsame, href,
                hw, hstart, cancelled, hrun⟩ h
          · rw [hw] at he
            cases he
      · obtain rfl := Except.ok.inj (hr.symm.trans hr')
        have hbound := TaskCommand.bindDependency_keeps hpy hs t id scope.kind scope.targetId
        rw [hb] at he ⊢
        cases hrun : ((TaskCommand.bindDependency t id scope.kind scope.targetId).run Q.tasks s.tasks).1 with
        | error _ => exact hbound
        | ok bound =>
          rw [hrun] at he
          dsimp only at he ⊢
          cases href : dependencyRef Q bound id with
          | error _ => exact hbound
          | ok ref =>
            rw [href] at he
            dsimp only at he ⊢
            rcases hw : work ref _ with ⟨e' | a, outbound⟩
            · dsimp only
              obtain heq | ⟨-, heq⟩ := workFailed_tasks (α := α) Q scope t id e' ⟨outbound, _⟩
              · rw [heq]
                exact hbound
              rw [heq]
              intro d hd
              refine TaskCommand.cancelDependency_keeps hpy (TaskCommand.run_sound hpy hs) (hbound d hd) ?_
              obtain ⟨state', hread, hactive⟩ := hd
              obtain rfl := Except.ok.inj (hr.symm.trans hread)
              exact hnew d (mem_activeDependencies.1 hactive).1
            · rw [hw] at he
              cases he

theorem taskScoped_keeps_iff (hpy : RendersText Q.tasks.py) (hs : Sound Q.tasks s.tasks) :
    ((∃ e, (taskScoped Q scope t id work s).1 = .error e) →
      KeepsActive Q.tasks t s.tasks (taskScoped Q scope t id work s).2.tasks) ↔
    ¬ CancelsBound Q scope t id work s :=
  ⟨fun hkeep hc => (taskScoped_drops hpy hs hc).2 (hkeep (taskScoped_drops hpy hs hc).1),
    fun hc ⟨_, he⟩ => taskScoped_keeps hpy hs hc he⟩

end QualifiedRuntime

/-! ## The three calls -/

open QualifiedRuntime

inductive TaskCall (D : Type)
  | invokeTaskCoordination (bus : Option Bool) (taskId dependencyId : String) (args : InvokeArgs D)
  | prepareTaskProviderEffect (taskId dependencyId : String) (args : ProviderArgs)
  | prepareTaskPcJob (taskId dependencyId : String) (job : JobEnvelope)
      (authorization : AuthorizationEnvelope)

namespace TaskCall

variable (Q : QualifiedRuntime D)

def taskId : TaskCall D → String
  | .invokeTaskCoordination _ t .. | .prepareTaskProviderEffect t .. | .prepareTaskPcJob t .. => t

/-- What a call raises, and the state it leaves. -/
def raised {α : Type} : Except Failure α × QualifiedState D → Option Failure × QualifiedState D
  | (.error e, s) => (some e, s)
  | (.ok _, s) => (none, s)

omit [DecidableEq D] in
theorem raised_isSome {α : Type} (r : Except Failure α × QualifiedState D) :
    (raised r).1.isSome = true ↔ ∃ e, r.1 = .error e := by
  obtain ⟨_ | _, _⟩ := r <;> simp [raised]

omit [DecidableEq D] in
theorem raised_state {α : Type} (r : Except Failure α × QualifiedState D) : (raised r).2 = r.2 := by
  obtain ⟨_ | _, _⟩ := r <;> rfl

def run (s : QualifiedState D) : TaskCall D → Option Failure × QualifiedState D
  | .invokeTaskCoordination bus t i args =>
    raised (QualifiedRuntime.invokeTaskCoordination Q bus t i args s)
  | .prepareTaskProviderEffect t i args =>
    raised (QualifiedRuntime.prepareTaskProviderEffect Q t i args s)
  | .prepareTaskPcJob t i job authorization =>
    raised (QualifiedRuntime.prepareTaskPcJob Q t i job authorization s)

/-- The failure of a call meets a dependency that was active before it. -/
def CancelsBound (s : QualifiedState D) : TaskCall D → Prop
  | .invokeTaskCoordination bus t i args => ∃ implemented, bus = some implemented ∧
    QualifiedRuntime.CancelsBound Q (coordinationScope args.commandId) t i
      (coordinationWork Q implemented args) s
  | .prepareTaskProviderEffect t i args =>
    QualifiedRuntime.CancelsBound Q (providerScope args.effectId) t i (prepareProviderEffect Q args) s
  | .prepareTaskPcJob t i job authorization =>
    QualifiedRuntime.CancelsBound Q (pcScope job) t i (preparePcJob Q job authorization) s

end TaskCall

/-- A call that raises keeps the active dependencies of its task, unless it cancels one that it
found bound. -/
theorem failed_call_keeps_iff {Q : QualifiedRuntime D} (hpy : RendersText Q.tasks.py)
    (cs : List TaskCommand) (outbound : OutboundStores D) (call : TaskCall D) :
    ((call.run Q ⟨outbound, TaskCommand.runAll Q.tasks cs⟩).1.isSome →
      KeepsActive Q.tasks call.taskId (TaskCommand.runAll Q.tasks cs)
        (call.run Q ⟨outbound, TaskCommand.runAll Q.tasks cs⟩).2.tasks) ↔
    ¬ call.CancelsBound Q ⟨outbound, TaskCommand.runAll Q.tasks cs⟩ := by
  have hs := TaskCommand.runAll_sound hpy cs
  cases call with
  | invokeTaskCoordination bus t i args =>
    cases bus with
    | none => exact ⟨fun _ ⟨_, h, _⟩ => Option.some_ne_none _ h.symm, fun _ _ => .rfl⟩
    | some implemented =>
      simp only [TaskCall.run, TaskCall.raised_isSome, TaskCall.raised_state, TaskCall.CancelsBound,
        Option.some.injEq, exists_eq_left']
      exact taskScoped_keeps_iff hpy hs
  | prepareTaskProviderEffect t i args =>
    simp only [TaskCall.run, TaskCall.raised_isSome, TaskCall.raised_state, TaskCall.CancelsBound]
    exact taskScoped_keeps_iff hpy hs
  | prepareTaskPcJob t i job authorization =>
    simp only [TaskCall.run, TaskCall.raised_isSome, TaskCall.raised_state, TaskCall.CancelsBound]
    exact taskScoped_keeps_iff hpy hs

/-- A runtime that computes. -/
def sampleQualified : QualifiedRuntime Nat := ⟨samplePc, sampleTasks⟩

/-- A task whose dependency on a provider effect is bound before the effect is prepared. -/
def boundRun : List TaskCommand :=
  [.openTask "t" samplePacket sampleDigest, .bindDependency "t" "d" "PROVIDER_EFFECT" "e"]

/-- The stores of a new state directory. -/
def newOutbound : OutboundStores Nat := ⟨VeraState.initial samplePc.vera.hash 0, .empty, .empty⟩

def samplePreparation : TaskCall Nat := .prepareTaskProviderEffect "t" "d" ⟨"e", "p", "o", .none⟩

def boundDependency : TaskDependency Nat where
  dependencyId := "d"
  kind := "PROVIDER_EFFECT"
  targetId := "e"
  eventDigest := 71428260757863474383200978294997806869956142122660789102437870406343681149058

/-- A preparation that fails before the lifecycle is accepted cancels the dependency that was
bound before it. -/
theorem failed_preparation_drops :
    ActiveDependency sampleTasks "t" boundDependency (TaskCommand.runAll sampleTasks boundRun) ∧
      (samplePreparation.run sampleQualified
        ⟨newOutbound, TaskCommand.runAll sampleTasks boundRun⟩).1.isSome ∧
      ¬ ActiveDependency sampleTasks "t" boundDependency (samplePreparation.run sampleQualified
        ⟨newOutbound, TaskCommand.runAll sampleTasks boundRun⟩).2.tasks := by
  decide +kernel

/-- The same preparation of a task without dependencies drops none. -/
theorem first_preparation_keeps : KeepsActive sampleQualified.tasks samplePreparation.taskId
    (TaskCommand.runAll sampleQualified.tasks (boundRun.take 1))
    (samplePreparation.run sampleQualified
      ⟨newOutbound, TaskCommand.runAll sampleQualified.tasks (boundRun.take 1)⟩).2.tasks := by
  have hnone : ((TaskLedger.read sampleQualified.tasks "t"
        (TaskCommand.runAll sampleQualified.tasks (boundRun.take 1))).map
      fun s => s.activeDependencies) = .ok [] ∧
      (samplePreparation.run sampleQualified
        ⟨newOutbound, TaskCommand.runAll sampleQualified.tasks (boundRun.take 1)⟩).1.isSome := by
    decide +kernel
  have hpy : RendersText sampleQualified.tasks.py := rendersText_sample
  refine (failed_call_keeps_iff hpy (boundRun.take 1) newOutbound samplePreparation).2 ?_ hnone.2
  rintro ⟨state, d, _, _, _, hr, -, hd, -⟩
  have hnil : (Except.ok state).map (fun s => s.activeDependencies) = Except.ok (ε := Failure) [] := by
    rw [← hr]
    exact hnone.1
  have hnil : state.activeDependencies = [] := Except.ok.inj hnil
  rw [hnil] at hd
  exact List.not_mem_nil hd

end VeraMono

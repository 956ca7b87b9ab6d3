import VeraMono.Model.EvidenceAdapters
import VeraMono.Proof.TaskCommands

/-!
# Evidence after a closeout

A thread that has read its task as open may append after the task was closed: nothing stops
`close_task` in between. Where no task is closed while one of its verifications is under way, every
verification that is under way has an open task, so an append finds its task open, and what a
closed task has in the stores is frozen. `step_spec` is the step and `closed_evidence_frozen` the
run; `late_append` is the order of steps that it leaves out.
-/

namespace VeraMono.EvidenceAdapters

open Framework TaskLedger

variable {D ω ρ : Type} [DecidableEq D] {A : AdapterRuntime D ω ρ} {s : EvidenceState D ω ρ}

/-! ## Closed tasks -/

def ClosedEvent (t : String) (log : TaskLedger D) : Prop :=
  ∃ e ∈ log.entries, e.body.taskId = t ∧ e.body.payload.Closing

theorem not_closedEvent {rt : TaskRuntime D} {log : TaskLedger D} {t : String} {task : TaskState D}
    (hr : read rt t log = .ok task) (hc : task.closed = false) : ¬ ClosedEvent t log := by
  rintro ⟨e, he, ht, hclosing⟩
  obtain ⟨h, _, hh, -, rfl⟩ := read_ok.1 hr
  have hv := (history_spec hh).2 e (mem_events.2 ⟨he, ht⟩)
  have hopen : h.closed = false := hc
  cases hp : e.body.payload with
  | closed =>
    rw [TaskHistory.Visible, hp] at hv
    obtain ⟨c, hcloseout, -⟩ := hv
    rw [TaskHistory.closed, hcloseout] at hopen
    cases hopen
  | _ => exact absurd hclosing (by rw [hp]; exact id)

theorem ClosedEvent.run {rt : TaskRuntime D} {log : TaskLedger D} {t : String}
    (h : ClosedEvent t log) (c : TaskCommand) : ClosedEvent t (c.run rt log).2 := by
  obtain ⟨e, hr⟩ | ⟨_, -, hr⟩ | ⟨b, p, -, -, ⟨_, -, -, -, -, hr⟩ | ⟨-, -, hr⟩⟩ := TaskCommand.run_cases rt log c
  · rwa [hr]
  · rwa [hr]
  · rwa [hr]
  · obtain ⟨e, he, hclosed⟩ := h
    rw [hr]
    exact ⟨e, List.mem_append_left _ he, hclosed⟩

theorem readOpenTask_ok {call : VerifyCall} {tasks : TaskLedger D} {task : TaskState D}
    (h : readOpenTask A call tasks = .ok task) :
    read A.tasks call.taskId tasks = .ok task ∧ task.closed = false := by
  unfold readOpenTask at h
  split at h
  · cases h
  next found hr =>
    split at h
    · cases h
    next hc =>
      have hc := Bool.eq_false_iff.2 hc
      split at h
      · cases h
        exact ⟨hr, hc⟩
      · split at h
        · cases h
          exact ⟨hr, hc⟩
        · cases h

/-! ## Verifications under way -/

/-- No task is closed while a verification of it is under way. -/
def Undisturbed (A : AdapterRuntime D ω ρ) (s : EvidenceState D ω ρ) : Move ω → Prop
  | .command c => ∀ thread v, s.running thread = some v →
    ClosedEvent v.call.taskId (c.run A.tasks s.tasks).2 → ClosedEvent v.call.taskId s.tasks
  | _ => True

def OpenTasks (s : EvidenceState D ω ρ) : Prop :=
  ∀ thread v, s.running thread = some v → ¬ ClosedEvent v.call.taskId s.tasks

omit [DecidableEq D] in
theorem OpenTasks.set {v : Option (Verification D ω)} {thread : Nat} (h : OpenTasks s)
    (hv : ∀ w, v = some w → ¬ ClosedEvent w.call.taskId s.tasks) : OpenTasks (s.set thread v) := by
  intro other w hw
  change Function.update s.running thread v other = some w at hw
  by_cases ht : other = thread
  · subst ht
    exact hv w (by rwa [Function.update_self] at hw)
  · exact h other w (by rwa [Function.update_of_ne ht] at hw)

omit [DecidableEq D] in
theorem OpenTasks.leave (h : OpenTasks s) (thread : Nat) : OpenTasks (s.set thread none) :=
  h.set fun _ hw => absurd hw.symm (Option.some_ne_none _)

omit [DecidableEq D] in
theorem OpenTasks.goOn {thread : Nat} {call : VerifyCall} {phase phase' : VerifyPhase D ω}
    (h : OpenTasks s) (hrun : s.running thread = some ⟨call, phase⟩) :
    OpenTasks (s.set thread (some ⟨call, phase'⟩)) := by
  have hopen : ¬ ClosedEvent call.taskId s.tasks := h thread _ hrun
  refine h.set fun w hw => ?_
  obtain rfl := Option.some.inj hw
  exact hopen

/-- What a step does to a store, and that it keeps the tasks of its verifications open. -/
theorem step_spec (m : Move ω) (h : OpenTasks s) (hm : Undisturbed A s m) :
    OpenTasks (step A s m) ∧ ∀ t, ClosedEvent t s.tasks → ClosedEvent t (step A s m).tasks ∧
      ∀ a, (step A s m).receiptsOf a t = s.receiptsOf a t := by
  have hsame : OpenTasks s ∧ ∀ t, ClosedEvent t s.tasks → ClosedEvent t s.tasks ∧
      ∀ a, s.receiptsOf a t = s.receiptsOf a t := ⟨h, fun _ hc => ⟨hc, fun _ => rfl⟩⟩
  cases m with
  | «begin» thread call =>
    dsimp only [step]
    split
    next task _ hread =>
      obtain ⟨hr, hc⟩ := readOpenTask_ok hread
      have hopen : ¬ ClosedEvent call.taskId s.tasks := not_closedEvent hr hc
      refine ⟨h.set fun w hw => ?_, fun t hc => ⟨hc, fun _ => rfl⟩⟩
      obtain rfl := Option.some.inj hw
      exact hopen
    · exact hsame
  | prepare thread outcome =>
    dsimp only [step]
    split
    next hrun => exact ⟨h.goOn hrun, fun t hc => ⟨hc, fun _ => rfl⟩⟩
    · exact ⟨h.leave _, fun t hc => ⟨hc, fun _ => rfl⟩⟩
    · exact hsame
  | observe thread answer =>
    dsimp only [step]
    split
    next hrun => exact ⟨h.goOn hrun, fun t hc => ⟨hc, fun _ => rfl⟩⟩
    · exact ⟨h.leave _, fun t hc => ⟨hc, fun _ => rfl⟩⟩
    · exact hsame
  | append thread =>
    dsimp only [step]
    split
    next call task observation hrun =>
      split
      next content _ =>
        have hopen : ¬ ClosedEvent call.taskId s.tasks := h thread _ hrun
        have hadd : OpenTasks (s.add call content) := h
        refine ⟨hadd.leave _, fun t hc => ⟨hc, fun a => ?_⟩⟩
        have hne : call.taskId ≠ t := fun ht => hopen (ht ▸ hc)
        change ((s.add call content).receipts a).filter _ = (s.receipts a).filter _
        by_cases ha : a = call.adapter
        · subst ha
          rw [EvidenceState.add]
          dsimp only
          rw [Function.update_self, List.filter_append]
          simp [hne]
        · rw [EvidenceState.add]
          dsimp only
          rw [Function.update_of_ne ha]
      · exact ⟨h.leave _, fun t hc => ⟨hc, fun _ => rfl⟩⟩
    · exact hsame
  | command c =>
    exact ⟨fun thread v hv hc => h thread v hv (hm thread v hv hc), fun t hc => ⟨hc.run c, fun _ => rfl⟩⟩

/-! ## Runs -/

theorem run_concat (moves : List (Move ω)) (m : Move ω) :
    run A (moves ++ [m]) = step A (run A moves) m := by
  rw [run, List.foldl_append]
  rfl

def UndisturbedRun (A : AdapterRuntime D ω ρ) (moves : List (Move ω)) : Prop :=
  ∀ earlier m, earlier ++ [m] <+: moves → Undisturbed A (run A earlier) m

theorem UndisturbedRun.of_prefix {moves earlier : List (Move ω)} (h : UndisturbedRun A moves)
    (hp : earlier <+: moves) : UndisturbedRun A earlier := fun pre m hm => h pre m (hm.trans hp)

theorem run_openTasks (moves : List (Move ω)) (h : UndisturbedRun A moves) : OpenTasks (run A moves) := by
  induction moves using List.reverseRecOn with
  | nil => exact fun _ _ hv => absurd (show none = some _ from hv).symm (Option.some_ne_none _)
  | append_singleton moves m ih =>
    rw [run_concat]
    exact (step_spec m (ih (h.of_prefix (List.prefix_append ..))) (h moves m (List.prefix_refl _))).1

def Move.thread : Move ω → Option Nat
  | .begin thread _ | .prepare thread _ | .observe thread _ | .append thread => some thread
  | .command _ => none

omit [DecidableEq D] in
theorem set_running_of_ne {thread n : Nat} {v : Option (Verification D ω)} (hn : n ≠ thread) :
    (s.set thread v).running n = s.running n := Function.update_of_ne hn ..

theorem step_running {m : Move ω} {n : Nat} (hm : m.thread ≠ some n) :
    (step A s m).running n = s.running n := by
  cases m with
  | command c => rfl
  | «begin» thread call =>
    have hn : n ≠ thread := fun h => hm (congrArg some h.symm)
    dsimp only [step]
    split
    · exact set_running_of_ne hn
    · rfl
  | prepare thread outcome =>
    have hn : n ≠ thread := fun h => hm (congrArg some h.symm)
    dsimp only [step]
    split
    · exact set_running_of_ne hn
    · exact set_running_of_ne hn
    · rfl
  | observe thread answer =>
    have hn : n ≠ thread := fun h => hm (congrArg some h.symm)
    dsimp only [step]
    split
    · exact set_running_of_ne hn
    · exact set_running_of_ne hn
    · rfl
  | append thread =>
    have hn : n ≠ thread := fun h => hm (congrArg some h.symm)
    dsimp only [step]
    split
    · split
      · exact set_running_of_ne hn
      · exact set_running_of_ne hn
    · rfl

theorem run_running {moves : List (Move ω)} {n : Nat} (h : ∀ m ∈ moves, m.thread ≠ some n) :
    (run A moves).running n = none := by
  induction moves using List.reverseRecOn with
  | nil => rfl
  | append_singleton moves m ih =>
    rw [run_concat, step_running (h m (by simp))]
    exact ih fun m' hm => h m' (List.mem_append_left _ hm)

/-- What a closed task has in the stores stays as it was, in every run in which no task is closed
while a verification of it is under way. -/
theorem closed_evidence_frozen (moves : List (Move ω)) (h : UndisturbedRun A moves) (t : String)
    (pre post : List (Move ω)) (hsplit : moves = pre ++ post) (hc : ClosedEvent t (run A pre).tasks) :
    ∀ a, (run A moves).receiptsOf a t = (run A pre).receiptsOf a t := by
  subst hsplit
  have hboth : ClosedEvent t (run A (pre ++ post)).tasks ∧
      ∀ a, (run A (pre ++ post)).receiptsOf a t = (run A pre).receiptsOf a t := by
    induction post using List.reverseRecOn with
    | nil =>
      rw [List.append_nil]
      exact ⟨hc, fun _ => rfl⟩
    | append_singleton post m ih =>
      rw [← List.append_assoc] at h ⊢
      have hearlier := h.of_prefix (List.prefix_append (pre ++ post) [m])
      obtain ⟨hclosed, hsame⟩ := ih hearlier
      rw [run_concat]
      obtain ⟨hclosed', hsame'⟩ := (step_spec m (run_openTasks _ hearlier)
        (h (pre ++ post) m (List.prefix_refl _))).2 t hclosed
      exact ⟨hclosed', fun a => (hsame' a).trans (hsame a)⟩
  exact hboth.2

/-! ## A run -/

/-- Whether a payload closes its task. -/
def closes : TaskPayload D → Bool
  | .closed .. => true
  | _ => false

omit [DecidableEq D] in
theorem closes_iff {p : TaskPayload D} : closes p = true ↔ p.Closing := by
  cases p <;> simp [closes, TaskPayload.Closing]

instance (t : String) (log : TaskLedger D) : Decidable (ClosedEvent t log) :=
  decidable_of_iff (∃ e ∈ log.entries, e.body.taskId = t ∧ closes e.body.payload = true)
    (by simp only [ClosedEvent, closes_iff])

/-- Stores that keep what they are given. -/
def sampleAdapters : AdapterRuntime Nat String String := ⟨sampleTasks, fun _ _ observation _ =>
  .ok (some observation)⟩

def sourceCall : VerifyCall := ⟨.source, "t", ["m"]⟩

def openTask : Move String := .command (.openTask "t" samplePacket sampleDigest)

def closeTask : Move String :=
  .command (.closeTask "t" "c" [("source", "verified-current")] ["e"] [] "c" "n" sampleDigest)

/-- A verification up to its append. -/
def observedRun : List (Move String) :=
  [openTask, .begin 0 sourceCall, .prepare 0 (.ok ()), .observe 0 (.ok "PASS")]

/-- The task is closed between the call of the transport and the append: its store grows after
the closing event. -/
theorem late_append : ClosedEvent "t" (run sampleAdapters (observedRun ++ [closeTask])).tasks ∧
    (run sampleAdapters (observedRun ++ [closeTask])).receiptsOf .source "t" = [] ∧
    (run sampleAdapters (observedRun ++ [closeTask, .append 0])).receiptsOf .source "t" =
      [⟨"t", "PASS"⟩] := by decide +kernel

/-- A verification that ends before the closeout. -/
def orderlyRun : List (Move String) := observedRun ++ [.append 0, closeTask, .begin 0 sourceCall]

theorem orderly_append_frozen : (run sampleAdapters orderlyRun).receiptsOf .source "t" =
    (run sampleAdapters (orderlyRun.take 6)).receiptsOf .source "t" := by
  have hidle : ((run sampleAdapters (observedRun ++ [.append 0])).running 0).isNone = true ∧
      ClosedEvent "t" (run sampleAdapters (orderlyRun.take 6)).tasks := by decide +kernel
  refine closed_evidence_frozen orderlyRun (fun earlier m hp => ?_) "t" (orderlyRun.take 6)
    (orderlyRun.drop 6) (List.take_append_drop ..).symm hidle.2 .source
  obtain ⟨post, heq⟩ := hp
  cases m with
  | command c =>
    have hearlier : earlier = [] ∨ earlier = observedRun ++ [.append 0] := by
      rcases earlier with _ | ⟨_, _ | ⟨_, _ | ⟨_, _ | ⟨_, _ | ⟨_, _ | ⟨_, _ | ⟨_, rest⟩⟩⟩⟩⟩⟩⟩ <;>
        simp_all [orderlyRun, observedRun]
    intro thread v hv
    obtain rfl | rfl := hearlier
    · cases hv
    · by_cases ht : thread = 0
      · subst ht
        rw [hv] at hidle
        exact absurd hidle.1 Bool.false_ne_true
      · rw [run_running fun m hm => ?_] at hv
        · cases hv
        · simp only [observedRun, openTask, List.cons_append, List.nil_append, List.mem_cons,
            List.not_mem_nil, or_false] at hm
          obtain rfl | rfl | rfl | rfl | rfl := hm <;> simp [Move.thread, Ne.symm ht]
  | _ => trivial

end VeraMono.EvidenceAdapters

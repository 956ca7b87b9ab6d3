import VeraMono.Model.PlanDatabase
import VeraMono.Proof.LongHorizon

/-!
# Crashes while a coordinator is created

`_init_db` commits statement by statement, and its second run looks only at the row of the plan. So
a crash before that row is inserted is repaired by the next run, and one between that row and the
row of the last step is not: the row is found, nothing is inserted, and the steps that are missing
stay missing. `creation_recovers_iff` says where a crash is repaired, from what a later run leaves
(`stopAt_rows`) and what it cannot fill in (`not_recovers`).
-/

namespace VeraMono

open Framework Prog LongHorizonCoordinator

variable {T : Type} {sha256 : String → String} {plan : LongHorizonPlan}

/-! ## Statements one after the other -/

section Statements
variable {statements : List (Statement T)} {db db' : PlanDatabase T}

/-- What statements that all succeed make of a database. -/
inductive Makes : List (Statement T) → PlanDatabase T → PlanDatabase T → Prop
  | nil (db : PlanDatabase T) : Makes [] db db
  | cons {statement : Statement T} {statements : List (Statement T)} {db db₁ db₂ : PlanDatabase T} :
      statement db = .ok ((), db₁) → Makes statements db₁ db₂ → Makes (statement :: statements) db db₂

theorem Makes.run (h : Makes statements db db') : (executeAll statements).run db = (.ok (), db') := by
  induction h with
  | nil db => rfl
  | cons hstatement _ ih =>
    rw [executeAll, run_bind, run_txn, hstatement]
    exact ih

theorem Makes.stopAt_bind {α : Type} {k : Unit → PlanProg T α} (h : Makes statements db db') (n : Nat) :
    (n < statements.length → ∃ db₁, Makes (statements.take n) db db₁ ∧
      (executeAll statements >>= k).stopAt n db = db₁) ∧
    (statements.length ≤ n → (executeAll statements >>= k).stopAt n db =
      (k ()).stopAt (n - statements.length) db') := by
  induction h generalizing n with
  | nil db => exact ⟨fun hn => absurd hn (Nat.not_lt_zero n), fun _ => rfl⟩
  | cons hstatement hrest ih =>
    rename_i statement statements db db₁ db₂
    have hstep (m : Nat) : (executeAll (statement :: statements) >>= k).stopAt (m + 1) db =
        (executeAll statements >>= k).stopAt m db₁ := by
      rw [executeAll, Prog.bind_assoc]
      change ((Prog.ofExcept ((statement db).map Prod.fst) >>= fun _ => executeAll statements >>= k)
        : PlanProg T α).stopAt m (committed (statement db) db) = _
      rw [hstatement]
      rfl
    cases n with
    | zero => exact ⟨fun _ => ⟨db, .nil db, rfl⟩, fun hn => absurd hn (Nat.not_succ_le_zero _)⟩
    | succ m =>
      rw [hstep, List.length_cons]
      refine ⟨fun hn => ?_, fun hn => ?_⟩
      · obtain ⟨db₃, hmakes, hstop⟩ := (ih m).1 (Nat.lt_of_succ_lt_succ hn)
        exact ⟨db₃, .cons hstatement hmakes, hstop⟩
      · rw [(ih m).2 (Nat.le_of_succ_le_succ hn), Nat.add_sub_add_right]

theorem bind_pure (p : PlanProg T Unit) : (p >>= fun _ => pure ()) = p := by
  induction p with
  | ret a | raise e => rfl
  | atom act next ih => exact congrArg (Prog.atom act) (funext ih)
  | acquire l _ _ | release l _ => exact l.elim

theorem Makes.unique {db'' : PlanDatabase T} (h : Makes statements db db') (h' : Makes statements db db'') :
    db' = db'' := (Prod.mk.inj (h.run.symm.trans h'.run)).2

theorem Makes.stopAt (h : Makes statements db db') (n : Nat) (hn : n ≤ statements.length) :
    Makes (statements.take n) db ((executeAll statements).stopAt n db) := by
  obtain ⟨hlt, hge⟩ := h.stopAt_bind (k := fun _ => pure ()) n
  rw [bind_pure] at hlt hge
  rcases Nat.lt_or_eq_of_le hn with hn | rfl
  · obtain ⟨db₁, hmakes, hstop⟩ := hlt hn
    exact hstop ▸ hmakes
  · rw [List.take_length, hge le_rfl]
    exact h

theorem Makes.stopAt_end (h : Makes statements db db') (n : Nat) (hn : statements.length ≤ n) :
    (executeAll statements).stopAt n db = db' := by
  obtain ⟨-, hge⟩ := h.stopAt_bind (k := fun _ => pure ()) n
  rw [bind_pure] at hge
  exact hge hn

end Statements

/-! ## The databases on the way -/

/-- The rows of some steps that were never claimed. -/
def freshRows (steps : List PlanStep) : Table (StepRow.stepId (T := T)) :=
  steps.foldl (fun rows step => rows.insert (.fresh step.stepId)) .empty

/-- The tables, with no row in them. -/
def PlanDatabase.created : PlanDatabase T := ⟨some none, some .empty, some [], some .empty⟩

/-- The row of the plan, and those of some of its steps. -/
def PlanDatabase.filled (row : PlanRow) (steps : List PlanStep) : PlanDatabase T :=
  ⟨some (some row), some (freshRows steps), some [], some .empty⟩

theorem freshRows_ids {steps : List PlanStep} (hn : (steps.map PlanStep.stepId).Nodup) :
    (freshRows steps : Table (StepRow.stepId (T := T))).rows.map StepRow.stepId =
      steps.map PlanStep.stepId := by
  obtain ⟨hids, -⟩ := PlanHistory.new_rows (T := T) steps .empty (by simpa [Table.empty] using hn)
    fun r hr => absurd hr List.not_mem_nil
  exact hids

theorem freshRows_concat (steps : List PlanStep) (step : PlanStep) :
    (freshRows (steps ++ [step]) : Table (StepRow.stepId (T := T))) =
      (freshRows steps).insert (.fresh step.stepId) := by
  rw [freshRows, List.foldl_append]
  rfl

theorem makes_steps {row : PlanRow} (done steps : List PlanStep)
    (hn : ((done ++ steps).map PlanStep.stepId).Nodup) :
    Makes (steps.map insertStep) (.filled row done : PlanDatabase T) (.filled row (done ++ steps)) := by
  induction steps generalizing done with
  | nil =>
    rw [List.append_nil]
    exact .nil _
  | cons step steps ih =>
    rw [List.append_cons] at hn ⊢
    have hdone : (done.map PlanStep.stepId).Nodup := by
      rw [List.map_append, List.map_append, List.append_assoc] at hn
      exact hn.of_append_left
    have hnew : ((freshRows done : Table (StepRow.stepId (T := T))).get? step.stepId) = none := by
      rw [Table.get?_eq_none, freshRows_ids hdone]
      intro hmem
      rw [List.map_append, List.map_append, List.append_assoc] at hn
      exact (List.nodup_append.1 hn).2.2 _ hmem _ List.mem_cons_self rfl
    refine .cons ?_ (ih (done ++ [step]) hn)
    simp only [insertStep, PlanDatabase.filled, hnew, freshRows_concat]
    rfl

/-- What `_init_db` inserts, up to any of its rows. -/
def partlyFilled (sha256 : String → String) (plan : LongHorizonPlan) : Nat → PlanDatabase T
  | 0 => .created
  | n + 1 => .filled (planRow sha256 plan) (plan.steps.take n)

theorem makes_rows (n : Nat) :
    Makes ((insertPlan (planRow sha256 plan) :: plan.steps.map insertStep).take n)
      (.created : PlanDatabase T) (partlyFilled sha256 plan n) := by
  cases n with
  | zero => exact .nil _
  | succ n =>
    rw [List.take_succ_cons, ← List.map_take]
    refine .cons rfl (makes_steps [] (plan.steps.take n) ?_)
    rw [List.nil_append]
    exact plan.valid.nodup.sublist ((List.take_sublist n plan.steps).map _)

theorem length_rows : (insertPlan (planRow sha256 plan) :: plan.steps.map insertStep :
    List (Statement T)).length = plan.steps.length + 1 := by
  rw [List.length_cons, List.length_map]

theorem makes_all : Makes (insertPlan (planRow sha256 plan) :: plan.steps.map insertStep)
    (.created : PlanDatabase T) (partlyFilled sha256 plan (plan.steps.length + 1)) := by
  have hall : Makes ((insertPlan (planRow sha256 plan) :: plan.steps.map insertStep).take
      (plan.steps.length + 1)) (.created : PlanDatabase T) _ := makes_rows (plan.steps.length + 1)
  rwa [List.take_of_length_le (Nat.le_of_eq length_rows)] at hall

/-- The tables of a file with some of them, and no row. -/
structure Unfilled (db : PlanDatabase T) : Prop where
  plan : db.plan.getD none = none
  steps : db.steps.getD .empty = .empty
  events : db.events.getD [] = []
  corrections : db.corrections.getD .empty = .empty

theorem Unfilled.makes {db : PlanDatabase T} (hu : Unfilled db) : Makes schema db .created := by
  have hmakes : Makes schema db ⟨some (db.plan.getD none), some (db.steps.getD .empty),
      some (db.events.getD []), some (db.corrections.getD .empty)⟩ :=
    .cons rfl (.cons rfl (.cons rfl (.cons rfl (.nil _))))
  rwa [hu.plan, hu.steps, hu.events, hu.corrections] at hmakes

theorem filled_schema {row : PlanRow} {steps : List PlanStep} :
    Makes schema (.filled row steps : PlanDatabase T) (.filled row steps) :=
  .cons rfl (.cons rfl (.cons rfl (.cons rfl (.nil _))))

/-! ## The run that was stopped, and the next one -/

theorem unfilled_stopAt {n : Nat} (hn : n ≤ 5) :
    Unfilled ((initDb sha256 plan).stopAt n (.empty : PlanDatabase T)) := by
  match n with
  | 0 | 1 | 2 | 3 | 4 | 5 => exact ⟨rfl, rfl, rfl, rfl⟩
  | n + 6 => omega

/-- A later crash leaves the row of the plan, and of as many steps as were reached. -/
theorem stopAt_rows {n : Nat} (hn : n ≤ plan.steps.length + 1) :
    (initDb sha256 plan).stopAt (n + 5) (.empty : PlanDatabase T) = partlyFilled sha256 plan n := by
  exact (makes_all.stopAt n (length_rows ▸ hn)).unique (makes_rows n)

theorem stopAt_last {n : Nat} (hn : plan.steps.length + 1 ≤ n) :
    (initDb sha256 plan).stopAt (n + 5) (.empty : PlanDatabase T) =
      partlyFilled sha256 plan (plan.steps.length + 1) := by
  exact makes_all.stopAt_end n (length_rows ▸ hn)

theorem Unfilled.run {db : PlanDatabase T} (hu : Unfilled db) : (initDb sha256 plan).run db =
    (.ok (), partlyFilled sha256 plan (plan.steps.length + 1)) := by
  rw [initDb, run_bind, hu.makes.run]
  exact makes_all.run

theorem filled_run (steps : List PlanStep) :
    (initDb sha256 plan).run (.filled (planRow sha256 plan) steps : PlanDatabase T) =
      (.ok (), .filled (planRow sha256 plan) steps) := by
  rw [initDb, run_bind, filled_schema.run]
  dsimp only
  rw [run_bind, run_readM]
  simp [selectPlan, PlanDatabase.filled, planRow]

/-- A file in which rows of steps are missing is not the file of the whole plan. -/
theorem filled_take_ne {n : Nat} (hn : n < plan.steps.length) :
    (.filled (planRow sha256 plan) (plan.steps.take n) : PlanDatabase T) ≠
      .filled (planRow sha256 plan) (plan.steps.take plan.steps.length) := by
  intro heq
  have hrows : (freshRows (plan.steps.take n) : Table (StepRow.stepId (T := T))) =
      freshRows (plan.steps.take plan.steps.length) := Option.some.inj (congrArg PlanDatabase.steps heq)
  have hids (k : Nat) := freshRows_ids (T := T)
    (plan.valid.nodup.sublist ((List.take_sublist k plan.steps).map PlanStep.stepId))
  have hlength := congrArg List.length ((hids n).symm.trans (hrows ▸ hids plan.steps.length))
  simp only [List.length_map, List.length_take] at hlength
  omega

/-! ## Creation -/

/-- Opening the plan again, after a crash that let the first `n` steps of its creation happen
(each a statement or the read), succeeds and gives the database of an uninterrupted creation. -/
def CreationRecovers (T : Type) (sha256 : String → String) (plan : LongHorizonPlan) (n : Nat) : Prop :=
  (initDb sha256 plan).run ((initDb sha256 plan).stopAt n (.empty : PlanDatabase T)) =
    (.ok (), ((initDb sha256 plan).run (.empty : PlanDatabase T)).2)

theorem empty_run : (initDb sha256 plan).run (.empty : PlanDatabase T) =
    (.ok (), .filled (planRow sha256 plan) (plan.steps.take plan.steps.length)) :=
  Unfilled.run ⟨rfl, rfl, rfl, rfl⟩

theorem recovers_of_unfilled {n : Nat} (hn : n ≤ 5) : CreationRecovers T sha256 plan n := by
  rw [CreationRecovers, (unfilled_stopAt hn).run, empty_run]
  rfl

/-- A crash between the row of the plan and that of the last step leaves a file that opens, but
not with all its steps. -/
theorem not_recovers {n : Nat} (hn : n < plan.steps.length) :
    ¬ CreationRecovers T sha256 plan (n + 6) := by
  intro h
  have hstop : (initDb sha256 plan).stopAt (n + 1 + 5) (.empty : PlanDatabase T) =
      .filled (planRow sha256 plan) (plan.steps.take n) := stopAt_rows (Nat.succ_le_succ hn.le)
  rw [CreationRecovers, hstop, filled_run, empty_run] at h
  exact filled_take_ne hn (Prod.mk.inj h).2

/-- The creation of a coordinator recovers from a crash exactly where the crash comes before the
row of the plan or after the row of the last step. -/
theorem creation_recovers_iff (T : Type) (sha256 : String → String) (plan : LongHorizonPlan) (n : Nat) :
    CreationRecovers T sha256 plan n ↔ n ≤ 5 ∨ plan.steps.length + 6 ≤ n := by
  constructor
  · intro h
    by_contra hn
    rw [not_or, not_le, not_le] at hn
    obtain ⟨m, rfl⟩ := Nat.exists_eq_add_of_le hn.1
    rw [Nat.add_comm] at h
    exact not_recovers (by omega) h
  · rintro (hn | hn)
    · exact recovers_of_unfilled hn
    · obtain ⟨m, rfl⟩ := Nat.exists_eq_add_of_le hn
      have hstop : (initDb sha256 plan).stopAt (plan.steps.length + 1 + m + 5) (.empty : PlanDatabase T) =
          .filled (planRow sha256 plan) (plan.steps.take plan.steps.length) :=
        stopAt_last (Nat.le_add_right _ _)
      rw [CreationRecovers, empty_run, show plan.steps.length + 6 + m = plan.steps.length + 1 + m + 5 by omega,
        hstop, filled_run]

/-! ## A plan of one step -/

def oneStepPlan : LongHorizonPlan where
  planId := "plan"
  objective := "objective"
  steps := [⟨"a", [], .p0, "family", [], 1⟩]
  wellFormed := fun _ => rfl

/-- Its creation crashes after the row of the plan, before the row of its step. -/
theorem torn_creation : ¬ ∀ n, CreationRecovers Int (fun text => text) oneStepPlan n :=
  fun h => not_recovers Nat.zero_lt_one (h 6)

end VeraMono

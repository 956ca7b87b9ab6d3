import VeraMono.Model.Sample
import VeraMono.Proof.Protocol

/-!
# Published checkpoints

The recovery store answers a replay of an old checkpoint without comparing its head, and the
currentness store compares its own generation only. So the checkpoint that a call publishes has the
generation that the recovery store had for its id when the call took the lifecycle lock: the
published checkpoints move forward as long as no call retries the id of one that is not past the
published one. `append_offered` is what the recovery store answers under the lock;
`publications_forward` and `accepted_checkpoints_forward` carry it over every run.
-/

namespace VeraMono

open Framework Transition

variable {D : Type} (R : Runtime D)

def publishedGeneration (s : VeraState D) : Option Nat :=
  (s.currentness.get? R.config.currentnessSubjectId).map fun row =>
    row.payload.recoveryCheckpointGeneration

/-- The generation of the checkpoint that the recovery store has for an id, or gives it. -/
def offeredGeneration (checkpointId : String) (s : VeraState D) : Nat :=
  match (checkpointChain R.hash).lookup s.checkpoints checkpointId with
  | some e => e.sequence
  | none => s.checkpoints.sequence + 1

/-- The checkpoint of this id was stored before, and is not past the published one. -/
def Stale (checkpointId : String) (s : VeraState D) : Prop :=
  ∃ g, publishedGeneration R s = some g ∧ offeredGeneration R checkpointId s ≤ g

/-- A step that publishes a checkpoint: the generation of the subject moves. -/
def Publishes (m : Move Lock (VeraState D)) : Prop :=
  (m.after.currentness.get? R.config.currentnessSubjectId).map CurrentnessRow.generation ≠
    (m.before.currentness.get? R.config.currentnessSubjectId).map CurrentnessRow.generation

instance (m : Move Lock (VeraState D)) : Decidable (Publishes R m) := inferInstanceAs (Decidable (_ ≠ _))

/-- The generations of the checkpoints that a run published, newest first. -/
def publications (trace : List (Step Lock (VeraState D) (Call D))) : List Nat :=
  trace.filterMap fun st =>
    if Publishes R st.move then publishedGeneration R st.move.after else none

def tookLock (h : Moved D) : Option (VeraState D) :=
  (h.find? fun m => m.kind = .acquire .lifecycle).map Move.before

/-- No published checkpoint is past the last one stored. -/
structure Stored (s : VeraState D) : Prop where
  chain : (checkpointChain R.hash).WellFormed s.checkpoints
  published : ∀ g, publishedGeneration R s = some g → g ≤ s.checkpoints.sequence

/-- What a call publishes is what the recovery store had for its id when the call took
the lock. -/
structure Offered (checkpointId : String) (h : Moved D) (s : VeraState D) (generation : Nat) :
    Prop where
  stored : generation ≤ s.checkpoints.sequence
  offered : ∃ s₀, tookLock h = some s₀ ∧ publishedGeneration R s = publishedGeneration R s₀ ∧
    generation = offeredGeneration R checkpointId s₀

/-- Nothing was stored or published since the lock was taken. -/
structure Unchanged (h : Moved D) (s : VeraState D) : Prop where
  since : ∃ s₀, tookLock h = some s₀ ∧ s.checkpoints = s₀.checkpoints ∧
    publishedGeneration R s = publishedGeneration R s₀

variable {R} {s s' : VeraState D} {t : Transition D} {h : Moved D} {checkpointId : String}
  {generation : Nat}

@[simp] theorem tookLock_act : tookLock (⟨.act, s, s'⟩ :: h) = tookLock h := rfl

@[simp] theorem tookLock_acquire : tookLock (⟨.acquire .lifecycle, s, s'⟩ :: h) = some s := rfl

theorem currentness_eq (hd : t.Does R s s') (ht : ∀ p, t ≠ .publish p) :
    s'.currentness = s.currentness := by
  rw [hd.eq]
  cases t with
  | publish p => exact absurd rfl (ht p)
  | _ => rfl

theorem checkpoints_eq (hd : t.Does R s s') (ht : ∀ b, t ≠ .checkpoint b) :
    s'.checkpoints = s.checkpoints := by
  rw [hd.eq]
  cases t with
  | checkpoint b => exact absurd rfl (ht b)
  | _ => rfl

theorem checkpoints_le (hd : t.Does R s s') : s.checkpoints.sequence ≤ s'.checkpoints.sequence := by
  by_cases ht : ∃ b, t = .checkpoint b
  · obtain ⟨b, rfl⟩ := ht
    rw [hd.eq]
    exact Nat.le_succ _
  · rw [checkpoints_eq hd fun b hb => ht ⟨b, hb⟩]

theorem publishedGeneration_congr (hc : s'.currentness = s.currentness) :
    publishedGeneration R s' = publishedGeneration R s := by
  rw [publishedGeneration, hc, publishedGeneration]

theorem publish_row {p : CandidateValues D} (hd : (Transition.publish p).Does R s s') :
    s'.currentness.get? R.config.currentnessSubjectId =
      some (CurrentnessStore.nextRow R.hash R.config.currentnessSubjectId p s.currentness) := by
  have hrow := Table.get?_upsert_self (t := s.currentness)
    (v := CurrentnessStore.nextRow R.hash R.config.currentnessSubjectId p s.currentness)
  rw [hd.eq]
  exact hrow

theorem publishedGeneration_publish {p : CandidateValues D} (hd : (Transition.publish p).Does R s s') :
    publishedGeneration R s' = some p.recoveryCheckpointGeneration := by
  rw [publishedGeneration, publish_row hd]
  rfl

theorem publishes_iff (hd : t.Does R s s') : Publishes R ⟨.act, s, s'⟩ ↔ ∃ p, t = .publish p := by
  constructor
  · intro hp
    by_contra hn
    exact hp (by rw [currentness_eq hd fun p hp => hn ⟨p, hp⟩])
  · rintro ⟨p, rfl⟩
    rw [Publishes, publish_row hd]
    cases hrow : s.currentness.get? R.config.currentnessSubjectId with
    | none => simp
    | some row => simp [CurrentnessStore.nextRow, hrow]

/-- The published checkpoint stays, or the new one is stored as well. -/
theorem Stored.does (hs : Stored R s) (hd : t.Does R s s')
    (hp : ∀ p, t = .publish p → p.recoveryCheckpointGeneration ≤ s.checkpoints.sequence) :
    Stored R s' := by
  refine ⟨?_, fun g hg => ?_⟩
  · by_cases ht : ∃ b, t = .checkpoint b
    · obtain ⟨b, rfl⟩ := ht
      rw [hd.eq]
      exact hs.chain.extend hd.enabled
    · rw [checkpoints_eq hd fun b hb => ht ⟨b, hb⟩]
      exact hs.chain
  · by_cases ht : ∃ p, t = .publish p
    · obtain ⟨p, rfl⟩ := ht
      rw [publishedGeneration_publish hd] at hg
      cases hg
      exact (hp p rfl).trans (checkpoints_le hd)
    · rw [publishedGeneration_congr (currentness_eq hd fun p hp => ht ⟨p, hp⟩)] at hg
      exact (hs.published g hg).trans (checkpoints_le hd)

/-! ## The protocol -/

variable (R) in
/-- Only a checkpoint call publishes, and what the recovery store offered it. -/
def publication : Protocol R where
  inv := Stored R
  promise c h _ s t := ∀ p, t = .publish p → ∃ args, c = .checkpoint args ∧
    Offered R args.checkpointId h s p.recoveryCheckpointGeneration
  keeps hi hd hp := hi.does hd fun p ht => by
    obtain ⟨args, -, hoff⟩ := hp p ht
    exact hoff.stored

/-- What a thread that holds the lifecycle lock may assume of the others. -/
theorem Others.lifecycle {held : Finset Lock} (ho : Others R held s s') (hl : .lifecycle ∈ held) :
    s'.checkpoints = s.checkpoints ∧ s'.currentness = s.currentness := by
  obtain ⟨t, hd, hlock⟩ := ho
  refine ⟨checkpoints_eq hd fun b hb => ?_, currentness_eq hd fun p hp => ?_⟩
  · exact hlock .lifecycle (by rw [hb]; rfl) hl
  · exact hlock .lifecycle (by rw [hp]; rfl) hl

/-- An assertion about the stored and the published checkpoints and the thread's lock. -/
structure Kept (P : Moved D → VeraState D → Prop) : Prop where
  others : ∀ h s s', s'.checkpoints = s.checkpoints → s'.currentness = s.currentness → P h s → P h s'
  act : ∀ h s s', P h s' → P (⟨.act, s, s'⟩ :: h) s'

theorem Unchanged.kept : Kept (Unchanged R) where
  others h s s' hc hp hs := by
    obtain ⟨s₀, hlock, hcheck, hpub⟩ := hs.since
    exact ⟨s₀, hlock, hc.trans hcheck, (publishedGeneration_congr hp).trans hpub⟩
  act h s s' hs := ⟨hs.since⟩

theorem Offered.kept : Kept fun h s => Offered R checkpointId h s generation where
  others h s s' hc hp hs := by
    obtain ⟨s₀, hlock, hpub, hgen⟩ := hs.offered
    exact ⟨hc ▸ hs.stored, s₀, hlock, (publishedGeneration_congr hp).trans hpub, hgen⟩
  act h s s' hs := ⟨hs.stored, hs.offered⟩

theorem Kept.true : Kept (D := D) fun _ _ => True := ⟨fun _ _ _ _ _ _ => trivial, fun _ _ _ _ => trivial⟩

section Calls
variable [DecidableEq D] {c : Call D} {held : Finset Lock} {α : Type} {p : Op D α} {args : CheckpointArgs D}
  {P : Moved D → VeraState D → Prop}

omit [DecidableEq D] in
theorem Kept.stable (hP : Kept P) (hl : .lifecycle ∈ held) :
    ((publication R).contract c).Stable held P := by
  intro h s s' _ _ hs ho
  obtain ⟨hc, hp⟩ := Others.lifecycle ho hl
  exact hP.others h s s' hc hp hs

def journals : Transition D → Prop
  | .idle => True
  | .journal b => b.eventType ≠ .restartReconciledCommitted
  | _ => False

omit [DecidableEq D] in
theorem Kept.within (hP : Kept P) (hl : .lifecycle ∈ held) (hp : Within R journals p) :
    Triple ((publication R).contract c) held P p fun _ => P :=
  Protocol.within hp (hP.stable hl) fun h s s' t _ hs ht hd => by
    have hlock : ∀ l, t.lock = some l → l ∈ held := lock_held (l := .lifecycle) (T := journals)
      (fun t ht => by
        cases t with
        | idle => exact .inl rfl
        | journal b => exact .inr (if_neg ht)
        | _ => exact ht.elim) hl ht
    have hother : (∀ b, t ≠ .checkpoint b) ∧ ∀ p, t ≠ .publish p := by
      constructor <;> rintro _ rfl <;> exact ht.elim
    exact ⟨hlock, fun p hp => absurd hp (hother.2 p),
      hP.act h s s' (hP.others h s s' (checkpoints_eq hd hother.1) (currentness_eq hd hother.2) hs)⟩

theorem journal_within {b : JournalBody D} (hb : b.eventType ≠ .restartReconciledCommitted) :
    Within R journals (Op.onJournal (LifecycleJournal.append R.hash b)) := .onJournal trivial hb

theorem checkpointGuards_within : Within R journals (checkpointGuards R args) :=
  .bind (.readM trivial _) fun _ =>
    .bind (.readOnly trivial assertOutboundEffectIntegrity_readOnly) fun _ =>
    .bind (.readOnly trivial verifyJournalChain_readOnly) fun _ => .bind (.read trivial _) fun _ =>
    .guard <| .bind (.read trivial _) fun _ => .pure _

/-- The recovery store answers with the checkpoint it offered when the lock was taken. -/
theorem append_offered {memoryHead controlDigest : D} (hl : .lifecycle ∈ held) :
    Triple ((publication R).contract c) held (Unchanged R)
      (Op.onCheckpoints (NativeRecoveryCheckpointStore.append R.hash
        (checkpointBody R args memoryHead controlDigest) args.expectedCheckpointHead))
      fun r h s => ∀ e, r = .ok e → Offered R args.checkpointId h s e.sequence := by
  refine Protocol.part _ (fun s log => { s with checkpoints := log }) (Unchanged.kept.stable hl)
    (fun r => .forall fun e => .imp (p := fun _ => r = .ok e) (Offered.kept.stable hl))
    (fun h s e log' hi hs ha => ?_) fun h s e _ _ _ => ⟨fun _ hp => (by cases hp), fun _ he => (by cases he)⟩
  obtain ⟨s₀, hlock, hcheck, hpub⟩ := hs.since
  rcases checkpoint_append_ok ha with ⟨rfl, hlook, -⟩ | ⟨hnone, -, rfl, rfl⟩
  · refine ⟨.idle, ⟨trivial, rfl⟩, fun l hl' => (by cases hl'), fun p hp => (by cases hp), fun e' he => ?_⟩
    cases he
    refine ⟨(hi.chain.linked.mem (Chaining.lookup_mem hlook).1).2.2, s₀, hlock, hpub, ?_⟩
    rw [offeredGeneration, ← hcheck, show (checkpointChain R.hash).lookup s.checkpoints args.checkpointId = some e
      from hlook]
  · refine ⟨.checkpoint (checkpointBody R args memoryHead controlDigest), ⟨hnone, rfl⟩,
      fun l hl' => (by cases hl'; exact hl), fun p hp => (by cases hp), fun e' he => ?_⟩
    cases he
    refine ⟨le_refl _, s₀, hlock, hpub, ?_⟩
    rw [offeredGeneration, ← hcheck, show (checkpointChain R.hash).lookup s.checkpoints args.checkpointId = none
      from hnone]
    rfl

theorem publishCandidate_offered {recovery : NativeRecoveryCheckpoint D} {report : DriftReport D}
    (hl : .lifecycle ∈ held) :
    Triple ((publication R).contract (.checkpoint args)) held
      (fun h s => Offered R args.checkpointId h s recovery.sequence)
      (publishCandidate R args recovery report) fun _ _ _ => True := by
  refine .seq (Q := fun _ _ _ => True) ?_ fun current =>
    .seq (Kept.true.within hl (journal_within fun h => (by cases h))) fun _ =>
      .pure (.hist fun _ => True) fun _ _ _ _ => trivial
  refine Protocol.part _ (fun s t => { s with currentness := t }) (Offered.kept.stable hl)
    (fun _ => .hist fun _ => True) (fun h s current t _ hs hp => ?_)
    fun h s e _ _ _ => ⟨fun _ hp => (by cases hp), trivial⟩
  refine ⟨.publish (candidateValues R recovery), ⟨trivial, by rw [(publish_ok hp).2.2]; rfl⟩,
    fun l hl' => (by cases hl'; exact hl), fun p hp => ?_, trivial⟩
  cases hp
  exact ⟨args, rfl, hs⟩

theorem assureCandidate_offered {recovery : NativeRecoveryCheckpoint D} (hl : .lifecycle ∈ held) :
    Triple ((publication R).contract (.checkpoint args)) held
      (fun h s => Offered R args.checkpointId h s recovery.sequence)
      (assureCandidate R args recovery) fun _ _ _ => True := by
  have hkept : Kept fun h s => Offered R args.checkpointId h s recovery.sequence := Offered.kept
  refine .seq (Q := fun _ h s => Offered R args.checkpointId h s recovery.sequence)
    (.ofExcept (hkept.stable hl) fun _ _ _ hs => hs) fun report => ?_
  split
  · exact .seq (hkept.within hl (journal_within fun h => (by cases h))) fun _ =>
      .throw (.hist fun _ => True) fun _ _ _ _ => trivial
  · exact .seq (hkept.within hl (journal_within fun h => (by cases h))) fun _ =>
      publishCandidate_offered hl

theorem checkpoint_offered :
    Triple ((publication R).contract (.checkpoint args)) ∅ (fun _ _ => True) (checkpoint R args)
      fun _ _ _ => True := by
  have hl : Lock.lifecycle ∈ insert Lock.lifecycle (∅ : Finset Lock) := Finset.mem_insert_self _ _
  refine .withLock (by decide) (.hist fun _ => True) (fun _ => .hist fun _ => True)
    (A := Unchanged R) (fun h s _ _ => ⟨s, rfl, rfl, rfl⟩) (Q := fun _ _ _ => True) ?_
    (fun _ _ _ _ _ => trivial) fun _ _ _ _ => trivial
  refine .seq (Unchanged.kept.within hl checkpointGuards_within) ?_
  rintro ⟨memoryHead, controlDigest⟩
  refine .seq (append_offered hl) fun recovery => ?_
  have hkept : Kept fun h s => Offered R args.checkpointId h s recovery.sequence := Offered.kept
  refine .seq (Q := fun _ h s => Offered R args.checkpointId h s recovery.sequence)
    (.ofExcept (hkept.stable hl) fun _ _ _ hs => hs recovery rfl) fun _ => ?_
  exact .seq (hkept.within hl (journal_within fun h => (by cases h))) fun _ => assureCandidate_offered hl

theorem program_publication (c : Call D) (s : VeraState D) (hs : (publication R).inv s) :
    Safe ((publication R).contract c) (fun _ _ _ _ => True) (program R c) ∅ [] s := by
  have hother (hn : ∀ p, ¬ c.makes (.publish p)) :
      Safe ((publication R).contract c) (fun _ _ _ _ => True) (program R c) ∅ [] s :=
    (Protocol.safe_of_makes (V := publication R)
      (fun _ _ _ t _ ht _ _ p hp => absurd (hp ▸ ht) (hn p)) hs).mono hs fun _ _ _ _ _ _ => trivial
  cases c with
  | checkpoint args =>
    exact (checkpoint_offered.map Reply.checkpoint [] s hs trivial).mono hs fun _ _ _ _ _ _ => trivial
  | dispatch | cancelReservedEffect | reconcile | openState | acceptedActionPermit =>
    exact hother fun _ h => h.elim
  | invoke => exact hother fun _ h => h.elim (fun h => h.elim) fun ⟨_, h⟩ => (by cases h)
  | cancelReservedCommand => exact hother fun _ h => h.elim (fun h => h.elim) fun h => h.elim
  | reconstruct | resumeContext => exact hother fun _ h => h.elim (fun h => h.elim) fun h => h.elim
  | validateActionPermit => exact hother fun _ h => (by cases h)
  | admitRecord => exact hother fun _ h => h.elim (fun h => (by cases h)) fun ⟨_, h⟩ => (by cases h)
  | replaceControlSource => exact hother fun _ h => h.elim (fun h => (by cases h)) fun h => (by cases h)

end Calls

/-! ## Every run -/

variable (R) in
/-- No call that published a checkpoint named an old one when it took the lock. -/
def FreshRetries : List (Step Lock (VeraState D) (Call D)) → Prop
  | [] => True
  | st :: earlier => FreshRetries earlier ∧ (Publishes R st.move → ∀ args s₀, st.call = .checkpoint args →
      tookLock (hist st.thread earlier) = some s₀ → ¬ Stale R args.checkpointId s₀)

theorem pairwise_cons_iff {g : Nat} {gs : List Nat} :
    (g :: gs).Pairwise (· > ·) ↔ gs.Pairwise (· > ·) ∧ ∀ g', gs.head? = some g' → g' < g := by
  rw [List.pairwise_cons]
  constructor
  · rintro ⟨hall, hgs⟩
    exact ⟨hgs, fun g' hg' => hall g' (List.mem_of_mem_head? hg')⟩
  · rintro ⟨hgs, hhead⟩
    refine ⟨fun x hx => ?_, hgs⟩
    cases gs with
    | nil => cases hx
    | cons g' gs =>
      have hlt := hhead g' rfl
      rcases List.mem_cons.1 hx with rfl | hx
      · exact hlt
      · exact ((List.pairwise_cons.1 hgs).1 x hx).trans hlt

/-- The published checkpoint is the last of the publications, and these move forward
exactly when no retry was stale. -/
theorem publications_forward {s₀ : VeraState D} {trace : List (Step Lock (VeraState D) (Call D))}
    (hv : Valid (publication R).discipline s₀ trace s) (h₀ : publishedGeneration R s₀ = none) :
    publishedGeneration R s = (publications R trace).head? ∧
      ((publications R trace).Pairwise (· > ·) ↔ FreshRetries R trace) := by
  induction hv with
  | init => exact ⟨h₀, by simp [publications, FreshRetries]⟩
  | @lock trace s i c k hk _ ih =>
    have hp : ¬ Publishes R (⟨k, s, s⟩ : Move Lock (VeraState D)) := fun h => h rfl
    have hpub : publications R (⟨i, c, k, s, s⟩ :: trace) = publications R trace := by
      rw [publications, List.filterMap_cons, if_neg hp, publications]
    rw [hpub, FreshRetries]
    exact ⟨ih.1, ih.2.trans ⟨fun h => ⟨h, fun h' => absurd h' hp⟩, And.left⟩⟩
  | @act trace s s' i c hv _ hg ih =>
    obtain ⟨t, hd, -, hpromise⟩ := hg
    by_cases ht : ∃ p, t = .publish p
    · have hp := (publishes_iff hd).2 ht
      obtain ⟨p, rfl⟩ := ht
      obtain ⟨args, rfl, hoff⟩ := hpromise p rfl
      obtain ⟨s₁, hlock, hsame, hgen⟩ := hoff.offered
      have hafter := publishedGeneration_publish hd
      have hpub : publications R (⟨i, .checkpoint args, .act, s, s'⟩ :: trace) =
          p.recoveryCheckpointGeneration :: publications R trace := by
        rw [publications, List.filterMap_cons, if_pos hp, hafter, publications]
      refine ⟨by rw [hafter, hpub]; rfl, ?_⟩
      rw [hpub, pairwise_cons_iff, FreshRetries, ih.2, ← ih.1, hsame, hgen]
      refine and_congr_right fun _ => ⟨fun hlt _ args' s₂ hc hlock' => ?_, fun hfresh g hg => ?_⟩
      · cases hc
        obtain rfl := Option.some.inj (hlock.symm.trans hlock')
        rintro ⟨g, hg, hle⟩
        exact absurd (hlt g hg) (Nat.not_lt.2 hle)
      · by_contra hle
        exact hfresh hp args s₁ rfl hlock ⟨g, hg, Nat.not_lt.1 hle⟩
    · have hp : ¬ Publishes R ⟨.act, s, s'⟩ := fun h => ht ((publishes_iff hd).1 h)
      have hpub : publications R (⟨i, c, .act, s, s'⟩ :: trace) = publications R trace := by
        rw [publications, List.filterMap_cons, if_neg hp, publications]
      rw [hpub, FreshRetries, publishedGeneration_congr (currentness_eq hd fun p hp => ht ⟨p, hp⟩)]
      exact ⟨ih.1, ih.2.trans ⟨fun h => ⟨h, fun h' => absurd h' hp⟩, And.left⟩⟩

/-- In every interleaving of calls, with any crashes, the published checkpoints move
forward exactly when no call that published one had named an id that the recovery store
had already, and not past the published checkpoint, when the call took the lock. -/
theorem accepted_checkpoints_forward [DecidableEq D] (R : Runtime D) (d : D)
    (es : List (Event (Call D))) :
    (publications R (VeraPool.run R d es).trace).Pairwise (· > ·) ↔
      FreshRetries R (VeraPool.run R d es).trace := by
  have hsound := Protocol.sound (V := publication R) program_publication d
    ⟨Chaining.wellFormed_empty, fun g hg => (by cases hg)⟩ es
  exact (publications_forward hsound.valid rfl).2

/-! ## A retry that goes back -/

/-- A checkpoint prepared for a generation that is not the current one, so that it is stored
and not published. -/
def earlyCheckpoint : CheckpointArgs Nat :=
  sampleCheckpoint "c1" (sampleSha256 .memoryGenesis) (sampleSha256 .checkpointGenesis) (some 0)

def earlyRun : List (Event (Call Nat)) := .spawn 0 (.checkpoint earlyCheckpoint) :: moves 0 25

def nextCheckpoint : CheckpointArgs Nat :=
  sampleCheckpoint "c2" (sampleSha256 .memoryGenesis) (VeraPool.run sample 0 earlyRun).store.checkpoints.head
    none

/-- The early checkpoint, the next one, and a verbatim retry of the early one. -/
def retriedRun : List (Event (Call Nat)) :=
  earlyRun ++ .spawn 1 (.checkpoint nextCheckpoint) :: moves 1 25 ++
    .spawn 2 (.checkpoint earlyCheckpoint) :: moves 2 25

/-- The retry publishes checkpoint 1 over checkpoint 2. -/
theorem retry_goes_back : publications sample (VeraPool.run sample 0 retriedRun).trace = [1, 2] := by
  decide +kernel

end VeraMono

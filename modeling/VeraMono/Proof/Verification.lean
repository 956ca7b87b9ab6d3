import VeraMono.Model.LedgerClients
import VeraMono.Model.Sample
import VeraMono.Proof.CoordinationRepository

/-!
# Verifiers and concurrent writers

A verifier reads the rows of its ledger and the counters in separate statements, so a
commit in between makes it report a corruption that is not there: `false_reports` has
such a run for each ledger. `no_false_reports` says when none is reported: no commit
falls between the first and the last statement of the verifier, and the events of the
audit are appended in the order of the stages, which `append` does not check.
-/

namespace VeraMono

open Framework

variable {D : Type}

/-! ## Ledgers in general -/

section Ledger
variable {σ A E : Type} {write : A → Prog Empty σ Failure E} {verify : Prog Empty σ Failure D} {s₀ : σ}

/-- In every run from `s₀` whose steps meet `G`, a verification that nothing disturbs
raises nothing. -/
def NoFalseReports (program : LedgerCall A → Prog Empty σ Failure (LedgerReply E D)) (s₀ : σ)
    (G : Step Empty σ (LedgerCall A) → Prop) : Prop :=
  ∀ es i, let P := (Pool.init s₀).run program es
    (∀ st ∈ P.trace, G st) → Undisturbed i P.trace → verificationError P i = none

theorem verificationError_some {P : Pool Empty σ Failure (LedgerReply E D) (LedgerCall A)} {i : Nat}
    {e : Failure} (h : verificationError P i = some e) : P.thread i = some ⟨.verify, some (.raise e)⟩ := by
  rw [verificationError] at h
  split at h
  · rename_i e' ht
    rw [ht, Option.some.inj h]
  · cases h

/-- It is enough that the writes of a run keep an invariant under which a verification
that runs alone succeeds. -/
theorem noFalseReports {I : σ → Prop} {G : Step Empty σ (LedgerCall A) → Prop} (h₀ : I s₀)
    (hread : verify.ReadOnly) (hok : ∀ s, I s → ∃ d, verify.run s = (.ok d, s))
    (hwrite : ∀ a moves (st : Step Empty σ (LedgerCall A)), st.call = .write a →
      ((write a).after moves).Steps st.move.before st.move.after → G st → I st.move.before →
      I st.move.after) : NoFalseReports (ledgerProgram write verify) s₀ G := by
  intro es i P hG hu
  have hfollows : Follows (ledgerProgram write verify) s₀ P := Pool.follows _ s₀ es
  have hreader : (ledgerProgram write verify .verify).ReadOnly := Prog.All.map hread _
  obtain ⟨-, hmet⟩ := hfollows.traced.invariant_of h₀ hG fun st moves hs hg hi => by
    cases hc : st.call with
    | verify =>
      rw [hc] at hs
      have hsame : st.move.after = st.move.before := (Prog.All.after hreader).steps hs
      rwa [hsame]
    | write a =>
      rw [hc, ledgerProgram, Prog.after_map, Prog.steps_map] at hs
      exact hwrite a moves st hc hs hg hi
  rw [Option.eq_none_iff_forall_ne_some]
  intro e he
  refine hfollows.undisturbed_ok hreader hu h₀ hmet (fun s hs => ?_) (verificationError_some he)
  obtain ⟨d, hd⟩ := hok s hs
  exact ⟨.verified d, by rw [ledgerProgram, Prog.map, Prog.run_resume, hd]; rfl⟩

/-- The same for writes that keep the invariant wherever they are made. -/
theorem noFalseReports_of_all {I : σ → Prop} (h₀ : I s₀) (hread : verify.ReadOnly)
    (hok : ∀ s, I s → ∃ d, verify.run s = (.ok d, s))
    (hwrite : ∀ a, (write a).All fun s s' => I s → I s') :
    NoFalseReports (ledgerProgram write verify) s₀ fun _ => True :=
  noFalseReports h₀ hread hok fun a _ _ _ hs _ => (Prog.All.after (hwrite a)).steps hs

end Ledger

/-! ## Chained logs -/

section Chain
variable {B : Type} {verify : List (Entry B D) → Nat → D → Except Failure D}

theorem readChain_readOnly : (readChain id verify : Prog Empty (ChainLog B D) Failure D).ReadOnly :=
  Prog.All.bind (Prog.ReadOnly.read _) fun _ => Prog.All.bind (Prog.ReadOnly.read _) fun _ =>
    Prog.All.bind (Prog.ReadOnly.read _) fun _ => Prog.All.ofExcept _

theorem readChain_run {log : ChainLog B D} {d : D}
    (h : verify log.entries log.sequence log.head = .ok d) :
    (readChain id verify : Prog Empty (ChainLog B D) Failure D).run log = (.ok d, log) := by
  simp only [readChain, Prog.run_bind, Prog.run_read, Prog.run_ofExcept, id, h]

end Chain

/-! ## The lifecycle journal -/

section Journal
variable [DecidableEq D] {H : Hashing D} {log log' : LifecycleJournal D}

theorem LifecycleJournal.verifyChain_ok (h : (journalChain H).WellFormed log) :
    LifecycleJournal.verifyChain H log.entries log.sequence log.head = .ok log.head := by
  have hall (bodies : List (JournalBody D)) :
      bodies.foldlM (fun (_ : Unit) _ => (.ok () : Except Empty Unit)) () = .ok () := by
    induction bodies with
    | nil => rfl
    | cons b bs ih => exact ih
  rw [LifecycleJournal.verifyChain, Chaining.verify_eq_ok.2 ⟨rfl, h.linked, (), hall _⟩]

theorem LifecycleJournal.wellFormed_append {event : JournalBody D} {e : LifecycleEvent D}
    (h : (journalChain H).WellFormed log) (ha : LifecycleJournal.append H event log = .ok (e, log')) :
    (journalChain H).WellFormed log' := by
  simp only [LifecycleJournal.append, bind_eq_ok] at ha
  obtain ⟨_, -, ha⟩ := ha
  split at ha
  · rename_i r hr
    cases ha
    exact h.append hr
  · cases ha
  · cases ha

end Journal

/-! ## The outbound audit -/

section Audit
variable [DecidableEq D] {H : Hashing D} {log log' : OutboundExecutionAudit D} {event : AuditBody D}

namespace OutboundExecutionAudit

/-- The events of an audit, oldest first. -/
def bodies (log : OutboundExecutionAudit D) : List (AuditBody D) := log.entries.map fun e => e.body

/-- An event that an append adds is of the kind its effect has, and of a stage that
follows the one its effect is at. -/
def InStageOrder (st : Step Empty (OutboundExecutionAudit D) (LedgerCall (AuditBody D))) : Prop :=
  ∀ event, st.call = .write event → st.move.after ≠ st.move.before →
    ∃ seen, checkStage (bodies st.move.before).reverse event = .ok seen

/-- What `verify_chain` checks. -/
structure Verifiable (H : Hashing D) (log : OutboundExecutionAudit D) : Prop where
  chain : (auditChain H).WellFormed log
  stages : (bodies log).foldlM checkStage [] = .ok (bodies log).reverse

theorem Verifiable.verifyRows (h : Verifiable H log) :
    verifyRows H log.entries log.sequence log.head = .ok log.head := by
  rw [OutboundExecutionAudit.verifyRows, Chaining.verify_eq_ok.2 ⟨rfl, h.chain.linked, _, h.stages⟩]

omit [DecidableEq D] in
theorem checkStage_ok {seen seen' : List (AuditBody D)} (h : checkStage seen event = .ok seen') :
    checkStage seen event = .ok (event :: seen) := by
  simp only [checkStage, ite_error_ok] at h
  obtain ⟨hkind, hterminal, hfollows, -⟩ := h
  rw [checkStage, if_neg hkind, if_neg hterminal, if_neg hfollows]

theorem Verifiable.append {e : OutboundAuditEvent D} (h : Verifiable H log)
    (ha : OutboundExecutionAudit.append H event log = .ok (e, log'))
    (hstage : log' ≠ log → ∃ seen, checkStage (bodies log).reverse event = .ok seen) :
    Verifiable H log' := by
  simp only [OutboundExecutionAudit.append, bind_eq_ok] at ha
  obtain ⟨_, -, _, -, ha⟩ := ha
  split at ha
  · rename_i r hr
    cases ha
    rcases Chaining.append_cases hr with ⟨rfl, -, -⟩ | ⟨hnew, -, rfl⟩
    · exact h
    · have hne : (auditChain H).extend log event ≠ log := fun heq => by
        have := congrArg ChainLog.sequence heq
        simp [Chaining.extend] at this
      obtain ⟨seen, hseen⟩ := hstage hne
      have hbodies : bodies ((auditChain H).extend log event) = bodies log ++ [event] := by
        rw [bodies, Chaining.extend, List.map_append]
        rfl
      refine ⟨h.chain.extend hnew, ?_⟩
      rw [hbodies, List.foldlM_append, h.stages, List.reverse_append]
      simp only [ok_bind, List.foldlM_cons, checkStage_ok hseen]
      rfl
  · cases ha
  · cases ha

end OutboundExecutionAudit

end Audit

/-! ## The command journal -/

section Commands
variable [DecidableEq D] {H : Hashing D} {j j' : CommandJournal D}

namespace CommandJournal

/-- The row of metadata is that of the two tables. -/
def Consistent (H : Hashing D) (j : CommandJournal D) : Prop :=
  projectionState H j.bindings.rows j.results.rows =
    .ok (j.bindingCount, j.resultCount, j.projectionDigest)

theorem Consistent.empty : Consistent H (.empty H) := rfl

theorem consistent_writeMeta (h : writeMeta H j = .ok j') : Consistent H j' := by
  simp only [writeMeta, bind_eq_ok, pure_ok] at h
  obtain ⟨state, hstate, rfl⟩ := h
  exact hstate

theorem Consistent.bind {b b' : CommandBinding D} (h : Consistent H j)
    (hb : CommandJournal.bind H b j = .ok (b', j')) : Consistent H j' := by
  rw [CommandJournal.bind] at hb
  split at hb
  · obtain ⟨-, hb⟩ := ite_error_ok.1 hb
    cases hb
    exact h
  · obtain ⟨-, hb⟩ := ite_error_ok.1 hb
    obtain ⟨_, hj, heq⟩ := map_eq_ok.1 hb
    cases heq
    exact consistent_writeMeta hj

theorem Consistent.recordResult {r r' : CommandResult D} (h : Consistent H j)
    (hr : CommandJournal.recordResult H r j = .ok (r', j')) : Consistent H j' := by
  rw [CommandJournal.recordResult] at hr
  split at hr
  · obtain ⟨-, hr⟩ := ite_error_ok.1 hr
    cases hr
    exact h
  · obtain ⟨-, hr⟩ := ite_error_ok.1 hr
    obtain ⟨_, hj, heq⟩ := map_eq_ok.1 hr
    cases heq
    exact consistent_writeMeta hj

theorem recordGiven_ok {given : SqlText} {r r' : CommandResult D}
    (hr : recordGiven H given r j = .ok (r', j')) : CommandJournal.recordResult H r j = .ok (r', j') :=
  (ite_error_ok.1 hr).2

theorem readIntegrity_readOnly : (readIntegrity H id : Prog Empty (CommandJournal D) Failure D).ReadOnly :=
  Prog.All.bind (Prog.ReadOnly.read _) fun _ => Prog.All.bind (Prog.ReadOnly.read _) fun _ =>
    Prog.All.bind (Prog.ReadOnly.read _) fun _ => Prog.All.bind (Prog.All.ofExcept _) fun _ =>
      Prog.All.ofExcept _

theorem Consistent.readIntegrity (h : Consistent H j) :
    (readIntegrity H id : Prog Empty (CommandJournal D) Failure D).run j =
      (.ok j.projectionDigest, j) := by
  rw [Consistent] at h
  simp only [CommandJournal.readIntegrity, Prog.run_bind, Prog.run_read, Prog.run_ofExcept, id, h,
    compareMeta, ne_eq, not_true, if_false]

/-- Whatever a write read before its transaction, the transaction keeps the metadata right. -/
theorem write_consistent (w : Write D) :
    (write H w).All fun j j' => Consistent H j → Consistent H j' := by
  have hread {α : Type} {p : Prog Empty (CommandJournal D) Failure α} (hp : p.ReadOnly) :
      p.All fun j j' => Consistent H j → Consistent H j' := hp.all fun _ => id
  cases w with
  | bind a =>
    refine (hread readIntegrity_readOnly).bind fun _ => (Prog.All.ofExcept _).bind fun b => ?_
    exact (Prog.All.txn (fun _ _ _ hb h => h.bind hb) fun _ => id).map _
  | recordResult a =>
    refine (hread readIntegrity_readOnly).bind fun _ =>
      (hread (Prog.ReadOnly.readM _)).bind fun b => (Prog.All.ofExcept _).bind fun r => ?_
    exact (Prog.All.txn (fun _ _ _ hr h => h.recordResult (recordGiven_ok hr)) fun _ => id).map _

end CommandJournal

end Commands

/-! ## The coordination repository -/

section Repository
variable [DecidableEq D] {K : BusHashing D} {py : Stdlib}

namespace SQLiteCoordinationRepository

theorem verifyIntegrity_readOnly : (verifyIntegrity K py).ReadOnly :=
  Prog.All.bind (Prog.ReadOnly.read _) fun _ => Prog.All.bind (Prog.ReadOnly.read _) fun _ =>
    Prog.All.ofExcept _

theorem Verifiable.verifyIntegrity {log : SQLiteCoordinationRepository D} (h : Verifiable K py log) :
    (verifyIntegrity K py).run log = (.ok log.head, log) := by
  simp only [SQLiteCoordinationRepository.verifyIntegrity, Prog.run_bind, Prog.run_read,
    Prog.run_ofExcept, h.verifyRows]

end SQLiteCoordinationRepository

end Repository

/-! ## Every run -/

/-- No verifier reports a corruption in a run of its ledger unless a commit falls between
its statements or, for the audit, events were appended out of the order of the stages. -/
theorem no_false_reports [DecidableEq D] (H : Hashing D) (K : BusHashing D) (py : Stdlib) :
    NoFalseReports (CommandJournal.program H) (.empty H) (fun _ => True) ∧
      NoFalseReports (auditProgram H) (auditChain H).empty OutboundExecutionAudit.InStageOrder ∧
      NoFalseReports (journalProgram H) (journalChain H).empty (fun _ => True) ∧
      NoFalseReports (repositoryProgram K py) (repositoryChain K).empty (fun _ => True) := by
  refine ⟨?_, ?_, ?_, ?_⟩
  · exact noFalseReports_of_all (I := CommandJournal.Consistent H) .empty
      CommandJournal.readIntegrity_readOnly (fun j hj => ⟨_, hj.readIntegrity⟩) CommandJournal.write_consistent
  · refine noFalseReports (I := OutboundExecutionAudit.Verifiable H) ⟨Chaining.wellFormed_empty, rfl⟩
      readChain_readOnly (fun log h => ⟨_, readChain_run h.verifyRows⟩) ?_
    intro event moves st hc hs hG h
    obtain ⟨-, hafter⟩ := Prog.steps_txn.1 hs
    cases ha : OutboundExecutionAudit.append H event st.move.before with
    | error e =>
      rw [ha, Prog.committed] at hafter
      rwa [hafter]
    | ok r =>
      rw [ha, Prog.committed] at hafter
      exact h.append (by rw [ha, hafter]) (hG event hc)
  · refine noFalseReports_of_all (I := (journalChain H).WellFormed) Chaining.wellFormed_empty
      readChain_readOnly (fun log h => ⟨_, readChain_run (LifecycleJournal.verifyChain_ok h)⟩) ?_
    exact fun event => Prog.All.txn (fun _ _ _ ha h => LifecycleJournal.wellFormed_append h ha) fun _ => id
  · refine noFalseReports_of_all (I := SQLiteCoordinationRepository.Verifiable K py) .empty
      SQLiteCoordinationRepository.verifyIntegrity_readOnly (fun log h => ⟨_, h.verifyIntegrity⟩) ?_
    exact fun a => Prog.All.txn (fun _ _ _ ha h => h.append ha) fun _ => id

/-! ## A commit between two statements -/

/-- A verification that makes `n` steps, is overtaken by a write of `k` steps, and ends. -/
def overtaken {A : Type} (a : A) (n k : Nat) : List (Event (LedgerCall A)) :=
  .spawn 0 .verify :: List.replicate n (.step 0) ++ .spawn 1 (.write a) :: List.replicate k (.step 1) ++
    List.replicate 4 (.step 0)

/-- A hash on which one event can be appended. -/
def sampleBus : BusHashing Nat where
  encodes _ := true
  canonicalHash
    | .genesis => 0
    | .eventId n _ => n
    | .event _ n _ => n
  hexdigest _ := String.ofList (List.replicate 64 '0')
  hexdigest_length _ := by decide +kernel
  hexdigest_digits _ c hc := by
    rw [String.toList_ofList] at hc
    exact List.eq_of_mem_replicate hc ▸ List.mem_cons_self

def sampleDraft : CoordinationEventDraft where
  threadKey := "thread"
  sourceBranch := "workstream/time"
  targetBranch := some "workstream/memory"
  eventType := "STATUS"
  status := "IN_PROGRESS"
  objective := "objective"
  summary := "summary"
  activeIssue := none
  requestedPerspective := none
  supersedesEventId := none
  acknowledgesEventId := none
  payload := .dict []
  referenceData := .dict []

def sampleBind : CommandJournal.BindArgs Nat :=
  ⟨"c", "coordination:c", "coordination_post", "workstream/time", .lower 1, .lower 2, .lower 3⟩

def sampleAuthority : AuditBody Nat :=
  ⟨"e", "kind", .authorityVerified, ⟨1, 2, none, none, none, none, none, none, none, false⟩⟩

def sampleCommitted : AuditBody Nat := { sampleAuthority with eventType := .committed }

def samplePrepared : JournalBody Nat := ⟨"t", .candidatePrepared, .prepared 1 1 2 none 3 4⟩

/-- Each verifier takes the first write to its ledger for a corruption when the write
commits after its first statement, and an event of the audit that `append` accepted out of
order is one to a verifier that runs alone. -/
theorem false_reports :
    verificationError ((Pool.init (.empty sample.hash)).run (CommandJournal.program sample.hash)
        (overtaken (.bind sampleBind) 1 4)) 0 =
      some (commandError "coordination command binding count mismatch") ∧
    verificationError ((Pool.init (auditChain sample.hash).empty).run (auditProgram sample.hash)
        (overtaken sampleAuthority 1 1)) 0 =
      some (auditError "outbound audit meta sequence mismatch") ∧
    verificationError ((Pool.init (journalChain sample.hash).empty).run (journalProgram sample.hash)
        (overtaken samplePrepared 1 1)) 0 =
      some (journalError "lifecycle journal meta sequence mismatch") ∧
    verificationError ((Pool.init (repositoryChain sampleBus).empty).run
        (repositoryProgram sampleBus sampleStdlib)
        (overtaken (sampleDraft, ⟨"2026-01-01T00:00:00.000000+00:00", by decide +kernel⟩) 1 1)) 0 =
      some (repositoryCorrupt "coordination meta sequence mismatch") ∧
    verificationError ((Pool.init (auditChain sample.hash).empty).run (auditProgram sample.hash)
        [.spawn 1 (.write sampleCommitted), .step 1, .spawn 0 .verify, .step 0, .step 0, .step 0]) 0 =
      some (auditError "outbound audit effect stage ordering is invalid") := by
  refine ⟨?_, ?_, ?_, ?_, ?_⟩ <;> decide +kernel

end VeraMono

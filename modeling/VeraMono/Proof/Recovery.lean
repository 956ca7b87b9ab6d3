import VeraMono.Framework.Readers
import VeraMono.Model.Recovery

/-!
# One successor for a predecessor

A call of `recover` that returns has consumed the signature of its termination intent in the
registry, from which nothing is removed, so two calls that return name two intents. What the
documents of such a call have in common is read off its checks (`verifyRecovery_ok`).
-/

namespace VeraMono

open Framework

variable {Key : Type} {R : RecoveryRuntime Key} {call : RecoverCall Key}

/-! ## The registry -/

namespace LifecycleRegistry

/-- The terminations that are consumed. -/
def signatures (registry : LifecycleRegistry) : List String :=
  match registry with
  | none => []
  | some file => file.events.map Prod.fst

theorem readFile_ok {registry : LifecycleRegistry} {data : RegistryFile} (h : readFile R registry = .ok data) :
    data.events.map Prod.fst = registry.signatures := by
  simp only [readFile, ite_error_ok, ↓throw_bind, pure_ok] at h
  obtain ⟨-, -, rfl⟩ := h
  cases registry <;> rfl

/-- A termination is consumed once, and the others stay. -/
theorem consume_ok {event : ConsumedTermination} {head post : String} {registry registry' : LifecycleRegistry}
    (h : consume R event head registry = .ok (post, registry')) :
    event.terminationSignature ∉ registry.signatures ∧
      registry'.signatures = registry.signatures ++ [event.terminationSignature] := by
  simp only [consume, bind_eq_ok, ite_error_ok, ↓throw_bind, pure_ok, Prod.mk.injEq] at h
  obtain ⟨data, hdata, -, hnew, readback, -, -, -, rfl⟩ := h
  have hsigs := readFile_ok hdata
  constructor
  · intro hmem
    obtain ⟨⟨signature, e⟩, he, rfl⟩ := List.mem_map.1 (hsigs ▸ hmem)
    exact (by simpa using hnew : ∀ e, (event.terminationSignature, e) ∉ data.events) e he
  · rw [← hsigs]
    exact List.map_append

end LifecycleRegistry

/-! ## What the documents have in common -/

/-- The fields that documents share and no check compares. -/
structure VerifiedRecovery.Matching (v : VerifiedRecovery) : Prop where
  projectId : v.state.projectId = v.receipt.projectId
  identityId : v.state.identityId = v.receipt.identityId
  runtimeId : v.state.runtimeId = v.receipt.runtimeId
  runtimeInstanceNonce : v.state.runtimeInstanceNonce = v.receipt.runtimeInstanceNonce
  processId : v.intent.processId = v.exit.processId
  checkpointDigest : v.receipt.checkpointDigest = v.intent.checkpointDigest

/-- The documents agree on every field they share. -/
structure VerifiedRecovery.Consistent (v : VerifiedRecovery) : Prop extends v.Matching where
  intentRuntimeId : v.receipt.runtimeId = v.intent.runtimeId
  exitRuntimeId : v.intent.runtimeId = v.exit.runtimeId
  intentNonce : v.receipt.runtimeInstanceNonce = v.intent.runtimeInstanceNonce
  exitNonce : v.intent.runtimeInstanceNonce = v.exit.runtimeInstanceNonce
  intentReceipt : v.intent.checkpointReceiptSignature = v.receipt.signature
  exitReceipt : v.exit.checkpointReceiptSignature = v.receipt.signature
  exitIntent : v.exit.terminationIntentSignature = v.intent.signature

/-- The times are in order within the skew, and not stale. -/
structure LifecycleTimes.InOrder (t : LifecycleTimes) (recoveryTime : Int) : Prop where
  created : t.created ≤ t.checkpoint + maxClockSkew
  checkpoint : t.checkpoint ≤ t.intent
  intent : t.intent ≤ t.exit + maxClockSkew
  exit : t.exit ≤ recoveryTime + maxClockSkew
  createdFresh : recoveryTime - t.created ≤ maxLifecycleAge
  exitFresh : recoveryTime - t.exit ≤ maxLifecycleAge

/-- The times are those that the documents name. -/
structure VerifiedRecovery.Timed (R : RecoveryRuntime Key) (v : VerifiedRecovery) : Prop where
  created : parseTime R v.state.createdAt = .ok v.times.created
  checkpoint : parseTime R v.receipt.checkpointObservedAt = .ok v.times.checkpoint
  intent : parseTime R v.intent.intentEmittedAt = .ok v.times.intent
  exit : parseTime R v.exit.observedAt = .ok v.times.exit

section Checks
variable {v : VerifiedRecovery} {receipt : CheckpointReceipt} {intent : TerminationIntent}
  {attestation : ExitAttestation} {state : CheckpointState} {times : LifecycleTimes} {t limit : Int}

theorem plusSkew_ok (h : plusSkew t = .ok limit) : limit = t + maxClockSkew := by
  rw [plusSkew, ite_error_ok] at h
  exact (Except.ok.inj h.2).symm

theorem validateLifecycleOrder_ok (h : validateLifecycleOrder R state receipt intent attestation t = .ok times) :
    times.InOrder t ∧ parseTime R state.createdAt = .ok times.created ∧
      parseTime R receipt.checkpointObservedAt = .ok times.checkpoint ∧
      parseTime R intent.intentEmittedAt = .ok times.intent ∧
      parseTime R attestation.observedAt = .ok times.exit := by
  simp only [validateLifecycleOrder, bind_eq_ok, ite_error_ok, ↓throw_bind, pure_ok, not_lt] at h
  obtain ⟨created, hc, checkpoint, hcp, intentTime, hi, exitTime, he, limit, hl, h₁, h₂, limit', hl', h₃, limit'',
    hl'', h₄, h₅, h₆, rfl⟩ := h
  rw [plusSkew_ok hl] at h₁
  rw [plusSkew_ok hl'] at h₃
  rw [plusSkew_ok hl''] at h₄
  exact ⟨⟨h₁, h₂, h₃, h₄, h₅, h₆⟩, hc, hcp, hi, he⟩

theorem verifyRecovery_ok (h : verifyRecovery R call = .ok v) :
    (v.Matching → v.Consistent) ∧ processIsAlive call.alive v.exit.processId = false ∧
      v.times.InOrder call.now ∧ v.Timed R := by
  simp only [verifyRecovery, bind_eq_ok, ite_error_ok, ↓throw_bind, pure_ok] at h
  obtain ⟨-, trust, -, orientation, -, -, receipt, -, intent, -, attestation, -, _, hchain, state, -, _, -, times,
    htimes, rfl⟩ := h
  obtain ⟨horder, hc, hcp, hi, he⟩ := validateLifecycleOrder_ok htimes
  simp only [checkChain, ite_error_ok, ↓throw_bind, ite_throw_ok, not_or, not_not, Bool.not_eq_true] at hchain
  obtain ⟨-, ⟨hir, her, hei⟩, ⟨hid, hid'⟩, ⟨hn, hn'⟩, halive, -⟩ := hchain
  exact ⟨fun hm => ⟨hm, hid, hid', hn, hn', hir, her, hei⟩, halive, horder, hc, hcp, hi, he⟩

end Checks

/-! ## One call -/

section Call
variable {v : VerifiedRecovery} {r : ResumptionReceipt} {s s' : LifecycleRegistry}
  {h : List (Move Empty LifecycleRegistry)}

/-- No step of a call takes a termination out of the registry. -/
theorem recover_grows : (recover R call).All fun s s' => s.signatures ⊆ s'.signatures := by
  refine .bind (.ofExcept _) fun v => .bind ((Prog.ReadOnly.read _).all fun s => List.Subset.refl s.signatures)
    fun head => .bind (.ofExcept _) fun preHead => .txn (fun s r s' hr => ?_) fun _ => List.Subset.refl _
  obtain ⟨⟨post, s''⟩, hconsume, hr⟩ := map_eq_ok.1 hr
  cases hr
  rw [(LifecycleRegistry.consume_ok hconsume).2]
  exact List.subset_append_left _ _

theorem recover_commitsLast : (recover R call).CommitsLast :=
  .bind (.ofExcept _) fun _ => .bind (.read _) fun _ => .bind (.ofExcept _) fun _ => .txn _

/-- A call returns with the step that consumes its termination. -/
theorem recover_ends (hends : ((recover R call).after h).Ends s s' r) :
    ∃ v preHead post, verifyRecovery R call = .ok v ∧ r = v.resumption R call preHead post ∧
      v.intent.signature ∉ s.signatures ∧ v.intent.signature ∈ s'.signatures := by
  obtain ⟨v, hv, hends⟩ := Prog.ends_check.1 hends
  obtain ⟨h', m, -, hends⟩ := (Prog.ends_read fun _ => Prog.check_ne_ret fun _ => Prog.txn_ne_ret).1 hends
  obtain ⟨preHead, -, hends⟩ := Prog.ends_check.1 hends
  obtain ⟨⟨post, registry⟩, hconsume, hr⟩ := map_eq_ok.1 (Prog.ends_txn.1 hends).2
  cases hr
  obtain ⟨hnew, hsigs⟩ := LifecycleRegistry.consume_ok hconsume
  exact ⟨v, preHead, post, hv, rfl, hnew, hsigs ▸ List.mem_append_right _ (List.mem_singleton_self _)⟩

end Call

/-! ## Runs -/

section Runs
variable {registry : LifecycleRegistry}
  {P : Pool Empty LifecycleRegistry RecoveryFailure ResumptionReceipt (RecoverCall Key)} {i j : Nat}
  {call' : RecoverCall Key} {r r' : ResumptionReceipt}

structure Returned (R : RecoveryRuntime Key) (call : RecoverCall Key) (i : Nat) (v : VerifiedRecovery)
    (st : Step Empty LifecycleRegistry (RecoverCall Key)) : Prop where
  thread : st.thread = i
  verified : verifyRecovery R call = .ok v
  before : v.intent.signature ∉ LifecycleRegistry.signatures st.move.before
  after : v.intent.signature ∈ LifecycleRegistry.signatures st.move.after

theorem recover_ne_ret : recover R call ≠ .ret r :=
  Prog.check_ne_ret fun _ => Prog.read_ne_ret

theorem returned (h : Follows (recover R) registry P) (hi : P.thread i = some ⟨call, some (.ret r)⟩) :
    ∃ v preHead post, r = v.resumption R call preHead post ∧ ∃ st ∈ P.trace, Returned R call i v st := by
  obtain ⟨later, st, earlier, htrace, hthread, -, hends⟩ := h.returned recover_ne_ret hi
  obtain ⟨v, preHead, post, hv, hr, hbefore, hafter⟩ := recover_ends hends
  exact ⟨v, preHead, post, hr, st, htrace ▸ List.mem_append_right _ List.mem_cons_self, hthread, hv, hbefore, hafter⟩

theorem intents_differ (h : Follows (recover R) registry P) {v v' : VerifiedRecovery}
    {st st' : Step Empty LifecycleRegistry (RecoverCall Key)} (hst : st ∈ P.trace) (hst' : st' ∈ P.trace)
    (hr : Returned R call i v st) (hr' : Returned R call' j v' st') (hij : i ≠ j) :
    v.intent.signature ≠ v'.intent.signature := by
  intro hsame
  rcases h.traced.ordered (R := fun s s' => LifecycleRegistry.signatures s ⊆ LifecycleRegistry.signatures s')
    (fun s => List.Subset.refl s.signatures) (fun _ _ _ => List.Subset.trans)
    (fun _ _ _ _ hs => (Prog.All.after recover_grows).steps hs) hst hst' with rfl | hafter | hafter
  · exact hij (hr.thread.symm.trans hr'.thread)
  · exact hr'.before (hsame ▸ hafter hr.after)
  · exact hr.before (hsame ▸ hafter hr'.after)

end Runs

def VerifiedRecovery.runtimeInstance (v : VerifiedRecovery) : String × String :=
  (v.receipt.runtimeId, v.receipt.runtimeInstanceNonce)

def ResumptionReceipt.runtimeInstance (r : ResumptionReceipt) : String × String :=
  (r.priorRuntimeId, r.priorRuntimeInstanceNonce)

/-- The calls of a run, as far as their documents pass the checks, have documents that match,
and one termination intent for each runtime instance. -/
structure SoundEvidence (R : RecoveryRuntime Key) (es : List (Event (RecoverCall Key))) : Prop where
  matching : ∀ i call v, .spawn i call ∈ es → verifyRecovery R call = .ok v → v.Matching
  oneIntent : ∀ i j call call' v v', .spawn i call ∈ es → .spawn j call' ∈ es →
    verifyRecovery R call = .ok v → verifyRecovery R call' = .ok v' →
    v.runtimeInstance = v'.runtimeInstance → v.intent.signature = v'.intent.signature

/-- On such evidence a runtime instance has one successor, whose documents agree and are in
order and whose process is gone; and a call that raises has changed nothing. -/
theorem one_successor (R : RecoveryRuntime Key) (registry : LifecycleRegistry)
    (es : List (Event (RecoverCall Key))) (h : SoundEvidence R es) :
    let P := (Pool.init registry).run (recover R) es
    (∀ i j call call' r r', P.thread i = some ⟨call, some (.ret r)⟩ →
      P.thread j = some ⟨call', some (.ret r')⟩ → i ≠ j → r.runtimeInstance ≠ r'.runtimeInstance) ∧
    (∀ i call r, P.thread i = some ⟨call, some (.ret r)⟩ → ∃ v preHead post,
      verifyRecovery R call = .ok v ∧ r = v.resumption R call preHead post ∧ v.Consistent ∧
      processIsAlive call.alive v.exit.processId = false ∧
      processIsAlive call.alive v.intent.processId = false ∧ v.times.InOrder call.now ∧ v.Timed R) ∧
    (∀ i call e, P.thread i = some ⟨call, some (.raise e)⟩ →
      ∀ st ∈ P.trace, st.thread = i → st.move.after = st.move.before) := by
  intro P
  have hP : Follows (recover R) registry P := Pool.follows _ registry es
  have hspawn {i call p} (hi : P.thread i = some ⟨call, p⟩) : .spawn i call ∈ es :=
    (Pool.call_run hi).resolve_left fun ⟨_, h₀, _⟩ => (by cases h₀)
  refine ⟨fun i j call call' r r' hi hj hij hsame => ?_, fun i call r hi => ?_, fun i call e hi st hst hth => ?_⟩
  · obtain ⟨v, preHead, post, rfl, st, hst, hr⟩ := returned hP hi
    obtain ⟨v', preHead', post', rfl, st', hst', hr'⟩ := returned hP hj
    have hm := h.matching i call v (hspawn hi) hr.verified
    have hm' := h.matching j call' v' (hspawn hj) hr'.verified
    have hinstance : v.runtimeInstance = v'.runtimeInstance := by
      have hsame : (v.state.runtimeId, v.state.runtimeInstanceNonce) =
          (v'.state.runtimeId, v'.state.runtimeInstanceNonce) := hsame
      rwa [hm.runtimeId, hm.runtimeInstanceNonce, hm'.runtimeId, hm'.runtimeInstanceNonce] at hsame
    exact intents_differ hP hst hst' hr hr' hij
      (h.oneIntent i j call call' v v' (hspawn hi) (hspawn hj) hr.verified hr'.verified hinstance)
  · obtain ⟨v, preHead, post, hv, st, hst, hr⟩ := returned hP hi
    obtain ⟨hconsistent, halive, horder, htimed⟩ := verifyRecovery_ok hr.verified
    have hm := h.matching i call v (hspawn hi) hr.verified
    exact ⟨v, preHead, post, hr.verified, hv, hconsistent hm, halive, hm.processId ▸ halive, horder, htimed⟩
  · exact hP.raised recover_commitsLast hi hst hth

/-! ## Two successors -/

def sampleRecoveryRuntime : RecoveryRuntime Unit where
  fromIsoFormat _ := .instant 0
  publicKeyId _ := "key"
  verifySignature _ _ := true
  payloadDigest _ := "payload"
  attestationsDigest _ := "attestations"
  claimDigest claim := claim.terminationIntentSignature
  receiptDigest body := body.terminationIntentSignature
  registryDigest body := Nat.repr body.generation
  registryMac _ head := head

def sampleRoot : String := String.ofList (List.replicate 64 '0')

def sampleSigner (signature : String) : Signer := ⟨"issuer", "key", signature⟩

def sampleState : CheckpointState where
  projectId := "project"
  identityId := "identity"
  runtimeId := "runtime"
  runtimeInstanceNonce := "nonce"
  memoryHeadDigest := sampleRoot
  selfModelHeadDigest := sampleRoot
  authorityStateDigest := sampleRoot
  activeCommitments := []
  unfinishedWork := []
  createdAt := "2026-01-01T00:00:00+00:00"
  predecessorCheckpointDigest := sampleRoot

def sampleAttestation (kind : String) : String × StateAttestation :=
  (kind, { sampleSigner "root" with
    schema := "VERA_R8A0_STATE_ROOT_ATTESTATION_V1", kind, projectId := "project", identityId := "identity"
    digest := sampleRoot, generation := 0, observedAt := "2026-01-01T00:00:00+00:00" })

/-- A call with the same checkpoint receipt and another termination intent, which names a process. -/
def sampleRecovery (intent : String) (processId : Int) : RecoverCall Unit where
  checkpointPath := "checkpoint"
  expectedCheckpointReceiptSignature := "receipt"
  expectedTerminationIntentSignature := intent
  expectedExitAttestationSignature := "exit"
  expectedProjectId := "project"
  expectedIdentityId := "identity"
  expectedPredecessorCheckpointDigest := sampleRoot
  expectedMemoryHeadDigest := sampleRoot
  expectedSelfModelHeadDigest := sampleRoot
  expectedAuthorityStateDigest := sampleRoot
  successorRuntimeId := "successor"
  trust := .ok ⟨[("issuer", ())], [("issuer", ())], [("issuer", ())], []⟩
  now := 0
  orientation := .ok ⟨.complete, "orientation"⟩
  checkpointReceipt := .document { sampleSigner "receipt" with
    schema := "VERA_R8A0_CHECKPOINT_WRITE_RECEIPT_V5", result := "CHECKPOINT_COMMITTED"
    checkpointPath := "checkpoint", checkpointDigest := "bytes", payloadDigest := "payload"
    stateAttestationsDigest := "attestations", projectId := "project", identityId := "identity"
    runtimeId := "runtime", runtimeInstanceNonce := "nonce"
    checkpointObservedAt := "2026-01-01T00:00:00+00:00" }
  terminationIntent := .document { sampleSigner intent with
    schema := "VERA_R8A0_TERMINATION_INTENT_RECEIPT_V2", result := "TERMINATION_INTENT_EMITTED"
    runtimeId := "runtime", runtimeInstanceNonce := "nonce", processId, checkpointDigest := "bytes"
    checkpointReceiptSignature := "receipt", intentEmittedAt := "2026-01-01T00:00:00+00:00" }
  exitAttestation := .document { sampleSigner "exit" with
    schema := "VERA_R8A0_PROCESS_EXIT_ATTESTATION_V2", result := "EXIT_OBSERVED", runtimeId := "runtime"
    runtimeInstanceNonce := "nonce", processId := 7, exitCode := 0, checkpointReceiptSignature := "receipt"
    terminationIntentSignature := intent, observedAt := "2026-01-01T00:00:00+00:00" }
  digestAt _ := some "bytes"
  alive processId := processId = 8
  checkpointDigest := some "bytes"
  checkpoint := .document
    { schema := "VERA_R8A0_CHECKPOINT_V4", payload := sampleState, payloadDigest := "payload"
      stateAttestations := [sampleAttestation "predecessor_checkpoint", sampleAttestation "memory_head",
        sampleAttestation "self_model_head", sampleAttestation "authority_state"]
      stateAttestationsDigest := "attestations", complete := true }
  processId := 9

/-- What a call returned. -/
def resumption? (P : Pool Empty LifecycleRegistry RecoveryFailure ResumptionReceipt (RecoverCall Key))
    (i : Nat) : Option ResumptionReceipt :=
  match P.thread i with
  | some ⟨_, some (.ret r)⟩ => some r
  | _ => none

theorem resumption?_eq_some {P : Pool Empty LifecycleRegistry RecoveryFailure ResumptionReceipt (RecoverCall Key)}
    {i : Nat} {r : ResumptionReceipt} (h : resumption? P i = some r) :
    ∃ call, P.thread i = some ⟨call, some (.ret r)⟩ := by
  unfold resumption? at h
  split at h
  · rename_i call r' hthread
    cases h
    exact ⟨call, hthread⟩
  · cases h

instance (v : VerifiedRecovery) : Decidable v.Matching :=
  decidable_of_iff (v.state.projectId = v.receipt.projectId ∧ v.state.identityId = v.receipt.identityId ∧
    v.state.runtimeId = v.receipt.runtimeId ∧ v.state.runtimeInstanceNonce = v.receipt.runtimeInstanceNonce ∧
    v.intent.processId = v.exit.processId ∧ v.receipt.checkpointDigest = v.intent.checkpointDigest)
    ⟨fun ⟨h₁, h₂, h₃, h₄, h₅, h₆⟩ => ⟨h₁, h₂, h₃, h₄, h₅, h₆⟩, fun h => ⟨h.1, h.2, h.3, h.4, h.5, h.6⟩⟩

theorem sampleRecovery_facts :
    ((resumption? ((Pool.init none).run (recover sampleRecoveryRuntime)
        [.spawn 0 (sampleRecovery "intent 1" 7), .step 0, .step 0, .spawn 1 (sampleRecovery "intent 2" 8),
          .step 1, .step 1]) 0).map ResumptionReceipt.runtimeInstance = some ("runtime", "nonce") ∧
      (resumption? ((Pool.init none).run (recover sampleRecoveryRuntime)
        [.spawn 0 (sampleRecovery "intent 1" 7), .step 0, .step 0, .spawn 1 (sampleRecovery "intent 2" 8),
          .step 1, .step 1]) 1).map ResumptionReceipt.runtimeInstance = some ("runtime", "nonce")) ∧
    (resumption? ((Pool.init none).run (recover sampleRecoveryRuntime)
      [.spawn 0 (sampleRecovery "intent 1" 7), .step 0, .step 0]) 0).isSome = true ∧
    ((verifyRecovery sampleRecoveryRuntime (sampleRecovery "intent 2" 8)).toOption.map fun v =>
      (v.intent.processId, v.exit.processId, processIsAlive (sampleRecovery "intent 2" 8).alive v.intent.processId)) =
      some (8, 7, true) ∧
    ∀ v ∈ (verifyRecovery sampleRecoveryRuntime (sampleRecovery "intent 1" 7)).toOption,
      v.Matching ∧ v.intent.signature = "intent 1" := by
  decide +kernel

/-- Two calls that returned a receipt of the same runtime instance. -/
theorem shared_instance {P : Pool Empty LifecycleRegistry RecoveryFailure ResumptionReceipt (RecoverCall Key)}
    {i j : Nat} {inst : String × String} (hi : (resumption? P i).map ResumptionReceipt.runtimeInstance = some inst)
    (hj : (resumption? P j).map ResumptionReceipt.runtimeInstance = some inst) (hij : i ≠ j) :
    ¬ ∀ i j call call' r r', P.thread i = some ⟨call, some (.ret r)⟩ →
      P.thread j = some ⟨call', some (.ret r')⟩ → i ≠ j → r.runtimeInstance ≠ r'.runtimeInstance := by
  intro h
  obtain ⟨r, hr, hinst⟩ := Option.map_eq_some_iff.1 hi
  obtain ⟨r', hr', hinst'⟩ := Option.map_eq_some_iff.1 hj
  obtain ⟨call, hthread⟩ := resumption?_eq_some hr
  obtain ⟨call', hthread'⟩ := resumption?_eq_some hr'
  exact h i j call call' r r' hthread hthread' hij (hinst.trans hinst'.symm)

/-- A runtime instance with two termination intents has two successors, and the process that
an intent names may be alive while another has exited. -/
theorem two_successors :
    let P := (Pool.init none).run (recover sampleRecoveryRuntime)
      [.spawn 0 (sampleRecovery "intent 1" 7), .step 0, .step 0, .spawn 1 (sampleRecovery "intent 2" 8),
        .step 1, .step 1]
    ¬ (∀ i j call call' r r', P.thread i = some ⟨call, some (.ret r)⟩ →
      P.thread j = some ⟨call', some (.ret r')⟩ → i ≠ j → r.runtimeInstance ≠ r'.runtimeInstance) ∧
    ((verifyRecovery sampleRecoveryRuntime (sampleRecovery "intent 2" 8)).toOption.map fun v =>
      (v.intent.processId, v.exit.processId, processIsAlive (sampleRecovery "intent 2" 8).alive v.intent.processId)) =
      some (8, 7, true) := by
  intro P
  obtain ⟨⟨h₀, h₁⟩, -, halive, -⟩ := sampleRecovery_facts
  exact ⟨shared_instance h₀ h₁ Nat.zero_ne_one, halive⟩

theorem sampleRecovery_sound :
    SoundEvidence sampleRecoveryRuntime [.spawn 0 (sampleRecovery "intent 1" 7), .step 0, .step 0] := by
  have hsample : ∀ v ∈ (verifyRecovery sampleRecoveryRuntime (sampleRecovery "intent 1" 7)).toOption,
      v.Matching ∧ v.intent.signature = "intent 1" := sampleRecovery_facts.2.2.2
  have hcall {i call v} (hmem : .spawn i call ∈ [Event.spawn 0 (sampleRecovery "intent 1" 7), .step 0, .step 0])
      (hv : verifyRecovery sampleRecoveryRuntime call = .ok v) : v.Matching ∧ v.intent.signature = "intent 1" := by
    simp only [List.mem_cons, Event.spawn.injEq, reduceCtorEq, List.not_mem_nil, or_false] at hmem
    obtain ⟨-, rfl⟩ := hmem
    exact hsample v (by rw [hv]; rfl)
  exact ⟨fun i call v hmem hv => (hcall hmem hv).1, fun i j call call' v v' hmem hmem' hv hv' _ =>
    (hcall hmem hv).2.trans (hcall hmem' hv').2.symm⟩

/-- The theorem at a call that returns. -/
theorem one_successor_sample :
    let P := (Pool.init none).run (recover sampleRecoveryRuntime)
      [.spawn 0 (sampleRecovery "intent 1" 7), .step 0, .step 0]
    (resumption? P 0).isSome = true ∧ ∀ call r, P.thread 0 = some ⟨call, some (.ret r)⟩ →
      ∃ v, verifyRecovery sampleRecoveryRuntime call = .ok v ∧ v.Consistent := by
  refine ⟨sampleRecovery_facts.2.1, fun call r hi => ?_⟩
  obtain ⟨v, -, -, hv, -, hconsistent, -⟩ :=
    (one_successor sampleRecoveryRuntime none _ sampleRecovery_sound).2.1 0 call r hi
  exact ⟨v, hv, hconsistent⟩

end VeraMono

import VeraMono.Proof.TaskAgreement

/-!
# What a command answers with

A command that returns normally answers with the task as it is read then. `ReadsItsWrite` says that
this state shows what the command asked for; an event id that was used before may make it an answer
from history instead. `run_file` says that what was filed shows, and `reads_its_write_iff` when
that is what was asked for; `reassignment_swallowed` is a call where it is not.
-/

namespace VeraMono

open Framework TaskLedger TaskCommand

variable {D : Type} [DecidableEq D] {rt : TaskRuntime D}

/-- The state shows what the command asked for. -/
def TaskCommand.Shown (rt : TaskRuntime D) (s : TaskState D) : TaskCommand → Prop
  | .openTask _ p d => s.packet = p ∧ s.openedLifecycleEvidenceDigest = d.toLower
  | .bindDependency _ i k g =>
    ∃ d ∈ s.activeDependencies, d.dependencyId = i ∧ d.kind = k ∧ d.targetId = g
  | .cancelDependency _ i r => ∃ c ∈ s.dependencyCancellations, c.dependencyId = i ∧ c.reason = r
  | .delegateWork _ i p r su a al pr sh ev =>
    ∃ d, s.delegation? i = some d ∧ d.active = true ∧ d.assigneeRef = a ∧
      d.scopeKey = (p, r, su) ∧ d.allowedEffects = al ∧ d.prohibitedEffects = pr ∧
      d.returnShape = sh ∧ d.evidenceRefs = ev
  | .reassignDelegation _ i _ a ev =>
    ∃ d, s.delegation? i = some d ∧ d.active = true ∧ d.assigneeRef = a ∧
      ∀ r ∈ ev, r ∈ d.evidenceRefs
  | .returnDelegation _ i _ su vs ev =>
    ∃ d, s.delegation? i = some d ∧ d.status = .returned ∧ d.terminalSummary = some su ∧
      d.terminalEvidenceRefs = ev ∧ ∃ vs', d.returnValues = some vs' ∧
      ∀ key ∈ d.returnShape,
        normalizeString rt.py (keyHint key) (.valid (valueOf vs key)) = .ok (valueOf vs' key)
  | .cancelDelegation _ i _ r ev =>
    ∃ d, s.delegation? i = some d ∧ d.status = .cancelled ∧ d.terminalSummary = some r ∧
      d.terminalEvidenceRefs = ev
  | .recordCorrection _ i su o r w ev =>
    ∃ c ∈ s.corrections, c.correctionId = i ∧ c.summary = su ∧ c.obsoleteRoute = o ∧
      c.requiredChange = r ∧ c.currentOwnerRef = w ∧ c.provenanceRefs = ev
  | .checkpoint _ _ c => s.latestCheckpoint = some (c.submitted rt s.packet)
  | .closeTask _ i _ ev _ c n d =>
    ∃ x, s.closeout = some x ∧ x.closeoutId = i ∧ x.evidenceRefs = ev ∧ x.claimCeiling = c ∧
      x.nextFrontier = n ∧ x.lifecycleEvidenceDigest = d.toLower

def TaskCommand.assigns : TaskCommand → Option String
  | .delegateWork _ i .. | .reassignDelegation _ i .. => some i
  | _ => none

/-- A command that ran after `cs` and answered with `s` shows what it asked for, and an
assignment leaves no earlier reference to its delegation valid. -/
structure ReadsItsWrite (rt : TaskRuntime D) (cs : List TaskCommand) (c : TaskCommand)
    (s : TaskState D) : Prop where
  shown : c.Shown rt s
  stale : ∀ i, c.assigns = some i → ∀ cs₀, cs₀ <+: cs → ∀ s₀ ref,
    read rt c.taskId (runAll rt cs₀) = .ok s₀ → delegationRef s₀ i = .ok ref →
      ∀ actor, ∃ f, validateDelegationRef rt ref actor (c.run rt (runAll rt cs)).2 = .error f

/-- The command asks for something that the ledger does not take for an older event. -/
def TaskCommand.Novel (rt : TaskRuntime D) (log : TaskLedger D) (c : TaskCommand) : Prop :=
  match c with
  | .bindDependency t i _ _ => ∀ s, read rt t log = .ok s → i ∉ s.cancelledDependencyIds
  | .reassignDelegation .. => ∀ e ∈ log.entries, e.body.eventId ≠ c.eventId
  | .checkpoint t .. => ∀ e ∈ log.entries, e.body.eventId = c.eventId →
    ∀ s, read rt t log = .ok s → s.latestCheckpoint.map .checkpoint = some e.body.payload
  | .closeTask t .. => ¬":CLOSE:".toList <:+: (t ++ ":CLOSE").toList
  | _ => True

/-! ## The closeout id -/

/-- What follows the first separator is what was put after it exactly when the separator
occurs nowhere before. -/
theorem afterFirst_append {sep u v : List Char} (hsep : sep ≠ []) :
    afterFirst sep (u ++ (sep ++ v)) = some v ↔ ¬sep <:+: u ++ sep.dropLast := by
  have hlast (u : List Char) : u ++ sep.dropLast <+: u ++ (sep ++ v) :=
    (List.prefix_append_right_inj u).2
      ((List.dropLast_prefix _).trans (List.prefix_append _ _))
  induction u with
  | nil =>
    obtain ⟨c, cs, rfl⟩ := List.exists_cons_of_ne_nil hsep
    have hp : (c :: cs).isPrefixOf (c :: (cs ++ v)) = true :=
      List.isPrefixOf_iff_prefix.2 (List.prefix_append (c :: cs) v)
    have hlen : ¬(c :: cs) <:+: (c :: cs).dropLast := fun h => by
      have := h.length_le
      simp only [List.length_dropLast, List.length_cons] at this
      omega
    simp [afterFirst, hp, hlen]
  | cons a u ih =>
    rw [List.cons_append, afterFirst, List.cons_append, List.infix_cons_iff]
    by_cases hp : sep.isPrefixOf (a :: (u ++ (sep ++ v))) = true
    · rw [if_pos hp]
      have hlen : 0 < sep.length := List.length_pos_of_ne_nil hsep
      have hpre : sep <+: a :: (u ++ sep.dropLast) := by
        refine List.prefix_of_prefix_length_le (List.isPrefixOf_iff_prefix.1 hp) (hlast (a :: u)) ?_
        simp only [List.length_cons, List.length_append, List.length_dropLast]
        omega
      refine ⟨fun h => ?_, fun h => absurd (.inl hpre) h⟩
      have := congrArg List.length (Option.some.inj h)
      simp only [List.length_drop, List.length_cons, List.length_append] at this
      omega
    · rw [if_neg hp]
      exact ih.trans (not_congr ⟨.inr, fun h => h.resolve_left fun hpre =>
        hp (List.isPrefixOf_iff_prefix.2 (hpre.trans (hlast (a :: u))))⟩)

theorem splitLast_close {t i : String} : splitLast ":CLOSE:" s!"{t}:CLOSE:{i}" = i ↔
    ¬":CLOSE:".toList <:+: (t ++ ":CLOSE").toList := by
  have hid : (s!"{t}:CLOSE:{i}").toList = t.toList ++ (":CLOSE:".toList ++ i.toList) := by
    simp [toString]
  have hlast : (t ++ ":CLOSE").toList = t.toList ++ ":CLOSE:".toList.dropLast := by
    simp
  rw [hlast, ← afterFirst_append (v := i.toList) (by decide), splitLast, hid]
  cases afterFirst ":CLOSE:".toList (t.toList ++ (":CLOSE:".toList ++ i.toList)) with
  | none =>
    refine ⟨fun h => ?_, nofun⟩
    have := congrArg List.length (hid.symm.trans (congrArg String.toList h))
    simp only [String.length_toList, List.length_append] at this
    have : ":CLOSE:".length = 7 := rfl
    omega
  | some rest => simp [← String.toList_inj]

/-! ## What a run answers with -/

section
variable {log : TaskLedger D} {c : TaskCommand} {s s' : TaskState D} {h h' : TaskHistory D}
  {b : TaskBody D}

/-- The event that a command filed shows in the state it answers with, whether it was there
already or is new. -/
theorem run_file (hd : c.decision rt log = .ok (.file b))
    (hr : (c.run rt log).1 = .ok s) : ∃ p h' head, canonicalPayload rt b.payload = .ok p ∧
      s = stateOf c.taskId head h' ∧ h'.Visible { b with payload := p } ∧
      ((∃ e ∈ log.entries, e.body = { b with payload := p }) ∧ history rt c.taskId log = .ok h' ∨
        (∀ e ∈ log.entries, e.body.eventId ≠ b.eventId) ∧
        (∀ e ∈ log.entries, e.digest ≠ (next rt log { b with payload := p }).digest) ∧
        history rt c.taskId (extend rt log { b with payload := p }) = .ok h' ∧
        (c.run rt log).2 = extend rt log { b with payload := p }) := by
  have ht := (decision_file hd).1
  obtain ⟨e, he⟩ | ⟨s', hd', -⟩ | ⟨b', p, hd', hp, hcase⟩ := run_cases rt log c
  · rw [he] at hr
    cases hr
  · rw [hd] at hd'
    cases hd'
  · obtain rfl : b = b' := by
      rw [hd] at hd'
      injection hd' with hd'
      injection hd'
    obtain ⟨e, he, hid, hte, hpe, hrun⟩ | ⟨hn, hdg, hrun⟩ := hcase
    · rw [hrun] at hr
      obtain ⟨h', head, hh, -, rfl⟩ := read_ok.1 hr
      have hbody : e.body = { b with payload := p } := by
        rw [← hid, ← hte, ← hpe]
      refine ⟨p, h', head, hp, rfl, ?_, .inl ⟨⟨e, he, hbody⟩, hh⟩⟩
      exact hbody ▸ (history_spec hh).2 e (mem_events.2 ⟨he, hte.trans ht⟩)
    · rw [hrun] at hr
      obtain ⟨h', head, hh, -, rfl⟩ := read_ok.1 hr
      refine ⟨p, h', head, hp, rfl, ?_, .inr ⟨fun e he hid => ?_, hdg, hh, by rw [hrun]⟩⟩
      · exact (history_spec hh).2 (next rt log { b with payload := p })
          (mem_events.2 ⟨List.mem_append_right _ (List.mem_singleton_self _), ht⟩)
      · exact Chaining.lookup_eq_none.1 hn (List.mem_map.2 ⟨e, he, hid⟩)

theorem run_answer (hd : c.decision rt log = .ok (.answer s')) (hr : (c.run rt log).1 = .ok s) :
    s = s' := by
  rw [run, hd] at hr
  exact (Except.ok.inj hr).symm

theorem run_decision (hr : (c.run rt log).1 = .ok s) : ∃ dec, c.decision rt log = .ok dec := by
  rw [run] at hr
  cases hd : c.decision rt log with
  | error e => rw [hd] at hr; cases hr
  | ok dec => exact ⟨dec, rfl⟩

variable {t i : String}

theorem fold_new (ht : b.taskId = t) (hh : history rt t log = .ok h)
    (hh' : history rt t (extend rt log b) = .ok h') : h.closed = false ∧
      foldEvent rt h (next rt log b) = .ok h' := by
  subst ht
  have hf := (history_extend_fold hh).1 hh'
  exact ⟨foldEvent_ok hf, hf⟩

/-! ## The commands one by one -/

/-- An opening is answered with the packet it was given. -/
theorem openTask_reads {p : TaskPacket} {d : String}
    (hr : (run rt (.openTask t p d) log).1 = .ok s) : Shown rt s (.openTask t p d) := by
  obtain ⟨dec, hd⟩ := run_decision hr
  obtain ⟨-, -, -, rfl⟩ := openTask_ok hd
  obtain ⟨p', h', head, hp, rfl, hv, -⟩ := run_file hd hr
  obtain rfl := Except.ok.inj hp
  exact hv

/-- A binding is answered with an active dependency, unless its id was cancelled before. -/
theorem bindDependency_reads {k g : String} (hr : (run rt (.bindDependency t i k g) log).1 = .ok s) :
    Shown rt s (.bindDependency t i k g) ↔ Novel rt log (.bindDependency t i k g) := by
  obtain ⟨dec, hd⟩ := run_decision hr
  obtain ⟨s₀, hs₀, -, -, -, -, ⟨d, hf, hk, hg, rfl⟩ | ⟨hnew, -, -, rfl⟩⟩ := bindDependency_ok hd
  · obtain rfl := run_answer hd hr
    have hdid : d.dependencyId = i := by simpa using List.find?_some hf
    constructor
    · rintro ⟨d', hd', rfl, -⟩ s₁ hs₁
      obtain rfl := Except.ok.inj (hs₀.symm.trans hs₁)
      simpa using (List.mem_filter.1 hd').2
    · intro hn
      exact ⟨d, List.mem_filter.2 ⟨List.mem_of_find?_eq_some hf, by simpa [hdid] using hn s hs₀⟩,
        hdid, hk, hg⟩
  · obtain ⟨h, head₀, hh, -, rfl⟩ := read_ok.1 hs₀
    obtain ⟨p, h', head, hp, rfl, hv, ⟨-, hh'⟩ | ⟨-, -, hh', -⟩⟩ := run_file hd hr
    · obtain rfl := Except.ok.inj hp
      obtain rfl := Except.ok.inj (hh.symm.trans hh')
      obtain ⟨d, hd, hid, -⟩ := hv
      exact absurd hid (hnew d hd)
    · obtain rfl := Except.ok.inj hp
      have hf := (fold_new (t := t) rfl hh hh').2
      have hcan : i ∉ h.cancelledDependencyIds := fun hc => by
        obtain ⟨d, hd, hid⟩ := (history_spec hh).1.cancelled i hc
        exact hnew d hd hid
      rw [foldEvent, ite_error_ok] at hf
      obtain ⟨-, -, -, -, -, -, -, -, rfl⟩ := foldDependency_ok.1 hf.2
      refine iff_of_true ⟨_, List.mem_filter.2 ⟨List.mem_append_right _ (List.mem_singleton_self _), ?_⟩,
        rfl, rfl, rfl⟩ fun s₁ hs₁ => ?_
      · exact decide_eq_true hcan
      · obtain rfl := Except.ok.inj (hs₀.symm.trans hs₁)
        exact hcan

/-- A cancellation is answered with its reason. -/
theorem cancelDependency_reads {r : String}
    (hr : (run rt (.cancelDependency t i r) log).1 = .ok s) :
    Shown rt s (.cancelDependency t i r) := by
  obtain ⟨dec, hd⟩ := run_decision hr
  obtain ⟨s₀, d, -, -, -, -, -, rfl⟩ := cancelDependency_ok hd
  obtain ⟨p, h', head, hp, rfl, hv, -⟩ := run_file hd hr
  obtain rfl := Except.ok.inj hp
  exact hv

variable {ev : List String}

/-- A correction is answered as it was given. -/
theorem recordCorrection_reads {su o r w : String}
    (hr : (run rt (.recordCorrection t i su o r w ev) log).1 = .ok s) :
    Shown rt s (.recordCorrection t i su o r w ev) := by
  obtain ⟨dec, hd⟩ := run_decision hr
  obtain ⟨s₀, -, -, -, -, -, -, -, -, -, rfl⟩ := recordCorrection_ok hd
  obtain ⟨p, h', head, hp, rfl, hv, -⟩ := run_file hd hr
  obtain rfl := Except.ok.inj hp
  exact hv

/-- A closeout is read back by the part of its event id after the first separator, which is the
closeout id unless the task id holds the separator. -/
theorem closeTask_reads {ss : List (String × String)} {ev bl : List String} {c n d : String}
    (hr : (run rt (.closeTask t i ss ev bl c n d) log).1 = .ok s) :
    Shown rt s (.closeTask t i ss ev bl c n d) ↔ Novel rt log (.closeTask t i ss ev bl c n d) := by
  obtain ⟨dec, hd⟩ := run_decision hr
  obtain ⟨s₀, r, -, -, -, -, -, -, -, rfl⟩ := closeTask_ok hd
  obtain ⟨p, h', head, hp, rfl, hv, -⟩ := run_file hd hr
  obtain rfl := Except.ok.inj hp
  obtain ⟨x, hx, hid, hx'⟩ := hv
  constructor
  · rintro ⟨y, hy, hyid, -⟩
    obtain rfl := Option.some.inj (hx.symm.trans hy)
    exact splitLast_close.1 (hid.symm.trans hyid)
  · exact fun hn => ⟨x, hx, hid.trans (splitLast_close.2 hn), hx'⟩

/-- A delegation is answered as it was given, under an event that is new. -/
theorem delegateWork_reads {p r su a : String} {al pr sh ev : List String}
    (hr : (run rt (.delegateWork t i p r su a al pr sh ev) log).1 = .ok s) :
    Shown rt s (.delegateWork t i p r su a al pr sh ev) ∧ ∃ h', history rt t
      (run rt (.delegateWork t i p r su a al pr sh ev) log).2 = .ok h' ∧
      ∃ d, h'.delegation? i = some d ∧ ∀ e ∈ log.entries, e.digest ≠ d.eventDigest := by
  obtain ⟨dec, hd⟩ := run_decision hr
  obtain ⟨s₀, hs₀, -, -, -, -, -, -, -, -, -, -, -, -, -, hnew, -, rfl⟩ := delegateWork_ok hd
  obtain ⟨h, head₀, hh, -, rfl⟩ := read_ok.1 hs₀
  obtain ⟨p', h', head, hp, rfl, hv, ⟨-, hh'⟩ | ⟨-, hdg, hh', hlog⟩⟩ := run_file hd hr
  · obtain rfl := Except.ok.inj hp
    obtain rfl := Except.ok.inj (hh.symm.trans hh')
    exact absurd hv hnew
  · obtain rfl := Except.ok.inj hp
    have hf := (fold_new (t := t) rfl hh hh').2
    rw [foldEvent, ite_error_ok] at hf
    have hadd := (foldDelegated_ok.1 hf.2).2.2.2.2.2.2.2.2.2.2.2.2.2.2
    have hnone : h.delegation? i = none := by simpa using hnew
    have hfind : h'.delegation? i = some ⟨i, p, r, su, a, al, pr, sh, ev, .active, none, [], none,
        (next rt log ⟨s!"{t}:DELEGATED:{i}", t, .delegated ⟨i, h.packet.subject,
          packetDigest rt h.packet, p, r, su, a⟩ al pr sh ev⟩).digest⟩ := by
      rw [hadd, TaskHistory.delegation?, List.find?_append, ← TaskHistory.delegation?, hnone]
      simp
    exact ⟨⟨_, hfind, rfl, rfl, rfl, rfl, rfl, rfl, rfl⟩, h', hlog ▸ hh', _, hfind, hdg⟩

/-- A reassignment whose event id was used before answers from history, with whoever holds the
work now. -/
theorem reassignDelegation_reads {r a : String}
    (hr : (run rt (.reassignDelegation t i r a ev) log).1 = .ok s) :
    (Shown rt s (.reassignDelegation t i r a ev) ↔ Novel rt log (.reassignDelegation t i r a ev)) ∧
      (Novel rt log (.reassignDelegation t i r a ev) → ∃ h', history rt t
        (run rt (.reassignDelegation t i r a ev) log).2 = .ok h' ∧
        ∃ d, h'.delegation? i = some d ∧ ∀ e ∈ log.entries, e.digest ≠ d.eventDigest) := by
  obtain ⟨dec, hd⟩ := run_decision hr
  obtain ⟨s₀, d, hs₀, -, hf, -, -, -, hne, -, -, rfl⟩ := reassignDelegation_ok hd
  obtain ⟨h, head₀, hh, -, rfl⟩ := read_ok.1 hs₀
  rw [stateOf_delegation?] at hf
  obtain ⟨p, h', head, hp, rfl, hv, ⟨⟨e, he, hb⟩, hh'⟩ | ⟨hnew, hdg, hh', hlog⟩⟩ := run_file hd hr
  · obtain rfl := Except.ok.inj hp
    obtain rfl := Except.ok.inj (hh.symm.trans hh')
    have hold : ¬Novel rt log (.reassignDelegation t i r a ev) := fun hn => hn e he (by rw [hb]; rfl)
    refine ⟨iff_of_false ?_ hold, fun hn => absurd hn hold⟩
    rintro ⟨d', hd', -, ha, -⟩
    obtain rfl := Option.some.inj (hf.symm.trans hd')
    exact hne ha.symm
  · obtain rfl := Except.ok.inj hp
    have hfold := (fold_new (t := t) rfl hh hh').2
    rw [foldEvent, ite_error_ok] at hfold
    obtain ⟨-, d', hd', -, -, -, -, -, -, hset⟩ := foldReassigned_ok.1 hfold.2
    obtain rfl : d = d' := Option.some.inj ((delegation?_bindingOf hf).symm.trans hd')
    have hfind : ∃ d', h'.delegation? i = some d' ∧ d'.active = true ∧ d'.assigneeRef = a ∧
        (∀ r ∈ ev, r ∈ d'.evidenceRefs) ∧ ∀ e ∈ log.entries, e.digest ≠ d'.eventDigest := by
      have hid := TaskHistory.delegation?_id hf
      rw [hset]
      exact ⟨_, TaskHistory.delegation?_set hf (by exact hid), rfl, rfl,
        fun r hr => List.mem_eraseDups.2 (List.mem_append_right _ hr), hdg⟩
    obtain ⟨d', hd', ha, has, hev, hdg'⟩ := hfind
    exact ⟨iff_of_true ⟨d', hd', ha, has, hev⟩ hnew, fun _ => ⟨h', by rw [hlog]; exact hh', d', hd', hdg'⟩⟩

/-- A return is answered with what was returned, each value in its canonical form. -/
theorem returnDelegation_reads {r su : String} {vs : List (String × String)}
    (hpy : RendersText rt.py) (hr : (run rt (.returnDelegation t i r su vs ev) log).1 = .ok s) :
    Shown rt s (.returnDelegation t i r su vs ev) := by
  obtain ⟨dec, hd⟩ := run_decision hr
  obtain ⟨s₀, d, hs₀, -, hf, hact, -, -, -, hvs, -, -, rfl⟩ := returnDelegation_ok hd
  obtain ⟨h, head₀, hh, -, rfl⟩ := read_ok.1 hs₀
  rw [stateOf_delegation?] at hf
  obtain ⟨p, h', head, hp, rfl, hv, ⟨-, hh'⟩ | ⟨-, -, hh', -⟩⟩ := run_file hd hr
  · obtain ⟨vs', -, rfl⟩ := map_eq_ok.1 hp
    obtain rfl := Except.ok.inj (hh.symm.trans hh')
    obtain ⟨d', hd', hst, -⟩ := hv
    obtain rfl := Option.some.inj ((delegation?_bindingOf hf).symm.trans hd')
    simp [TaskDelegation.active, hst] at hact
  · obtain ⟨vs', hseq, rfl⟩ := map_eq_ok.1 hp
    have hfold := (fold_new (t := t) rfl hh hh').2
    rw [foldEvent, ite_error_ok] at hfold
    obtain ⟨-, d', hd', -, -, -, -, -, -, -, rfl⟩ := foldReturned_ok.1 hfold.2
    obtain rfl : d = d' := Option.some.inj ((delegation?_bindingOf hf).symm.trans hd')
    have hid := TaskHistory.delegation?_id hf
    refine ⟨_, TaskHistory.delegation?_set hf (by exact hid), rfl, rfl, rfl, _, rfl, fun key hk => ?_⟩
    rw [valueOf_map (List.mem_eraseDups.2 hk)]
    exact ((canonicalReturn_ok hpy hvs hseq).2 key hk).2

/-- A cancelled delegation is answered with the reason it was cancelled for. -/
theorem cancelDelegation_reads {c r : String}
    (hr : (run rt (.cancelDelegation t i c r ev) log).1 = .ok s) :
    Shown rt s (.cancelDelegation t i c r ev) := by
  obtain ⟨dec, hd⟩ := run_decision hr
  obtain ⟨s₀, d, -, -, hf, -, -, -, -, -, rfl⟩ := cancelDelegation_ok hd
  obtain ⟨p, h', head, hp, rfl, hv, -⟩ := run_file hd hr
  obtain rfl := Except.ok.inj hp
  obtain ⟨d', hd', hv⟩ := hv
  have hid : (bindingOf rt s₀ d).delegationId = i := TaskHistory.delegation?_id hf
  exact ⟨d', hid ▸ hd', hv⟩

/-- A checkpoint shows unless its id was used before and another checkpoint came after. -/
theorem checkpoint_reads {c : TaskLedger.CheckpointContent} (hs : Sound rt log)
    (hr : (run rt (.checkpoint t i c) log).1 = .ok s) :
    Shown rt s (.checkpoint t i c) ↔ Novel rt log (.checkpoint t i c) := by
  obtain ⟨dec, hd⟩ := run_decision hr
  obtain ⟨s₀, hs₀, -, -, -, -, -, -, -, rfl⟩ := checkpoint_ok hd
  obtain ⟨h, head₀, hh, -, rfl⟩ := read_ok.1 hs₀
  obtain ⟨p, h', head, hp, rfl, hv, ⟨⟨e, he, hb⟩, hh'⟩ | ⟨hnew, -, hh', -⟩⟩ := run_file hd hr
  · obtain rfl := Except.ok.inj hp
    obtain rfl := Except.ok.inj (hh.symm.trans hh')
    constructor
    · intro hsh e' he' hid s₁ hs₁
      obtain rfl := Except.ok.inj (hs₀.symm.trans hs₁)
      have heq : e' = e := List.inj_on_of_nodup_map hs.chain.nodup he' he (hid.trans (by rw [hb]; rfl))
      rw [heq, hb]
      exact congrArg (Option.map TaskPayload.checkpoint) hsh
    · intro hn
      have := hn e he (by rw [hb]; rfl) _ hs₀
      rw [hb] at this
      obtain ⟨c', hc', heq⟩ := Option.map_eq_some_iff.1 this
      exact hc'.trans (congrArg some (TaskPayload.checkpoint.inj heq))
  · obtain rfl := Except.ok.inj hp
    have hfold := (fold_new (t := t) rfl hh hh').2
    rw [foldEvent, ite_error_ok] at hfold
    obtain ⟨-, -, -, -, rfl⟩ := foldCheckpoint_ok.1 hfold.2
    exact iff_of_true rfl fun e he hid => absurd hid (hnew e he)

end

/-! ## Old references -/

section
variable {log : TaskLedger D} {i : String} {ref : TaskDelegationRef D}

omit [DecidableEq D] in
theorem delegationRef_ok {s : TaskState D} (h : delegationRef s i = .ok ref) :
    ∃ d, s.delegation? i = some d ∧ ref.taskId = s.taskId ∧ ref.delegationId = i ∧
      ref.bindingEventDigest = d.eventDigest := by
  simp only [delegationRef, TaskHistory.delegation, bind_eq_ok, ite_error_ok, ↓throw_bind,
    pure_ok] at h
  obtain ⟨d, hd, -, rfl⟩ := h
  cases hf : s.delegation? i with
  | none => rw [hf] at hd; cases hd
  | some d' =>
    rw [hf] at hd
    obtain rfl := Except.ok.inj hd
    exact ⟨d', rfl, rfl, TaskHistory.delegation?_id hf, rfl⟩

theorem validateDelegationRef_ok {actor : Option String} {r : TaskDelegationRef D}
    (h : validateDelegationRef rt ref actor log = .ok r) : ∃ s d, read rt ref.taskId log = .ok s ∧
      s.delegation? ref.delegationId = some d ∧ ref.bindingEventDigest = d.eventDigest := by
  simp only [validateDelegationRef, bind_eq_ok, ite_error_ok, ↓throw_bind] at h
  obtain ⟨_, -, s, hs, -, h⟩ := h
  cases hd : s.delegation? ref.delegationId with
  | none => simp [hd, throw_ok] at h
  | some d =>
    simp only [hd, ite_error_ok] at h
    obtain ⟨-, h⟩ := h
    refine ⟨s, d, hs, hd, by_contra fun hne => ?_⟩
    split at h
    · cases h
    · rename_i hnone
      have := List.find?_eq_none.1 hnone ("binding_event_digest",
        decide (ref.bindingEventDigest = d.eventDigest)) (by simp)
      simp [hne] at this

theorem run_entries {c : TaskCommand} {e : TaskEvent D} (he : e ∈ log.entries) :
    e ∈ (c.run rt log).2.entries := by
  obtain ⟨f, hr⟩ | ⟨s, -, hr⟩ | ⟨b, p, -, -, ⟨_, -, -, -, -, hr⟩ | ⟨-, -, hr⟩⟩ := run_cases rt log c <;>
    rw [hr]
  · exact he
  · exact he
  · exact he
  · exact List.mem_append_left _ he

theorem runAll_entries {cs₀ cs : List TaskCommand} (h : cs₀ <+: cs) {e : TaskEvent D}
    (he : e ∈ (runAll rt cs₀).entries) : e ∈ (runAll rt cs).entries := by
  obtain ⟨cs₁, rfl⟩ := h
  induction cs₁ using List.reverseRecOn with
  | nil => simpa using he
  | append_singleton cs₁ c ih =>
    rw [← List.append_assoc, runAll, List.foldl_append]
    exact run_entries ih

/-- An assignment whose event is new leaves no earlier reference valid. -/
theorem stale_of_new {c : TaskCommand} {cs cs₀ : List TaskCommand} {h' : TaskHistory D}
    {d : TaskDelegation D} {s₀ : TaskState D} (hpy : RendersText rt.py) (hpre : cs₀ <+: cs)
    (hh' : history rt c.taskId (c.run rt (runAll rt cs)).2 = .ok h') (hd : h'.delegation? i = some d)
    (hdg : ∀ e ∈ (runAll rt cs).entries, e.digest ≠ d.eventDigest)
    (hs₀ : read rt c.taskId (runAll rt cs₀) = .ok s₀) (href : delegationRef s₀ i = .ok ref)
    (actor : Option String) :
    ∃ f, validateDelegationRef rt ref actor (c.run rt (runAll rt cs)).2 = .error f := by
  obtain ⟨h₀, head, hh₀, -, rfl⟩ := read_ok.1 hs₀
  obtain ⟨d₀, hd₀, ht, hid, hb⟩ := delegationRef_ok href
  obtain ⟨e, he, hed⟩ := ((runAll_sound hpy cs₀).recorded _ _ hh₀).digests d₀
    (TaskHistory.delegation?_mem hd₀)
  cases hv : validateDelegationRef rt ref actor (c.run rt (runAll rt cs)).2 with
  | error f => exact ⟨f, rfl⟩
  | ok r =>
    obtain ⟨s, d', hr, hd', hb'⟩ := validateDelegationRef_ok hv
    rw [ht, stateOf_taskId] at hr
    obtain ⟨h, _, hh, -, rfl⟩ := read_ok.1 hr
    obtain rfl := Except.ok.inj (hh.symm.trans hh')
    rw [hid] at hd'
    obtain rfl := Option.some.inj (hd.symm.trans hd')
    exact absurd (hed.trans (hb.symm.trans hb')) (hdg e (runAll_entries hpre he))

end

/-- A command that returns normally answers with a state that shows what it asked for,
exactly when it asks for something new. -/
theorem reads_its_write_iff (hpy : RendersText rt.py) (cs : List TaskCommand) (c : TaskCommand)
    (s : TaskState D) (hr : (c.run rt (runAll rt cs)).1 = .ok s) :
    ReadsItsWrite rt cs c s ↔ c.Novel rt (runAll rt cs) := by
  have hs := runAll_sound hpy cs
  have shown (hsh : c.Shown rt s ↔ c.Novel rt (runAll rt cs)) (ha : c.assigns = none) :
      ReadsItsWrite rt cs c s ↔ c.Novel rt (runAll rt cs) :=
    ⟨fun h => hsh.1 h.shown, fun h => ⟨hsh.2 h, fun i hi => by rw [ha] at hi; cases hi⟩⟩
  cases c with
  | openTask => exact shown (iff_of_true (openTask_reads hr) trivial) rfl
  | bindDependency => exact shown (bindDependency_reads hr) rfl
  | cancelDependency => exact shown (iff_of_true (cancelDependency_reads hr) trivial) rfl
  | delegateWork t i p r su a al pr sh ev =>
    obtain ⟨hsh, h', hh', d, hd, hdg⟩ := delegateWork_reads hr
    refine iff_of_true ⟨hsh, fun i' hi cs₀ hpre s₀ ref hs₀ href actor => ?_⟩ trivial
    obtain rfl := Option.some.inj hi
    exact stale_of_new (c := .delegateWork t i p r su a al pr sh ev) hpy hpre hh' hd hdg hs₀ href actor
  | reassignDelegation t i r a ev =>
    obtain ⟨hsh, hnew⟩ := reassignDelegation_reads hr
    refine ⟨fun h => hsh.1 h.shown, fun hn => ⟨hsh.2 hn, ?_⟩⟩
    intro i' hi cs₀ hpre s₀ ref hs₀ href actor
    obtain ⟨h', hh', d, hd, hdg⟩ := hnew hn
    obtain rfl := Option.some.inj hi
    exact stale_of_new (c := .reassignDelegation t i r a ev) hpy hpre hh' hd hdg hs₀ href actor
  | returnDelegation => exact shown (iff_of_true (returnDelegation_reads hpy hr) trivial) rfl
  | cancelDelegation => exact shown (iff_of_true (cancelDelegation_reads hr) trivial) rfl
  | recordCorrection => exact shown (iff_of_true (recordCorrection_reads hr) trivial) rfl
  | checkpoint => exact shown (checkpoint_reads hs hr) rfl
  | closeTask => exact shown (closeTask_reads hr) rfl

/-- The reassignment of the sample run, asked for once more after `A` got the work back. -/
def repeatedReassignment : TaskCommand := .reassignDelegation "t" "d" "r1" "B" ["e"]

/-- The exact condition, at the repeated reassignment. -/
theorem reads_its_write_iff_sample :
    ∃ s, (repeatedReassignment.run sampleTasks (runAll sampleTasks reassignedRun)).1 = .ok s ∧
      (ReadsItsWrite sampleTasks reassignedRun repeatedReassignment s ↔
        repeatedReassignment.Novel sampleTasks (runAll sampleTasks reassignedRun)) := by
  have h : (repeatedReassignment.run sampleTasks (runAll sampleTasks reassignedRun)).1.toBool = true := by
    decide +kernel
  obtain ⟨s, hs⟩ := toBool_iff.1 h
  exact ⟨s, hs, reads_its_write_iff rendersText_sample reassignedRun repeatedReassignment s hs⟩

/-- The repeated reassignment returns normally, and the work stays with `A`. -/
theorem reassignment_swallowed :
    ∃ s, (repeatedReassignment.run sampleTasks (runAll sampleTasks reassignedRun)).1 = .ok s ∧
      ¬ReadsItsWrite sampleTasks reassignedRun repeatedReassignment s := by
  have h : (repeatedReassignment.run sampleTasks (runAll sampleTasks reassignedRun)).1.map
      (fun s => (s.delegation? "d").map fun d => d.assigneeRef) = .ok (some "A") := by
    decide +kernel
  obtain ⟨s, hs, ha⟩ := map_eq_ok.1 h
  refine ⟨s, hs, fun hw => ?_⟩
  obtain ⟨d, hd, -, hb, -⟩ := hw.shown
  simp [hd, hb] at ha

end VeraMono

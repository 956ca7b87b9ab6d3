import VeraMono.Model.TaskCommands

/-!
# What the fold of `read` accepts

One lemma for each event type says which events the fold takes and what it makes of them. From
these, `Visible` and `HistoryOk` collect what every history that was read has: each of its events
shows, and no identity is taken twice. `foldEvent_grows` is the step and `foldlM_spec` the fold.
-/

namespace VeraMono

open Framework

variable {D : Type} {rt : TaskRuntime D}

/-! ## Checks -/

theorem requireTaskText_ok {label value v : String} :
    requireTaskText label value = .ok v ↔ nonblank value = true ∧ v = value := by
  by_cases h : nonblank value = true <;> simp [requireTaskText, h, eq_comm]

theorem requireTexts_ok {label : String} {values vs : List String} :
    requireTexts label values = .ok vs ↔ values.all nonblank = true ∧ vs = values := by
  by_cases h : values.all nonblank = true
  · rw [requireTexts, if_pos h]
    simp [h, eq_comm]
  · rw [requireTexts, if_neg h]
    simp [h]

theorem requireTaskDigest_ok {label value v : String} :
    requireTaskDigest rt label value = .ok v ↔
      (value.length = 64 ∧ rt.hexInteger value = true) ∧ v = value.toLower := by
  by_cases hl : value.length = 64
  · by_cases hx : rt.hexInteger value = true <;> simp [requireTaskDigest, hl, hx, eq_comm]
  · simp [requireTaskDigest, hl]

theorem activePredecessor_ok {h : TaskHistory D} {label id : String} {d : TaskDelegation D} :
    activePredecessor h label id = .ok d ↔ h.delegation? id = some d ∧ d.active = true := by
  rw [activePredecessor]
  cases h.delegation? id with
  | none => simp
  | some d' =>
    by_cases ha : d'.active = true
    · simp only [ha, if_true, Except.ok.injEq, Option.some.injEq]
      exact ⟨fun hd => ⟨hd, hd ▸ ha⟩, fun hd => hd.1⟩
    · simp only [ha]
      exact ⟨nofun, fun ⟨hd, ha'⟩ => absurd (Option.some.inj hd ▸ ha') ha⟩

/-! ## Values under keys -/

/-- The status of a surface that may be closed. -/
def Closeable (status : String) : Prop := status ∈ closeoutStates ∧ status ≠ "pending"

theorem validateSurfaces_ok {packet : TaskPacket} {surfaces r : List (String × String)} :
    validateSurfaces rt packet surfaces = .ok r ↔
      SameKeys (surfaces.map Prod.fst) packet.relevantSurfaces ∧
        (∀ s ∈ packet.relevantSurfaces, Closeable (valueOf surfaces s)) ∧
        r = packet.relevantSurfaces.map fun s => (s, valueOf surfaces s) := by
  simp only [validateSurfaces, ite_error_ok, not_not]
  refine and_congr_right fun _ => ?_
  cases hf : packet.relevantSurfaces.find? fun s => decide
      (valueOf surfaces s ∉ closeoutStates ∨ valueOf surfaces s = "pending") with
  | some s =>
    have hs := List.find?_some hf
    simp only [decide_eq_true_eq] at hs
    constructor
    · intro h
      simp only at h
      split at h <;> cases h
    · rintro ⟨hc, -⟩
      obtain ⟨hm, hp⟩ := hc s (List.mem_of_find?_eq_some hf)
      exact absurd hs (by simp [hm, hp])
  | none =>
    rw [List.find?_eq_none] at hf
    have hc : ∀ s ∈ packet.relevantSurfaces, Closeable (valueOf surfaces s) := fun s hs => by
      have := hf s hs
      simp only [decide_eq_true_eq, not_or, not_not] at this
      exact this
    simp only [Except.ok.injEq]
    exact ⟨fun h => ⟨hc, h.symm⟩, fun h => h.2.symm⟩

theorem shapedValues_ok {shape : List String} {values r : List (String × String)} :
    shapedValues shape values = .ok r ↔
      (∀ key ∈ shape, nonblank (valueOf values key) = true) ∧
        r = shape.eraseDups.map fun key => (key, valueOf values key) := by
  rw [shapedValues]
  cases hf : shape.find? fun key => !nonblank (valueOf values key) with
  | some key =>
    have hk := List.find?_some hf
    refine ⟨nofun, fun ⟨hn, _⟩ => ?_⟩
    simp [hn key (List.mem_of_find?_eq_some hf)] at hk
  | none =>
    rw [List.find?_eq_none] at hf
    have hn : ∀ key ∈ shape, nonblank (valueOf values key) = true := fun key hk => by
      simpa using hf key hk
    simp only [Except.ok.injEq]
    exact ⟨fun h => ⟨hn, h.symm⟩, fun h => h.2.symm⟩

/-- The value of a key in a list made from its keys. -/
theorem valueOf_map {keys : List String} {f : String → String} {k : String} (hk : k ∈ keys) :
    valueOf (keys.map fun key => (key, f key)) k = f k := by
  induction keys with
  | nil => cases hk
  | cons key keys ih =>
    by_cases h : k = key
    · simp [valueOf, h]
    · have hk' : k ∈ keys := (List.mem_cons.1 hk).resolve_left h
      have := ih hk'
      simp only [valueOf, List.map_cons, List.lookup_cons, beq_eq_false_iff_ne.2 h] at this ⊢
      exact this

theorem map_fst_map {keys : List String} {f : String → String} :
    (keys.map fun key => (key, f key)).map Prod.fst = keys := by
  simp [Function.comp_def]

/-- What `close_task` wrote, the fold accepts as it is. -/
theorem validateSurfaces_again {packet : TaskPacket} {surfaces r : List (String × String)}
    (h : validateSurfaces rt packet surfaces = .ok r) : validateSurfaces rt packet r = .ok r := by
  obtain ⟨-, hc, rfl⟩ := validateSurfaces_ok.1 h
  refine validateSurfaces_ok.2 ⟨?_, fun s hs => ?_, ?_⟩
  · rw [map_fst_map]
    exact ⟨fun _ => id, fun _ => id⟩
  · rw [valueOf_map hs]
    exact hc s hs
  · exact List.map_congr_left fun s hs => by rw [valueOf_map hs]

theorem mem_of_valueOf {values : List (String × String)} {k : String}
    (hk : k ∈ values.map Prod.fst) : (k, valueOf values k) ∈ values := by
  induction values with
  | nil => cases hk
  | cons kv values ih =>
    obtain ⟨key, v⟩ := kv
    by_cases h : k = key
    · simp [valueOf, h]
    · have hk' : k ∈ values.map Prod.fst := by simpa [h] using hk
      have := ih hk'
      simp only [valueOf, List.lookup_cons, beq_eq_false_iff_ne.2 h] at this ⊢
      exact List.mem_cons_of_mem _ this

/-! ## The events that the fold takes -/

section
variable [DecidableEq D] {h h' : TaskHistory D} {dg pd : D} {b : DelegationBinding D}

theorem requirePacket_ok {subjectLabel label subject : String} {u : Unit} :
    requirePacket rt h subjectLabel label subject dg = .ok u ↔
      subject = h.packet.subject ∧ dg = packetDigest rt h.packet := by
  simp only [requirePacket, ite_error_ok, ne_eq, not_not, and_true]

theorem foldDependency_ok {id s k g : String} : foldDependency rt h dg id s pd k g = .ok h' ↔
    nonblank id = true ∧ s = h.packet.subject ∧ pd = packetDigest rt h.packet ∧
      nonblank k = true ∧ k ∈ taskDependencyKinds ∧ nonblank g = true ∧
      (¬∃ d ∈ h.dependencies, d.dependencyId = id) ∧
      (¬∃ d ∈ h.dependencies, d.kind = k ∧ d.targetId = g) ∧
      h' = { h with dependencies := h.dependencies ++ [⟨id, k, g, dg⟩] } := by
  simp only [foldDependency, bind_eq_ok, requireTaskText_ok, requirePacket_ok, ite_error_ok,
    ↓throw_bind, pure_ok, and_assoc, exists_and_left, exists_eq_left, exists_unit, not_not]

theorem foldDependencyCancelled_ok {id s k g r : String} :
    foldDependencyCancelled rt h dg id s pd k g r = .ok h' ↔
      nonblank id = true ∧ s = h.packet.subject ∧ pd = packetDigest rt h.packet ∧
        ∃ d, h.dependencies.find? (fun d => d.dependencyId = id) = some d ∧
          id ∉ h.cancelledDependencyIds ∧ (k = d.kind ∧ g = d.targetId) ∧ nonblank r = true ∧
          h' = { h with dependencyCancellations :=
            h.dependencyCancellations ++ [⟨id, r, dg⟩] } := by
  simp only [foldDependencyCancelled, bind_eq_ok, requireTaskText_ok, requirePacket_ok, and_assoc,
    exists_and_left, exists_eq_left, exists_unit]
  refine and_congr_right fun _ => and_congr_right fun _ => and_congr_right fun _ => ?_
  cases h.dependencies.find? fun d => decide (d.dependencyId = id) with
  | none => simp [throw_ok]
  | some d =>
    simp only [bind_eq_ok, requireTaskText_ok, ite_error_ok, ↓throw_bind, pure_ok, and_assoc,
      exists_and_left, exists_eq_left, Option.some.injEq, exists_eq_left', not_or, not_not]

theorem foldDelegated_ok {al pr sh ev : List String} :
    foldDelegated rt h dg b al pr sh ev = .ok h' ↔
      nonblank b.delegationId = true ∧ b.taskSubject = h.packet.subject ∧
        b.packetDigest = packetDigest rt h.packet ∧
        ¬(h.delegation? b.delegationId).isSome = true ∧ al.all nonblank = true ∧
        pr.all nonblank = true ∧ (¬∃ effect ∈ al, effect ∈ pr) ∧ sh.all nonblank = true ∧
        ev.all nonblank = true ∧ ¬(sh = [] ∨ ev = []) ∧ nonblank b.repository = true ∧
        nonblank b.ref = true ∧ nonblank b.subject = true ∧ nonblank b.assigneeRef = true ∧
        h' = { h with delegations := h.delegations ++ [⟨b.delegationId, b.repository, b.ref,
          b.subject, b.assigneeRef, al, pr, sh, ev, .active, none, [], none, dg⟩] } := by
  simp only [foldDelegated, bind_eq_ok, requireTaskText_ok, requireTexts_ok, requirePacket_ok,
    ite_error_ok, ↓throw_bind, pure_ok, and_assoc, exists_and_left, exists_eq_left, exists_unit]

theorem foldReassigned_ok {a : String} {ev : List String} :
    foldReassigned rt h dg b a ev = .ok h' ↔
      nonblank b.delegationId = true ∧ ∃ d, h.delegation? b.delegationId = some d ∧
        d.active = true ∧ BoundTo rt h d b ∧ nonblank a = true ∧ a ≠ d.assigneeRef ∧
        ev.all nonblank = true ∧ ev ≠ [] ∧
        h' = h.setDelegation { d with
          assigneeRef := a
          evidenceRefs := (d.evidenceRefs ++ ev).eraseDups
          status := .active
          terminalSummary := none
          terminalEvidenceRefs := []
          returnValues := none
          eventDigest := dg } := by
  simp only [foldReassigned, bind_eq_ok, requireTaskText_ok, requireTexts_ok, activePredecessor_ok,
    ite_error_ok, ↓throw_bind, pure_ok, and_assoc, exists_and_left, exists_eq_left, not_not, ne_eq]

theorem foldReturned_ok {s : String} {vs : List (String × String)} {ev : List String} :
    foldReturned rt h dg b s vs ev = .ok h' ↔
      nonblank b.delegationId = true ∧ ∃ d, h.delegation? b.delegationId = some d ∧
        d.active = true ∧ BoundTo rt h d b ∧ nonblank s = true ∧
        SameKeys (vs.map Prod.fst) d.returnShape ∧
        (∀ key ∈ d.returnShape, nonblank (valueOf vs key) = true) ∧
        ev.all nonblank = true ∧ ev ≠ [] ∧
        h' = h.setDelegation { d with
          status := .returned
          terminalSummary := some s
          terminalEvidenceRefs := ev
          returnValues := some (d.returnShape.eraseDups.map fun key => (key, valueOf vs key))
          eventDigest := dg } := by
  simp only [foldReturned, bind_eq_ok, requireTaskText_ok, requireTexts_ok, activePredecessor_ok,
    shapedValues_ok, ite_error_ok, ↓throw_bind, pure_ok, and_assoc, exists_and_left, exists_eq_left,
    not_not, ne_eq]

theorem foldDelegationCancelled_ok {r : String} {ev : List String} :
    foldDelegationCancelled rt h dg b r ev = .ok h' ↔
      nonblank b.delegationId = true ∧ ∃ d, h.delegation? b.delegationId = some d ∧
        d.active = true ∧ BoundTo rt h d b ∧ nonblank r = true ∧ ev.all nonblank = true ∧
        ev ≠ [] ∧ h' = h.setDelegation { d with
          status := .cancelled
          terminalSummary := some r
          terminalEvidenceRefs := ev
          returnValues := none
          eventDigest := dg } := by
  simp only [foldDelegationCancelled, bind_eq_ok, requireTaskText_ok, requireTexts_ok,
    activePredecessor_ok, ite_error_ok, ↓throw_bind, pure_ok, and_assoc, exists_and_left,
    exists_eq_left, not_not, ne_eq]

theorem foldCorrection_ok {id s : String} {c : TaskCorrection D} :
    foldCorrection rt h id s pd c = .ok h' ↔
      nonblank id = true ∧ s = h.packet.subject ∧ pd = packetDigest rt h.packet ∧
        nonblank c.summary = true ∧ nonblank c.obsoleteRoute = true ∧
        nonblank c.requiredChange = true ∧ nonblank c.currentOwnerRef = true ∧
        c.provenanceRefs.all nonblank = true ∧ c.provenanceRefs ≠ [] ∧
        (¬∃ c' ∈ h.corrections, c'.correctionId = id) ∧
        h' = { h with
          corrections := h.corrections ++ [c]
          unresolvedCorrectionIds := h.unresolvedCorrectionIds ++ [id] } := by
  simp only [foldCorrection, bind_eq_ok, requireTaskText_ok, requireTexts_ok, requirePacket_ok,
    ite_error_ok, ↓throw_bind, pure_ok, and_assoc, exists_and_left, exists_eq_left, exists_unit,
    ne_eq]

omit [DecidableEq D] in
theorem foldCheckpoint_ok {c : TaskCheckpoint D} : foldCheckpoint h c = .ok h' ↔
    c.correctionIdsAddressed.all nonblank = true ∧
      (¬∃ id ∈ c.correctionIdsAddressed, id ∉ h.unresolvedCorrectionIds) ∧
      (¬∃ id ∈ h.unresolvedCorrectionIds, id ∉ c.correctionIdsAddressed) ∧
      ¬(c.correctionIdsAddressed ≠ [] ∧ ¬c.responses.any nonblank = true) ∧
      h' = { h with
        unresolvedCorrectionIds :=
          h.unresolvedCorrectionIds.filter fun id => id ∉ c.correctionIdsAddressed
        latestCheckpoint := some c } := by
  simp only [foldCheckpoint, bind_eq_ok, requireTexts_ok, ite_error_ok, ↓throw_bind, pure_ok,
    and_assoc, exists_and_left, exists_eq_left]

omit [DecidableEq D] in
theorem foldClosed_ok {e : TaskEvent D} {ss : List (String × String)} {ev bl : List String}
    {c n d : String} : foldClosed rt h e ss ev bl c n d = .ok h' ↔
      ∃ r, validateSurfaces rt h.packet ss = .ok r ∧ bl = [] ∧
        (d.length = 64 ∧ rt.hexInteger d = true) ∧
        h' = { h with closeout := some ⟨splitLast ":CLOSE:" e.body.eventId, r, ev, bl, c, n,
          d.toLower, e.digest⟩ } := by
  simp only [foldClosed, bind_eq_ok, requireTaskDigest_ok, ite_error_ok, ↓throw_bind, pure_ok,
    and_assoc, exists_and_left, exists_eq_left, not_not, ne_eq]

end

/-! ## What a history keeps -/

namespace TaskHistory

variable {h : TaskHistory D} {d d' : TaskDelegation D} {id : String}

theorem delegation?_id (hd : h.delegation? id = some d) : d.delegationId = id := by
  simpa using List.find?_some hd

theorem delegation?_mem (hd : h.delegation? id = some d) : d ∈ h.delegations :=
  List.mem_of_find?_eq_some hd

theorem delegation?_isSome : (h.delegation? id).isSome = true ↔
    id ∈ h.delegations.map fun d => d.delegationId := by
  simp [delegation?, List.find?_isSome]

theorem delegation?_setDelegation : (h.setDelegation d).delegation? id =
    if id = d.delegationId then (h.delegation? id).map fun _ => d else h.delegation? id := by
  simp only [delegation?, setDelegation]
  induction h.delegations with
  | nil => simp
  | cons x xs ih =>
    by_cases hid : id = d.delegationId
    · subst hid
      by_cases hx : x.delegationId = d.delegationId
      · simp [hx]
      · simpa [hx] using ih
    · by_cases hx : x.delegationId = d.delegationId
      · simpa [hx, hid, Ne.symm hid] using ih
      · by_cases hxid : x.delegationId = id
        · simp [hxid, hid]
        · simpa [hx, hid, hxid] using ih

theorem delegation?_set (hd : h.delegation? id = some d) (hid : d'.delegationId = id) :
    (h.setDelegation d').delegation? id = some d' := by
  simp [delegation?_setDelegation, hid, hd]

theorem map_setDelegation : (h.setDelegation d).delegations.map (fun d => d.delegationId) =
    h.delegations.map fun d => d.delegationId := by
  simp only [setDelegation, List.map_map]
  refine List.map_congr_left fun x _ => ?_
  by_cases hx : x.delegationId = d.delegationId <;> simp [hx]

theorem mem_setDelegation (hd' : d' ∈ (h.setDelegation d).delegations) :
    d' = d ∨ d' ∈ h.delegations := by
  simp only [setDelegation, List.mem_map] at hd'
  obtain ⟨x, hx, rfl⟩ := hd'
  by_cases hxd : x.delegationId = d.delegationId
  · exact .inl (by simp [hxd])
  · exact .inr (by simpa [hxd] using hx)

end TaskHistory

/-- What a later history keeps of an earlier one. -/
structure TaskHistory.Grows (h h' : TaskHistory D) : Prop where
  packet : h'.packet = h.packet
  opened : h'.openedLifecycleEvidenceDigest = h.openedLifecycleEvidenceDigest
  dependencies : ∀ d ∈ h.dependencies, d ∈ h'.dependencies
  cancelled : ∀ c ∈ h.dependencyCancellations, c ∈ h'.dependencyCancellations
  delegations : ∀ id d, h.delegation? id = some d →
    ∃ d', h'.delegation? id = some d' ∧ (d.active = false → d' = d)
  corrections : ∀ c ∈ h.corrections, c ∈ h'.corrections
  checkpoint : h.latestCheckpoint.isSome = true → h'.latestCheckpoint.isSome = true

/-- An event of a task shows in its history. -/
def TaskHistory.Visible (h : TaskHistory D) (b : TaskBody D) : Prop :=
  match b.payload with
  | .opened packet _ digest =>
    h.packet = packet ∧ h.openedLifecycleEvidenceDigest = digest.toLower
  | .dependency id _ _ kind targetId =>
    ∃ d ∈ h.dependencies, d.dependencyId = id ∧ d.kind = kind ∧ d.targetId = targetId
  | .dependencyCancelled id _ _ _ _ reason =>
    ∃ c ∈ h.dependencyCancellations, c.dependencyId = id ∧ c.reason = reason
  | .delegated b .. | .delegationReassigned b .. => (h.delegation? b.delegationId).isSome = true
  | .delegationReturned b summary values refs =>
    ∃ d, h.delegation? b.delegationId = some d ∧ d.status = .returned ∧
      d.terminalSummary = some summary ∧ d.terminalEvidenceRefs = refs ∧
      d.returnValues = some (d.returnShape.eraseDups.map fun key => (key, valueOf values key))
  | .delegationCancelled b reason refs =>
    ∃ d, h.delegation? b.delegationId = some d ∧ d.status = .cancelled ∧
      d.terminalSummary = some reason ∧ d.terminalEvidenceRefs = refs
  | .correction id _ _ summary route change owner refs =>
    ∃ c ∈ h.corrections, c.correctionId = id ∧ c.summary = summary ∧ c.obsoleteRoute = route ∧
      c.requiredChange = change ∧ c.currentOwnerRef = owner ∧ c.provenanceRefs = refs
  | .checkpoint _ => h.latestCheckpoint.isSome = true
  | .closed _ refs _ ceiling frontier digest =>
    ∃ c, h.closeout = some c ∧ c.closeoutId = splitLast ":CLOSE:" b.eventId ∧
      c.evidenceRefs = refs ∧ c.claimCeiling = ceiling ∧ c.nextFrontier = frontier ∧
      c.lifecycleEvidenceDigest = digest.toLower

def TaskPayload.Closing : TaskPayload D → Prop
  | .closed .. => True
  | _ => False

/-- Where the parts of a history come from: an earlier history, or the event in between. -/
structure TaskHistory.From (h h' : TaskHistory D) (e : TaskEvent D) : Prop where
  dependencies : ∀ d ∈ h'.dependencies, d ∈ h.dependencies ∨
    ∃ id s pd, e.body.payload = .dependency id s pd d.kind d.targetId
  digests : ∀ d ∈ h'.delegations, d ∈ h.delegations ∨ d.eventDigest = e.digest
  active : ∀ d ∈ h'.activeDelegations,
    (∃ d₀ ∈ h.activeDelegations, d₀.delegationId = d.delegationId ∧ d₀.scopeKey = d.scopeKey) ∨
      ∃ b al pr sh ev, e.body.payload = .delegated b al pr sh ev ∧
        d.delegationId = b.delegationId ∧ d.scopeKey = (b.repository, b.ref, b.subject)
  corrections : ∀ c ∈ h'.corrections, c ∈ h.corrections ∨
    ∃ s pd su o r w ev, e.body.payload = .correction c.correctionId s pd su o r w ev
  closed : h'.closed = true → e.body.payload.Closing ∧
    h'.unresolvedCorrectionIds = h.unresolvedCorrectionIds ∧ h'.delegations = h.delegations

/-- No identity is taken twice in a history. -/
structure HistoryOk (h : TaskHistory D) : Prop where
  dependencyIds : (h.dependencies.map fun d => d.dependencyId).Nodup
  targets : (h.dependencies.map fun d => (d.kind, d.targetId)).Nodup
  delegationIds : (h.delegations.map fun d => d.delegationId).Nodup
  delegationTexts : ∀ d ∈ h.delegations, nonblank d.delegationId = true
  cancelled : ∀ id ∈ h.cancelledDependencyIds, ∃ d ∈ h.dependencies, d.dependencyId = id

section
variable {h h' : TaskHistory D} {e : TaskEvent D} {b : TaskBody D}

theorem TaskHistory.Grows.visible (hg : h.Grows h') (hv : h.Visible b) (hc : h.closed = false) :
    h'.Visible b := by
  rw [TaskHistory.Visible] at hv ⊢
  cases hp : b.payload <;> simp only [hp] at hv ⊢
  case opened => exact ⟨hg.packet.trans hv.1, hg.opened.trans hv.2⟩
  case dependency =>
    obtain ⟨d, hd, hd'⟩ := hv
    exact ⟨d, hg.dependencies d hd, hd'⟩
  case dependencyCancelled =>
    obtain ⟨c, hc, hc'⟩ := hv
    exact ⟨c, hg.cancelled c hc, hc'⟩
  case delegated | delegationReassigned =>
    obtain ⟨d, hd⟩ := Option.isSome_iff_exists.1 hv
    obtain ⟨d', hd', -⟩ := hg.delegations _ d hd
    exact Option.isSome_iff_exists.2 ⟨d', hd'⟩
  case delegationReturned | delegationCancelled =>
    obtain ⟨d, hd, hst, hd₁⟩ := hv
    obtain ⟨d', hd', heq⟩ := hg.delegations _ d hd
    obtain rfl := heq (by simp [TaskDelegation.active, hst])
    exact ⟨d', hd', hst, hd₁⟩
  case correction =>
    obtain ⟨c, hc, hc'⟩ := hv
    exact ⟨c, hg.corrections c hc, hc'⟩
  case checkpoint => exact hg.checkpoint hv
  case closed =>
    obtain ⟨c, hc', -⟩ := hv
    simp [TaskHistory.closed, hc'] at hc

theorem TaskHistory.Grows.refl (h : TaskHistory D) : h.Grows h where
  packet := rfl
  opened := rfl
  dependencies _ := id
  cancelled _ := id
  delegations _ d hd := ⟨d, hd, fun _ => rfl⟩
  corrections _ := id
  checkpoint := id

theorem TaskHistory.Grows.trans {h'' : TaskHistory D} (hg : h.Grows h') (hg' : h'.Grows h'') : h.Grows h'' where
  packet := hg'.packet.trans hg.packet
  opened := hg'.opened.trans hg.opened
  dependencies d hd := hg'.dependencies d (hg.dependencies d hd)
  cancelled c hc := hg'.cancelled c (hg.cancelled c hc)
  delegations id d hd := by
    obtain ⟨d', hd', hkept⟩ := hg.delegations id d hd
    obtain ⟨d'', hd'', hkept'⟩ := hg'.delegations id d' hd'
    exact ⟨d'', hd'', fun ha => (hkept' (hkept ha ▸ ha)).trans (hkept ha)⟩
  corrections c hc := hg'.corrections c (hg.corrections c hc)
  checkpoint hc := hg'.checkpoint (hg.checkpoint hc)

theorem TaskHistory.Grows.setDelegation {d d' : TaskDelegation D}
    (hd : h.delegation? d'.delegationId = some d) (ha : d.active = true) :
    h.Grows (h.setDelegation d') where
  packet := rfl
  opened := rfl
  dependencies _ := id
  cancelled _ := id
  corrections _ := id
  checkpoint := id
  delegations id x hx := by
    rw [delegation?_setDelegation]
    by_cases hid : id = d'.delegationId
    · subst hid
      obtain rfl : d = x := Option.some.inj (hd.symm.trans hx)
      exact ⟨d', by simp [hx], fun hf => absurd hf (by simp [ha])⟩
    · exact ⟨x, by simp [hid, hx], fun _ => rfl⟩

variable [DecidableEq D]

theorem foldEvent_ok : foldEvent rt h e = .ok h' → h.closed = false := fun he => by
  rw [foldEvent, ite_error_ok] at he
  simpa using he.1

/-- What the fold takes, a later history keeps. -/
theorem foldEvent_grows (he : foldEvent rt h e = .ok h') : h.Grows h' := by
  rw [foldEvent, ite_error_ok] at he
  obtain ⟨-, he⟩ := he
  have same (id : String) (d : TaskDelegation D) (hd : h.delegation? id = some d) :
      ∃ d', h.delegation? id = some d' ∧ (d.active = false → d' = d) := ⟨d, hd, fun _ => rfl⟩
  cases hp : e.body.payload <;> simp only [hp] at he
  case opened => cases he
  case dependency =>
    obtain ⟨-, -, -, -, -, -, -, -, rfl⟩ := foldDependency_ok.1 he
    exact .mk rfl rfl (fun _ => List.mem_append_left _) (fun _ => id) same (fun _ => id) id
  case dependencyCancelled =>
    obtain ⟨-, -, -, d, -, -, -, -, rfl⟩ := foldDependencyCancelled_ok.1 he
    exact .mk rfl rfl (fun _ => id) (fun _ => List.mem_append_left _) same (fun _ => id) id
  case delegated =>
    obtain ⟨-, -, -, -, -, -, -, -, -, -, -, -, -, -, rfl⟩ := foldDelegated_ok.1 he
    refine .mk rfl rfl (fun _ => id) (fun _ => id) (fun id d hd => ⟨d, ?_, fun _ => rfl⟩)
      (fun _ => id) id
    rw [TaskHistory.delegation?] at hd ⊢
    rw [List.find?_append, hd, Option.some_or]
  case delegationReassigned =>
    obtain ⟨-, d, hd, ha, -, -, -, -, -, rfl⟩ := foldReassigned_ok.1 he
    exact .setDelegation (TaskHistory.delegation?_id hd ▸ hd) ha
  case delegationReturned =>
    obtain ⟨-, d, hd, ha, -, -, -, -, -, -, rfl⟩ := foldReturned_ok.1 he
    exact .setDelegation (TaskHistory.delegation?_id hd ▸ hd) ha
  case delegationCancelled =>
    obtain ⟨-, d, hd, ha, -, -, -, -, rfl⟩ := foldDelegationCancelled_ok.1 he
    exact .setDelegation (TaskHistory.delegation?_id hd ▸ hd) ha
  case correction =>
    obtain ⟨-, -, -, -, -, -, -, -, -, -, rfl⟩ := foldCorrection_ok.1 he
    exact .mk rfl rfl (fun _ => id) (fun _ => id) same (fun _ => List.mem_append_left _) id
  case checkpoint =>
    obtain ⟨-, -, -, -, rfl⟩ := foldCheckpoint_ok.1 he
    exact .mk rfl rfl (fun _ => id) (fun _ => id) same (fun _ => id) fun _ => rfl
  case closed =>
    obtain ⟨_, -, -, -, rfl⟩ := foldClosed_ok.1 he
    exact .mk rfl rfl (fun _ => id) (fun _ => id) same (fun _ => id) id

theorem foldEvent_visible (he : foldEvent rt h e = .ok h') : h'.Visible e.body := by
  rw [foldEvent, ite_error_ok] at he
  obtain ⟨-, he⟩ := he
  rw [TaskHistory.Visible]
  cases hp : e.body.payload <;> simp only [hp] at he ⊢
  case opened => cases he
  case dependency =>
    obtain ⟨-, -, -, -, -, -, -, -, rfl⟩ := foldDependency_ok.1 he
    exact ⟨_, List.mem_append_right _ (List.mem_singleton_self _), rfl, rfl, rfl⟩
  case dependencyCancelled =>
    obtain ⟨-, -, -, d, -, -, -, -, rfl⟩ := foldDependencyCancelled_ok.1 he
    exact ⟨_, List.mem_append_right _ (List.mem_singleton_self _), rfl, rfl⟩
  case delegated =>
    obtain ⟨-, -, -, -, -, -, -, -, -, -, -, -, -, -, rfl⟩ := foldDelegated_ok.1 he
    exact TaskHistory.delegation?_isSome.2
      (List.mem_map_of_mem (List.mem_append_right _ (List.mem_singleton_self _)))
  case delegationReassigned =>
    obtain ⟨-, d, hd, -, -, -, -, -, -, rfl⟩ := foldReassigned_ok.1 he
    rw [TaskHistory.delegation?_setDelegation]
    simp [TaskHistory.delegation?_id hd, hd]
  case delegationReturned =>
    obtain ⟨-, d, hd, -, -, -, -, -, -, -, rfl⟩ := foldReturned_ok.1 he
    simp [TaskHistory.delegation?_setDelegation, TaskHistory.delegation?_id hd, hd]
  case delegationCancelled =>
    obtain ⟨-, d, hd, -, -, -, -, -, rfl⟩ := foldDelegationCancelled_ok.1 he
    simp [TaskHistory.delegation?_setDelegation, TaskHistory.delegation?_id hd, hd]
  case correction =>
    obtain ⟨-, -, -, -, -, -, -, -, -, -, rfl⟩ := foldCorrection_ok.1 he
    exact ⟨_, List.mem_append_right _ (List.mem_singleton_self _), rfl, rfl, rfl, rfl, rfl, rfl⟩
  case checkpoint =>
    obtain ⟨-, -, -, -, rfl⟩ := foldCheckpoint_ok.1 he
    rfl
  case closed =>
    obtain ⟨_, -, -, -, rfl⟩ := foldClosed_ok.1 he
    exact ⟨_, rfl, rfl, rfl, rfl, rfl, rfl⟩

omit [DecidableEq D] in
/-- A history in which only the closeout, or nothing the log looks at, is new. -/
theorem TaskHistory.From.of_eq (hd : h'.dependencies = h.dependencies)
    (hg : h'.delegations = h.delegations) (hr : h'.corrections = h.corrections)
    (hc : h'.closed = true → e.body.payload.Closing ∧
      h'.unresolvedCorrectionIds = h.unresolvedCorrectionIds) : h.From h' e where
  dependencies d hd' := .inl (hd ▸ hd')
  digests d hd' := .inl (hg ▸ hd')
  active d hd' := .inl ⟨d, by simpa [TaskHistory.activeDelegations, hg] using hd', rfl, rfl⟩
  corrections c hc' := .inl (hr ▸ hc')
  closed hcl := ⟨(hc hcl).1, (hc hcl).2, hg⟩

omit [DecidableEq D] in
/-- A history in which one active delegation is replaced. -/
theorem TaskHistory.From.setDelegation {d d' : TaskDelegation D} (ho : h.closed = false)
    (hd : h.delegation? d'.delegationId = some d) (ha : d.active = true)
    (hs : d'.scopeKey = d.scopeKey) (hdg : d'.eventDigest = e.digest) :
    h.From (h.setDelegation d') e where
  dependencies _ := .inl
  corrections _ := .inl
  closed hc := absurd (hc.symm.trans ho) (by simp)
  digests x hx := by
    rcases TaskHistory.mem_setDelegation hx with rfl | hx
    · exact .inr hdg
    · exact .inl hx
  active x hx := by
    obtain ⟨hx, hxa⟩ := List.mem_filter.1 hx
    rcases TaskHistory.mem_setDelegation hx with rfl | hx
    · exact .inl ⟨d, List.mem_filter.2 ⟨TaskHistory.delegation?_mem hd, ha⟩,
        TaskHistory.delegation?_id hd, hs.symm⟩
    · exact .inl ⟨x, List.mem_filter.2 ⟨hx, hxa⟩, rfl, rfl⟩

theorem foldEvent_from (he : foldEvent rt h e = .ok h') : h.From h' e := by
  have ho := foldEvent_ok he
  rw [foldEvent, ite_error_ok] at he
  obtain ⟨-, he⟩ := he
  have opened (h₁ : TaskHistory D) (hcl : h₁.closeout = h.closeout) (P : Prop)
      (hc : h₁.closed = true) : P := by
    rw [TaskHistory.closed, hcl] at hc
    exact absurd (hc.symm.trans ho) (by simp)
  cases hp : e.body.payload <;> simp only [hp] at he
  case opened => cases he
  case dependency id s pd k g =>
    obtain ⟨-, -, -, -, -, -, -, -, rfl⟩ := foldDependency_ok.1 he
    refine { show h.From h _ from TaskHistory.From.of_eq rfl rfl rfl (opened h rfl _) with
      dependencies := fun d hd => ?_ }
    rcases List.mem_append.1 hd with hd | hd
    · exact .inl hd
    · obtain rfl := List.mem_singleton.1 hd
      exact .inr ⟨_, _, _, hp⟩
  case dependencyCancelled =>
    obtain ⟨-, -, -, d, -, -, -, -, rfl⟩ := foldDependencyCancelled_ok.1 he
    exact .of_eq rfl rfl rfl (opened _ rfl _)
  case delegated b al pr sh ev =>
    obtain ⟨-, -, -, -, -, -, -, -, -, -, -, -, -, -, rfl⟩ := foldDelegated_ok.1 he
    refine { show h.From h _ from TaskHistory.From.of_eq rfl rfl rfl (opened h rfl _) with
      digests := fun d hd => ?_
      active := fun d hd => ?_
      closed := opened _ rfl _ }
    · rcases List.mem_append.1 hd with hd | hd
      · exact .inl hd
      · exact .inr (List.mem_singleton.1 hd ▸ rfl)
    · obtain ⟨hd, ha⟩ := List.mem_filter.1 hd
      rcases List.mem_append.1 hd with hd | hd
      · exact .inl ⟨d, List.mem_filter.2 ⟨hd, ha⟩, rfl, rfl⟩
      · obtain rfl := List.mem_singleton.1 hd
        exact .inr ⟨b, al, pr, sh, ev, hp, rfl, rfl⟩
  case delegationReassigned =>
    obtain ⟨-, d, hd, ha, -, -, -, -, -, rfl⟩ := foldReassigned_ok.1 he
    exact .setDelegation ho (TaskHistory.delegation?_id hd ▸ hd) ha rfl rfl
  case delegationReturned =>
    obtain ⟨-, d, hd, ha, -, -, -, -, -, -, rfl⟩ := foldReturned_ok.1 he
    exact .setDelegation ho (TaskHistory.delegation?_id hd ▸ hd) ha rfl rfl
  case delegationCancelled =>
    obtain ⟨-, d, hd, ha, -, -, -, -, rfl⟩ := foldDelegationCancelled_ok.1 he
    exact .setDelegation ho (TaskHistory.delegation?_id hd ▸ hd) ha rfl rfl
  case correction id s pd su o r w ev =>
    obtain ⟨-, -, -, -, -, -, -, -, -, -, rfl⟩ := foldCorrection_ok.1 he
    refine { show h.From h _ from TaskHistory.From.of_eq rfl rfl rfl (opened h rfl _) with
      corrections := fun c hc => ?_
      closed := opened _ rfl _ }
    rcases List.mem_append.1 hc with hc | hc
    · exact .inl hc
    · obtain rfl := List.mem_singleton.1 hc
      exact .inr ⟨_, _, _, _, _, _, _, hp⟩
  case checkpoint =>
    obtain ⟨-, -, -, -, rfl⟩ := foldCheckpoint_ok.1 he
    exact .of_eq rfl rfl rfl (opened _ rfl _)
  case closed =>
    obtain ⟨_, -, -, -, rfl⟩ := foldClosed_ok.1 he
    exact .of_eq rfl rfl rfl fun _ => ⟨by rw [hp]; trivial, rfl⟩

theorem foldEvent_historyOk (he : foldEvent rt h e = .ok h') (ok : HistoryOk h) :
    HistoryOk h' := by
  rw [foldEvent, ite_error_ok] at he
  obtain ⟨-, he⟩ := he
  have set {d : TaskDelegation D} (d' : TaskDelegation D) (hd : d ∈ h.delegations)
      (hid : d'.delegationId = d.delegationId) : HistoryOk (h.setDelegation d') := by
    refine ⟨ok.dependencyIds, ok.targets, ?_, fun x hx => ?_, ok.cancelled⟩
    · rw [TaskHistory.map_setDelegation]
      exact ok.delegationIds
    · rcases TaskHistory.mem_setDelegation hx with rfl | hx
      · exact hid ▸ ok.delegationTexts d hd
      · exact ok.delegationTexts x hx
  cases hp : e.body.payload <;> simp only [hp] at he
  case opened => cases he
  case dependency id s pd k g =>
    obtain ⟨-, -, -, -, -, -, hid, htarget, rfl⟩ := foldDependency_ok.1 he
    refine ⟨?_, ?_, ok.delegationIds, ok.delegationTexts, fun x hx => ?_⟩
    · rw [List.map_append, List.map_singleton, List.nodup_append]
      refine ⟨ok.dependencyIds, List.nodup_singleton _, fun a ha b hb hab => hid ?_⟩
      obtain ⟨d, hd, hda⟩ := List.mem_map.1 ha
      exact ⟨d, hd, hda.trans (hab.trans (List.mem_singleton.1 hb))⟩
    · rw [List.map_append, List.map_singleton, List.nodup_append]
      refine ⟨ok.targets, List.nodup_singleton _, fun a ha b hb hab => htarget ?_⟩
      obtain ⟨d, hd, hda⟩ := List.mem_map.1 ha
      have := hda.trans (hab.trans (List.mem_singleton.1 hb))
      exact ⟨d, hd, congrArg Prod.fst this, congrArg Prod.snd this⟩
    · obtain ⟨d, hd, hdx⟩ := ok.cancelled x hx
      exact ⟨d, List.mem_append_left _ hd, hdx⟩
  case dependencyCancelled id s pd k g r =>
    obtain ⟨-, -, -, d, hd, -, -, -, rfl⟩ := foldDependencyCancelled_ok.1 he
    refine ⟨ok.dependencyIds, ok.targets, ok.delegationIds, ok.delegationTexts, fun x hx => ?_⟩
    simp only [TaskHistory.cancelledDependencyIds, List.map_append, List.mem_append,
      List.map_singleton, List.mem_singleton] at hx
    rcases hx with hx | rfl
    · exact ok.cancelled x hx
    · exact ⟨d, List.mem_of_find?_eq_some hd, by simpa using List.find?_some hd⟩
  case delegated b al pr sh ev =>
    obtain ⟨hid, -, -, hn, -, -, -, -, -, -, -, -, -, -, rfl⟩ := foldDelegated_ok.1 he
    refine ⟨ok.dependencyIds, ok.targets, ?_, fun x hx => ?_, ok.cancelled⟩
    · rw [List.map_append, List.map_singleton, List.nodup_append]
      refine ⟨ok.delegationIds, List.nodup_singleton _, fun a ha x hx hax => hn ?_⟩
      have hab : a = b.delegationId := hax.trans (List.mem_singleton.1 hx)
      rwa [TaskHistory.delegation?_isSome, ← hab]
    · rcases List.mem_append.1 hx with hx | hx
      · exact ok.delegationTexts x hx
      · exact List.mem_singleton.1 hx ▸ hid
  case delegationReassigned =>
    obtain ⟨-, d, hd, -, -, -, -, -, -, rfl⟩ := foldReassigned_ok.1 he
    exact set _ (TaskHistory.delegation?_mem hd) rfl
  case delegationReturned =>
    obtain ⟨-, d, hd, -, -, -, -, -, -, -, rfl⟩ := foldReturned_ok.1 he
    exact set _ (TaskHistory.delegation?_mem hd) rfl
  case delegationCancelled =>
    obtain ⟨-, d, hd, -, -, -, -, -, rfl⟩ := foldDelegationCancelled_ok.1 he
    exact set _ (TaskHistory.delegation?_mem hd) rfl
  case correction =>
    obtain ⟨-, -, -, -, -, -, -, -, -, -, rfl⟩ := foldCorrection_ok.1 he
    exact ⟨ok.dependencyIds, ok.targets, ok.delegationIds, ok.delegationTexts, ok.cancelled⟩
  case checkpoint =>
    obtain ⟨-, -, -, -, rfl⟩ := foldCheckpoint_ok.1 he
    exact ⟨ok.dependencyIds, ok.targets, ok.delegationIds, ok.delegationTexts, ok.cancelled⟩
  case closed =>
    obtain ⟨_, -, -, -, rfl⟩ := foldClosed_ok.1 he
    exact ⟨ok.dependencyIds, ok.targets, ok.delegationIds, ok.delegationTexts, ok.cancelled⟩

/-! ## Histories -/

theorem openEvent_ok : openEvent rt e = .ok h ↔ ∃ packet digest lifecycle,
    e.body.payload = .opened packet digest lifecycle ∧ packet.validate = .ok () ∧
      digest = packetDigest rt packet ∧
      (lifecycle.length = 64 ∧ rt.hexInteger lifecycle = true) ∧
      h = ⟨packet, lifecycle.toLower, none, [], [], [], [], [], none⟩ := by
  rw [openEvent]
  cases hp : e.body.payload
  case opened packet digest lifecycle =>
    simp only [bind_eq_ok, requireTaskDigest_ok, ite_error_ok, ↓throw_bind, pure_ok, and_assoc,
      exists_and_left, exists_eq_left, not_not, ne_eq]
    constructor
    · rintro ⟨_, hv, hd, hl, hx, hh⟩
      exact ⟨packet, digest, lifecycle, rfl, hv, hd, hl, hx, hh⟩
    · rintro ⟨_, _, _, hp, hv, hd, hl, hx, hh⟩
      cases hp
      exact ⟨(), hv, hd, hl, hx, hh⟩
  all_goals
    constructor
    · intro he
      cases he
    · rintro ⟨_, _, _, hf, -⟩
      cases hf

theorem openEvent_spec (he : openEvent rt e = .ok h) :
    HistoryOk h ∧ h.Visible e.body ∧ h.closed = false ∧ h.corrections = [] ∧
      h.dependencies = [] ∧ h.delegations = [] := by
  obtain ⟨packet, digest, lifecycle, hp, -, -, -, rfl⟩ := openEvent_ok.1 he
  refine ⟨⟨List.nodup_nil, List.nodup_nil, List.nodup_nil, nofun, nofun⟩, ?_, rfl, rfl, rfl, rfl⟩
  rw [TaskHistory.Visible, hp]
  exact ⟨rfl, rfl⟩

theorem foldlM_cons_ok {α β ε : Type} {f : β → α → Except ε β} {b b' : β} {a : α} {as : List α} :
    (a :: as).foldlM f b = .ok b' ↔ ∃ b₁, f b a = .ok b₁ ∧ as.foldlM f b₁ = .ok b' := by
  rw [List.foldlM_cons, bind_eq_ok]

/-- The fold keeps what its rounds keep, and every event it took shows at the end. -/
theorem foldlM_spec {es : List (TaskEvent D)} {bs : List (TaskBody D)} (ok : HistoryOk h)
    (hv : ∀ b ∈ bs, h.Visible b) (he : es.foldlM (foldEvent rt) h = .ok h') :
    HistoryOk h' ∧ ∀ b ∈ bs ++ es.map fun e => e.body, h'.Visible b := by
  induction es generalizing h bs with
  | nil =>
    obtain rfl : h' = h := pure_ok.1 he
    simpa using ⟨ok, hv⟩
  | cons e es ih =>
    obtain ⟨h₁, h₁e, he⟩ := foldlM_cons_ok.1 he
    have hv₁ : ∀ b ∈ bs ++ [e.body], h₁.Visible b := fun b hb => by
      rcases List.mem_append.1 hb with hb | hb
      · exact (foldEvent_grows h₁e).visible (hv b hb) (foldEvent_ok h₁e)
      · exact List.mem_singleton.1 hb ▸ foldEvent_visible h₁e
    simpa using ih (foldEvent_historyOk h₁e ok) hv₁ he

omit [DecidableEq D] in
theorem TaskPayload.Closing.visible (hp : b.payload.Closing) (hv : h.Visible b) :
    h.closed = true := by
  rw [TaskHistory.Visible] at hv
  cases hb : b.payload <;> rw [hb] at hp <;> simp only [hb] at hv <;> try exact hp.elim
  obtain ⟨c, hc, -⟩ := hv
  simp [TaskHistory.closed, hc]

theorem foldlM_closed {pre post : List (TaskEvent D)} (hc : e.body.payload.Closing)
    (he : (pre ++ e :: post).foldlM (foldEvent rt) h = .ok h') : post = [] := by
  rw [List.foldlM_append, bind_eq_ok] at he
  obtain ⟨h₁, -, he⟩ := he
  obtain ⟨h₂, h₂e, he⟩ := foldlM_cons_ok.1 he
  cases post with
  | nil => rfl
  | cons e' post =>
    obtain ⟨h₃, h₃e, -⟩ := foldlM_cons_ok.1 he
    have hcl := hc.visible (foldEvent_visible h₂e)
    exact absurd (hcl.symm.trans (foldEvent_ok h₃e)) (by simp)

end

end VeraMono

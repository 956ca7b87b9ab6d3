import VeraMono.Model.IntranelAdmission
import VeraMono.Proof.Intranel

/-!
# Intranel admission is sound

A message is allowed only on evidence bound to it, with every check that its shape makes relevant
true; a weaker check never allows more. The digest of an operation is there for every message that
was constructed, and is of exactly the fields of the operation. `admit_allow_iff` says when a
message is allowed, and `intranel_admission` collects the three facts.
-/

namespace VeraMono

open Framework

namespace Intranel

variable {rt : IntranelRuntime} {field : String}

/-! ## Decisions -/

theorem tristate_eq_none {value : Option Bool} {d : AdmissionDecision} :
    tristate value d = none ↔ value = some true := by
  rcases value with _ | _ | _ <;> simp [tristate]

theorem relevant_eq_none {b : Bool} {d : Option AdmissionDecision} :
    relevant b d = none ↔ (b = true → d = none) := by
  cases b <;> simp [relevant]

theorem orElse_eq_none {α : Type} {x y : Option α} : (x <|> y) = none ↔ x = none ∧ y = none := by
  cases x <;> simp

variable {m : IntranelMessage} {e : ReceiverEvidence}

theorem effectDecision_eq_none :
    effectDecision m e = none ↔ e.effectiveEffectClass = some m.effectClass := by
  rw [effectDecision]
  cases e.effectiveEffectClass with
  | none => simp
  | some effective => by_cases h : effective = m.effectClass <;> simp [h]

/-- The evidence is bound to exactly this message. -/
structure BoundTo (rt : IntranelRuntime) (m : IntranelMessage) (e : ReceiverEvidence) : Prop where
  messageDigest : m.contentDigest rt = .ok e.messageDigest
  operationDigest : m.expectedOperationDigest rt = .ok e.operationDigest
  origin : e.origin = .valid m.origin.text
  actor : e.actor = .valid m.actor.text
  target : e.target = .valid m.target.text
  exactSubject : e.exactSubject = m.exactSubject.map .valid
  authorityClaimRef : e.authorityClaimRef = m.authorityClaimRef.map .valid

/-- Every check that the shape of the message makes relevant is true. -/
structure Checked (m : IntranelMessage) (e : ReceiverEvidence) : Prop where
  origin : e.originAuthenticated = some true
  actor : e.actorAuthenticated = some true
  replay : e.replayFresh = some true
  capabilities : e.capabilitiesSupported = some true
  transport : e.transportSecuritySatisfied = some true
  exactSubject : m.exactSubject.isSome → e.exactSubjectValid = some true
  constraints : m.constraints ≠ [] → e.constraintsSatisfied = some true
  prohibitedEffects : m.prohibitedEffects ≠ [] → e.prohibitedEffectsClear = some true
  effect : m.performative = .execute ∨ m.performative = .cancel → e.effectiveEffectClass = some m.effectClass
  authority : m.performative = .cancel ∨ m.performative = .execute ∧ m.effectClass ≠ .readOnly →
    e.authorityValid = some true

def Cancellable (m : IntranelMessage) (cancellation : Option CancellationEvidence) : Prop :=
  m.performative = .cancel → ∃ c, cancellation = some c ∧ m.targetOperationId = some c.targetOperationId ∧
    m.exactSubject.map .valid = some c.exactSubject ∧ c.cancellable = some true

theorem decided {c : Prop} [Decidable c] {d d' : Option AdmissionDecision}
    {x : Except Failure (Option AdmissionDecision)} :
    (if c then pure d else x) = .ok d' ↔ c ∧ d' = d ∨ ¬ c ∧ x = .ok d' := by
  by_cases hc : c
  · simp [hc, pure_ok]
  · simp [hc]

theorem bindingDecision_ok {d : Option AdmissionDecision}
    (h : bindingDecision rt m e = .ok d) : d = some .conflict ∨ d = none ∧ BoundTo rt m e := by
  simp only [bindingDecision, bind_eq_ok, decided, pure_ok] at h
  obtain ⟨digest, hdigest, ⟨-, rfl⟩ | ⟨hmessage, operation, hoperation, ⟨-, rfl⟩ | ⟨hop, ⟨-, rfl⟩ |
    ⟨hnames, ⟨-, rfl⟩ | ⟨hrefs, rfl⟩⟩⟩⟩⟩ := h
  · exact .inl rfl
  · exact .inl rfl
  · exact .inl rfl
  · exact .inl rfl
  · simp only [not_or, not_not] at hmessage hop hnames hrefs
    exact .inr ⟨rfl, hmessage ▸ hdigest, hop ▸ hoperation, hnames.1, hnames.2.1, hnames.2.2, hrefs.1, hrefs.2⟩

theorem checksDecision_eq_none : checksDecision m e = none ↔ Checked m e := by
  simp only [checksDecision, orElse_eq_none, relevant_eq_none, tristate_eq_none, effectDecision_eq_none,
    requiresAuthority, Bool.or_eq_true, Bool.and_eq_true, decide_eq_true_eq]
  constructor
  · rintro ⟨h₁, h₂, h₃, h₄, h₅, h₆, h₇, h₈, h₉, h₁₀⟩
    refine ⟨h₁, h₂, h₃, h₄, h₅, h₆, h₇, h₈, h₉, ?_⟩
    rintro (hcancel | ⟨hexecute, hclass⟩)
    · exact h₁₀ (.inl hcancel)
    · refine h₁₀ (.inr ⟨hexecute, ?_⟩)
      rw [h₉ (.inl hexecute)]
      exact fun h => hclass (Option.some.inj h)
  · intro h
    refine ⟨h.origin, h.actor, h.replay, h.capabilities, h.transport, h.exactSubject, h.constraints,
      h.prohibitedEffects, h.effect, ?_⟩
    rintro (hcancel | ⟨hexecute, hclass⟩)
    · exact h.authority (.inl hcancel)
    · refine h.authority (.inr ⟨hexecute, fun hread => hclass ?_⟩)
      rw [h.effect (.inl hexecute), hread]

theorem cancellationDecision_none {cancellation : Option CancellationEvidence}
    (h : relevant (m.performative = .cancel) (cancellationDecision m cancellation) = none) :
    Cancellable m cancellation := by
  intro hcancel
  have hnone := relevant_eq_none.1 h (decide_eq_true hcancel)
  cases cancellation with
  | none => cases hnone
  | some c =>
    rw [cancellationDecision] at hnone
    split_ifs at hnone with hsame
    simp only [not_or, not_not] at hsame
    exact ⟨c, rfl, hsame.1.symm, hsame.2.symm, tristate_eq_none.1 hnone⟩

/-- A decision that no check makes by itself. -/
structure Settles (d : AdmissionDecision) : Prop where
  reject : AdmissionDecision.reject ≠ d
  quarantine : AdmissionDecision.quarantine ≠ d
  conflict : AdmissionDecision.conflict ≠ d

theorem settles_allow : Settles .allow := ⟨by decide, by decide, by decide⟩

theorem settles_duplicate : Settles .duplicate := ⟨by decide, by decide, by decide⟩

section Settles
variable {settled : AdmissionDecision}

theorem relevant_ne {b : Bool} {d : Option AdmissionDecision} (h : d ≠ some settled) :
    relevant b d ≠ some settled := by
  cases b with
  | false => exact (Option.some_ne_none _).symm
  | true => exact h

theorem orElse_ne {x y : Option AdmissionDecision} (hx : x ≠ some settled) (hy : y ≠ some settled) :
    (x <|> y) ≠ some settled := by
  cases x with
  | none => exact hy
  | some d => exact hx

theorem Settles.tristate {value : Option Bool} {d : AdmissionDecision} (hs : Settles settled) (h : d ≠ settled) :
    Intranel.tristate value d ≠ some settled := by
  rcases value with _ | _ | _ <;> simp [Intranel.tristate, h, hs.quarantine]

theorem Settles.effectDecision {m : IntranelMessage} {e : ReceiverEvidence} (hs : Settles settled) :
    Intranel.effectDecision m e ≠ some settled := by
  rw [Intranel.effectDecision]
  cases e.effectiveEffectClass with
  | none => simp [hs.quarantine]
  | some effective => by_cases h : effective = m.effectClass <;> simp [h, hs.conflict]

theorem Settles.checksDecision {m : IntranelMessage} {e : ReceiverEvidence} (hs : Settles settled) :
    Intranel.checksDecision m e ≠ some settled := by
  have hreject (value : Option Bool) : Intranel.tristate value .reject ≠ some settled := hs.tristate hs.reject
  have hconflict (value : Option Bool) : Intranel.tristate value .conflict ≠ some settled :=
    hs.tristate hs.conflict
  refine orElse_ne (hreject _) <| orElse_ne (hreject _) <| orElse_ne (hreject _) <|
    orElse_ne (hreject _) <| orElse_ne (hreject _) <|
    orElse_ne (relevant_ne (hconflict _)) <| orElse_ne (relevant_ne (hreject _)) <|
    orElse_ne (relevant_ne (hreject _)) <|
    orElse_ne (relevant_ne hs.effectDecision) (relevant_ne (hreject _))

theorem Settles.cancellationDecision {m : IntranelMessage} {cancellation : Option CancellationEvidence}
    (hs : Settles settled) : Intranel.cancellationDecision m cancellation ≠ some settled := by
  cases cancellation with
  | none => simp [Intranel.cancellationDecision, hs.quarantine]
  | some c =>
    rw [Intranel.cancellationDecision]
    split_ifs
    · simp [hs.conflict]
    · exact hs.tristate hs.reject

end Settles

variable {prior : Option OperationRecord} {cancellation : Option CancellationEvidence}
  {m : IntranelMessage}

theorem priorDecision_ne_allow : priorDecision rt m prior ≠ .ok (some .allow) := by
  intro h
  cases prior with
  | none => cases h
  | some record =>
    rw [priorDecision] at h
    simp only [bind_eq_ok, decided, pure_ok, reduceCtorEq, and_false, false_or, Option.some.injEq, exists_false] at h

/-- A message is allowed just when none of the four decisions was made. -/
theorem admit_allow_iff {e : ReceiverEvidence}
    : admitMessage rt m e prior cancellation = .ok .allow ↔
      bindingDecision rt m e = .ok none ∧ checksDecision m e = none ∧ priorDecision rt m prior = .ok none ∧
        relevant (m.performative = .cancel) (cancellationDecision m cancellation) = none := by
  have hcancel : relevant (m.performative = .cancel) (cancellationDecision m cancellation) ≠ some .allow :=
    relevant_ne settles_allow.cancellationDecision
  have hchecks : checksDecision m e ≠ some .allow := settles_allow.checksDecision
  have hprior : priorDecision rt m prior ≠ .ok (some .allow) := priorDecision_ne_allow
  rw [admitMessage]
  generalize relevant (m.performative = .cancel) (cancellationDecision m cancellation) = last at hcancel ⊢
  generalize checksDecision m e = checks at hchecks ⊢
  generalize priorDecision rt m prior = before at hprior ⊢
  cases hbinding : bindingDecision rt m e with
  | error f => simp [bind, Except.bind]
  | ok binding =>
    rcases bindingDecision_ok hbinding with rfl | ⟨rfl, -⟩
    · simp [bind, Except.bind, pure, Except.pure]
    · cases checks with
      | some d =>
        have hd : d ≠ .allow := fun h => hchecks (congrArg some h)
        simp [bind, Except.bind, pure, Except.pure, hd]
      | none =>
        cases before with
        | error f => simp [bind, Except.bind]
        | ok before =>
          cases before with
          | some d =>
            have hd : d ≠ .allow := fun h => hprior (congrArg (fun d => Except.ok (some d)) h)
            simp [bind, Except.bind, pure, Except.pure, hd]
          | none =>
            cases last with
            | none => simp [bind, Except.bind, pure, Except.pure]
            | some d =>
              have hd : d ≠ .allow := fun h => hcancel (congrArg some h)
              simp [bind, Except.bind, pure, Except.pure, hd]

theorem admit_sound {e : ReceiverEvidence}
    (h : admitMessage rt m e prior cancellation = .ok .allow) :
    BoundTo rt m e ∧ Checked m e ∧ Cancellable m cancellation := by
  obtain ⟨hbinding, hchecks, -, hcancel⟩ := admit_allow_iff.1 h
  rcases bindingDecision_ok hbinding with hconflict | ⟨-, hbound⟩
  · cases hconflict
  · exact ⟨hbound, checksDecision_eq_none.1 hchecks, cancellationDecision_none hcancel⟩

/-! ## Weaker evidence -/

def WeakerCheck (value value' : Option Bool) : Prop := value' = value ∨ value = some true ∧ value' ≠ some true

/-- The same evidence, of which some checks that were true are false or unknown. -/
structure Weaker (e e' : ReceiverEvidence) : Prop where
  messageDigest : e'.messageDigest = e.messageDigest
  operationDigest : e'.operationDigest = e.operationDigest
  origin : e'.origin = e.origin
  actor : e'.actor = e.actor
  target : e'.target = e.target
  exactSubject : e'.exactSubject = e.exactSubject
  authorityClaimRef : e'.authorityClaimRef = e.authorityClaimRef
  effectiveEffectClass : e'.effectiveEffectClass = e.effectiveEffectClass
  originAuthenticated : WeakerCheck e.originAuthenticated e'.originAuthenticated
  actorAuthenticated : WeakerCheck e.actorAuthenticated e'.actorAuthenticated
  authorityValid : WeakerCheck e.authorityValid e'.authorityValid
  exactSubjectValid : WeakerCheck e.exactSubjectValid e'.exactSubjectValid
  replayFresh : WeakerCheck e.replayFresh e'.replayFresh
  capabilitiesSupported : WeakerCheck e.capabilitiesSupported e'.capabilitiesSupported
  constraintsSatisfied : WeakerCheck e.constraintsSatisfied e'.constraintsSatisfied
  prohibitedEffectsClear : WeakerCheck e.prohibitedEffectsClear e'.prohibitedEffectsClear
  transportSecuritySatisfied : WeakerCheck e.transportSecuritySatisfied e'.transportSecuritySatisfied

theorem WeakerCheck.stays {value value' : Option Bool} (h : WeakerCheck value value') (h' : value' = some true) :
    value = some true := by
  rcases h with h | ⟨h, -⟩
  · exact h ▸ h'
  · exact h

theorem Checked.of_weaker {e e' : ReceiverEvidence} (hw : Weaker e e') (h : Checked m e') :
    Checked m e where
  origin := hw.originAuthenticated.stays h.origin
  actor := hw.actorAuthenticated.stays h.actor
  replay := hw.replayFresh.stays h.replay
  capabilities := hw.capabilitiesSupported.stays h.capabilities
  transport := hw.transportSecuritySatisfied.stays h.transport
  exactSubject := fun hm => hw.exactSubjectValid.stays (h.exactSubject hm)
  constraints := fun hm => hw.constraintsSatisfied.stays (h.constraints hm)
  prohibitedEffects := fun hm => hw.prohibitedEffectsClear.stays (h.prohibitedEffects hm)
  effect := fun hm => hw.effectiveEffectClass ▸ h.effect hm
  authority := fun hm => hw.authorityValid.stays (h.authority hm)

theorem admit_weaker {e e' : ReceiverEvidence} (hw : Weaker e e')
    (h : admitMessage rt m e' prior cancellation = .ok .allow) : admitMessage rt m e prior cancellation = .ok .allow := by
  obtain ⟨hbinding, hchecks, hrest⟩ := admit_allow_iff.1 h
  have hsame : bindingDecision rt m e = bindingDecision rt m e' := by
    rw [bindingDecision, bindingDecision, hw.messageDigest, hw.operationDigest, hw.origin, hw.actor, hw.target,
      hw.exactSubject, hw.authorityClaimRef]
  exact admit_allow_iff.2 ⟨hsame ▸ hbinding,
    checksDecision_eq_none.2 ((checksDecision_eq_none.1 hchecks).of_weaker hw), hrest⟩

/-! ## The digest of an operation -/

theorem checkNode_mono {depth count count' : Nat} {u : Unit} (hle : count' ≤ count)
    (h : checkNode field depth count = .ok u) : checkNode field depth count' = .ok u := by
  simp only [checkNode, ite_error_ok, ↓throw_bind] at h ⊢
  obtain ⟨hcount, hdepth⟩ := h
  exact ⟨by omega, hdepth⟩

mutual

theorem freezeValue_mono : ∀ (v : PyValue) {depth count count' n : Nat} {j : Json}, count' ≤ count →
    freezeValue field depth count v = .ok (j, n) → ∃ n' ≤ n, count' ≤ n' ∧ freezeValue field depth count' v = .ok (j, n')
  | .none, _, _, _, _, _, hle, h => by
    simp only [freezeValue, bind_eq_ok, pure_ok, Prod.mk.injEq] at h
    obtain ⟨u, hnode, rfl, rfl⟩ := h
    exact ⟨_, Nat.succ_le_succ hle, Nat.le_succ _, bind_eq_ok.2 ⟨u, checkNode_mono hle hnode, rfl⟩⟩
  | .bool b, _, _, _, _, _, hle, h => by
    simp only [freezeValue, bind_eq_ok, pure_ok, Prod.mk.injEq] at h
    obtain ⟨u, hnode, rfl, rfl⟩ := h
    exact ⟨_, Nat.succ_le_succ hle, Nat.le_succ _, bind_eq_ok.2 ⟨u, checkNode_mono hle hnode, rfl⟩⟩
  | .int i, _, _, _, _, _, hle, h => by
    simp only [freezeValue, bind_eq_ok, ite_error_ok, ↓throw_bind, pure_ok, Prod.mk.injEq] at h
    obtain ⟨u, hnode, hsafe, rfl, rfl⟩ := h
    exact ⟨_, Nat.succ_le_succ hle, Nat.le_succ _, bind_eq_ok.2 ⟨u, checkNode_mono hle hnode, if_neg hsafe⟩⟩
  | .float Option.none, _, _, _, _, _, _, h => by
    simp only [freezeValue, bind_eq_ok, throw_ok, and_false, exists_false] at h
  | .float (some r), _, _, _, _, _, hle, h => by
    simp only [freezeValue, bind_eq_ok, ite_error_ok, ↓throw_bind, pure_ok, Prod.mk.injEq] at h
    obtain ⟨u, hnode, hsafe, rfl, rfl⟩ := h
    exact ⟨_, Nat.succ_le_succ hle, Nat.le_succ _, bind_eq_ok.2 ⟨u, checkNode_mono hle hnode, if_neg hsafe⟩⟩
  | .str t, _, _, _, _, _, hle, h => by
    simp only [freezeValue, bind_eq_ok, pure_ok, Prod.mk.injEq] at h
    obtain ⟨u, hnode, s, hs, rfl, rfl⟩ := h
    exact ⟨_, Nat.succ_le_succ hle, Nat.le_succ _, bind_eq_ok.2 ⟨u, checkNode_mono hle hnode, bind_eq_ok.2 ⟨s, hs, rfl⟩⟩⟩
  | .list items, _, _, _, _, _, hle, h => by
    simp only [freezeValue, bind_eq_ok, pure_ok, Prod.mk.injEq, Prod.exists] at h
    obtain ⟨u, hnode, u', hlength, js, n, hitems, rfl, rfl⟩ := h
    obtain ⟨n', hn', hcount, hitems'⟩ := freezeItems_mono items (Nat.succ_le_succ hle) hitems
    exact ⟨n', hn', Nat.le_of_succ_le hcount, bind_eq_ok.2 ⟨u, checkNode_mono hle hnode,
      bind_eq_ok.2 ⟨u', hlength, bind_eq_ok.2 ⟨(js, n'), hitems', rfl⟩⟩⟩⟩
  | .tuple items, _, _, _, _, _, hle, h => by
    simp only [freezeValue, bind_eq_ok, pure_ok, Prod.mk.injEq, Prod.exists] at h
    obtain ⟨u, hnode, u', hlength, js, n, hitems, rfl, rfl⟩ := h
    obtain ⟨n', hn', hcount, hitems'⟩ := freezeItems_mono items (Nat.succ_le_succ hle) hitems
    exact ⟨n', hn', Nat.le_of_succ_le hcount, bind_eq_ok.2 ⟨u, checkNode_mono hle hnode,
      bind_eq_ok.2 ⟨u', hlength, bind_eq_ok.2 ⟨(js, n'), hitems', rfl⟩⟩⟩⟩
  | .dict entries, _, _, _, _, _, hle, h => by
    simp only [freezeValue, bind_eq_ok, pure_ok, Prod.mk.injEq, Prod.exists] at h
    obtain ⟨u, hnode, u', hlength, es, n, hentries, rfl, rfl⟩ := h
    obtain ⟨n', hn', hcount, hentries'⟩ := freezeEntries_mono entries (Nat.succ_le_succ hle) hentries
    exact ⟨n', hn', Nat.le_of_succ_le hcount, bind_eq_ok.2 ⟨u, checkNode_mono hle hnode,
      bind_eq_ok.2 ⟨u', hlength, bind_eq_ok.2 ⟨(es, n'), hentries', rfl⟩⟩⟩⟩
  | .bytes _, _, _, _, _, _, _, h | .set _, _, _, _, _, _, _, h | .enum _, _, _, _, _, _, _, h
  | .path _, _, _, _, _, _, _, h | .dataclass _ _, _, _, _, _, _, _, h | .other _, _, _, _, _, _, _, h => by
    simp only [freezeValue, bind_eq_ok, throw_ok, and_false, exists_false] at h

theorem freezeItems_mono : ∀ (items : List PyValue) {depth count count' n : Nat} {js : List Json}, count' ≤ count →
    freezeItems field depth count items = .ok (js, n) →
      ∃ n' ≤ n, count' ≤ n' ∧ freezeItems field depth count' items = .ok (js, n')
  | [], _, _, _, _, _, hle, h => by
    simp only [freezeItems, pure_ok, Prod.mk.injEq] at h
    obtain ⟨rfl, rfl⟩ := h
    exact ⟨_, hle, le_rfl, rfl⟩
  | v :: vs, _, _, _, _, _, hle, h => by
    simp only [freezeItems, bind_eq_ok, pure_ok, Prod.mk.injEq, Prod.exists] at h
    obtain ⟨j, _, hv, js, _, hvs, rfl, rfl⟩ := h
    obtain ⟨m, hm, hcount, hv'⟩ := freezeValue_mono v hle hv
    obtain ⟨n', hn', hcount', hvs'⟩ := freezeItems_mono vs hm hvs
    exact ⟨n', hn', hcount.trans hcount', bind_eq_ok.2 ⟨(j, m), hv', bind_eq_ok.2 ⟨(js, n'), hvs', rfl⟩⟩⟩

theorem freezeEntries_mono : ∀ (entries : List (PyValue × PyValue)) {depth count count' n : Nat}
    {seen : List String} {es : List (String × Json)}, count' ≤ count →
    freezeEntries field depth count seen entries = .ok (es, n) →
      ∃ n' ≤ n, count' ≤ n' ∧ freezeEntries field depth count' seen entries = .ok (es, n')
  | [], _, _, _, _, _, _, hle, h => by
    simp only [freezeEntries, pure_ok, Prod.mk.injEq] at h
    obtain ⟨rfl, rfl⟩ := h
    exact ⟨_, hle, le_rfl, rfl⟩
  | (k, v) :: rest, _, _, _, _, _, _, hle, h => by
    rw [freezeEntries] at h
    split at h
    · simp only [throw_ok] at h
    · rename_i t hkey
      simp only [bind_eq_ok, ite_error_ok, ↓throw_bind, pure_ok, Prod.mk.injEq, Prod.exists] at h
      obtain ⟨key, hcheck, hfresh, j, _, hv, es, _, hrest, rfl, rfl⟩ := h
      obtain ⟨m, hm, hcount, hv'⟩ := freezeValue_mono v hle hv
      obtain ⟨n', hn', hcount', hrest'⟩ := freezeEntries_mono rest hm hrest
      refine ⟨n', hn', hcount.trans hcount', ?_⟩
      simp only [freezeEntries, hkey, hcheck, ok_bind, if_neg hfresh, hv', hrest']
      rfl

end

theorem freezeEntries_sublist {entries entries' : List (PyValue × PyValue)} (hsub : entries'.Sublist entries)
    {depth count count' n : Nat} {seen seen' : List String} {es : List (String × Json)} (hle : count' ≤ count)
    (hseen : ∀ k ∈ seen', k ∈ seen) (h : freezeEntries field depth count seen entries = .ok (es, n)) :
    ∃ r, freezeEntries field depth count' seen' entries' = .ok r := by
  induction hsub generalizing count count' n seen seen' es with
  | slnil => exact ⟨_, rfl⟩
  | @cons entries' entries e _ ih =>
    obtain ⟨k, v⟩ := e
    rw [freezeEntries] at h
    split at h
    · simp only [throw_ok] at h
    · simp only [bind_eq_ok, ite_error_ok, ↓throw_bind, pure_ok, Prod.mk.injEq, Prod.exists] at h
      obtain ⟨key, -, -, j, m, hv, es, _, hrest, -, -⟩ := h
      obtain ⟨m', hm', hcount, -⟩ := freezeValue_mono v le_rfl hv
      exact ih (hle.trans (hcount.trans hm')) (fun k hk => List.mem_cons_of_mem _ (hseen k hk)) hrest
  | @cons_cons entries' entries e _ ih =>
    obtain ⟨k, v⟩ := e
    rw [freezeEntries] at h
    split at h
    · simp only [throw_ok] at h
    · rename_i t hkey
      simp only [bind_eq_ok, ite_error_ok, ↓throw_bind, pure_ok, Prod.mk.injEq, Prod.exists] at h
      obtain ⟨key, hcheck, hfresh, j, m, hv, es, _, hrest, -, -⟩ := h
      obtain ⟨m', hm', -, hv'⟩ := freezeValue_mono v hle hv
      have hseen' : ∀ k ∈ key :: seen', k ∈ key :: seen := by
        intro k hk
        rcases List.mem_cons.1 hk with rfl | hk
        · exact List.mem_cons_self
        · exact List.mem_cons_of_mem _ (hseen k hk)
      obtain ⟨r, hr⟩ := ih hm' hseen' hrest
      refine ⟨((key, j) :: r.1, r.2), ?_⟩
      simp only [freezeEntries, hkey, hcheck, ok_bind, if_neg fun hk => hfresh (hseen key hk), hv', hr]
      rfl

/-- What some entries of a mapping say under a name. -/
theorem pyEntriesMeaning_sublist {entries entries' : List (PyValue × PyValue)} (hsub : entries'.Sublist entries)
    (hkeys : (entries.map fun e => e.1.keyText).Nodup) (name : String) :
    pyEntriesMeaning entries' name =
      if some (.valid name) ∈ entries'.map (fun e => e.1.keyText) then pyEntriesMeaning entries name else none := by
  induction hsub with
  | slnil => simp [pyEntriesMeaning]
  | @cons entries' entries e hsub ih =>
    obtain ⟨k, v⟩ := e
    rw [List.map_cons, List.nodup_cons] at hkeys
    rw [ih hkeys.2, pyEntriesMeaning]
    split_ifs with hname hk
    · exact absurd (hk ▸ (hsub.map fun e => e.1.keyText).subset hname) hkeys.1
    · rfl
    · rfl
  | @cons_cons entries' entries e hsub ih =>
    obtain ⟨k, v⟩ := e
    rw [List.map_cons, List.nodup_cons] at hkeys
    rw [pyEntriesMeaning, pyEntriesMeaning, ih hkeys.2, List.map_cons]
    by_cases hk : k.keyText = some (.valid name)
    · simp [hk]
    · have hk' : some (Text.valid name) ≠ k.keyText := Ne.symm hk
      simp only [hk, if_false, List.mem_cons, hk', false_or]

def operationFields : List String :=
  ["protocol", "origin", "target", "operation_id", "target_operation_id", "conversation_id", "performative",
    "subject", "exact_subject", "payload", "authority_claim_ref", "constraints", "prohibited_effects",
    "idempotency_key", "effect_class", "capabilities", "provenance"]

theorem operationEntries_sublist (m : IntranelMessage) : m.operationEntries.Sublist m.entries :=
  .cons_cons _ <| .cons_cons _ <| .cons _ <| .cons_cons _ <| .cons _ <| .cons _ <| .cons_cons _ <|
    .cons_cons _ <| .cons _ <| .cons_cons _ <| .cons_cons _ <| .cons_cons _ <| .cons_cons _ <| .cons_cons _ <|
    .cons_cons _ <| .cons_cons _ <| .cons_cons _ <| .cons _ <| .cons _ <|
    .cons _ <| .cons _ <| .cons_cons _ <| .cons _ <| .cons_cons _ <| .cons _ <| .cons _ <| .cons _ <| .cons _ <|
    .cons_cons _ <| .cons_cons _ .slnil

theorem operationEntries_meaning (m : IntranelMessage) (name : String) :
    pyEntriesMeaning m.operationEntries name =
      if name ∈ operationFields then pyEntriesMeaning m.entries name else none := by
  have hkeys : (m.entries.map fun e => e.1.keyText).Nodup := by
    change (["protocol", "origin", "actor", "target", "reply_to", "message_id", "operation_id",
      "target_operation_id", "parent_message_id", "conversation_id", "performative", "subject", "exact_subject",
      "payload", "authority_claim_ref", "constraints", "prohibited_effects", "expected_response", "ack_required",
      "observed_at", "expires_at", "idempotency_key", "priority", "effect_class", "status", "error", "receipt",
      "security_profile", "capabilities", "provenance"].map fun k => some (Text.valid k)).Nodup
    exact List.Nodup.map (fun a b h => Text.valid.inj (Option.some.inj h)) (by decide)
  have hnames : m.operationEntries.map (fun e => e.1.keyText) = operationFields.map fun k => some (.valid k) := rfl
  rw [pyEntriesMeaning_sublist (operationEntries_sublist m) hkeys, hnames]
  simp

/-- Two messages say the same under every name of a field of an operation. -/
def SameOperation (m m' : IntranelMessage) : Prop :=
  ∀ name ∈ operationFields, pyEntriesMeaning m.entries name = pyEntriesMeaning m'.entries name

theorem operationBytes_ok {m : IntranelMessage} (h : m.WellFormed rt) :
    ∃ bytes, canonicalJsonBytes (.dict m.operationEntries) = .ok bytes := by
  obtain ⟨bytes, hbytes, -⟩ := bind_eq_ok.1 h.size
  obtain ⟨j, hj, -⟩ := map_eq_ok.1 hbytes
  obtain ⟨⟨_, n⟩, hv, -⟩ := map_eq_ok.1 hj
  rw [IntranelMessage.toMapping] at hv
  simp only [freezeValue, bind_eq_ok, pure_ok, Prod.mk.injEq, Prod.exists] at hv
  obtain ⟨u, hnode, _, -, es, _, hentries, -, -⟩ := hv
  obtain ⟨r, hr⟩ := freezeEntries_sublist (operationEntries_sublist m) le_rfl (fun k hk => hk) hentries
  refine ⟨_, map_eq_ok.2 ⟨.obj r.1, map_eq_ok.2 ⟨(.obj r.1, r.2), ?_, rfl⟩, rfl⟩⟩
  simp only [freezeValue, hnode, ok_bind, hr]
  rfl

/-- Intranel admission. What is allowed is bound and checked; a weaker check never allows more; and
the digest of an operation is that of another just when the two agree on every field of it. -/
theorem intranel_admission (rt : IntranelRuntime) (hsha : Function.Injective rt.sha256) :
    (∀ m e prior cancellation, admitMessage rt m e prior cancellation = .ok .allow →
      BoundTo rt m e ∧ Checked m e ∧ Cancellable m cancellation) ∧
    (∀ m e e' prior cancellation, Weaker e e' → admitMessage rt m e prior cancellation ≠ .ok .allow →
      admitMessage rt m e' prior cancellation ≠ .ok .allow) ∧
    ∀ args args' m m', construct rt args = .ok m → construct rt args' = .ok m' →
      ∃ d d', m.operationDigest rt = .ok d ∧ m'.operationDigest rt = .ok d' ∧ (d = d' ↔ SameOperation m m') := by
  refine ⟨fun m e prior cancellation h => admit_sound h, ?_, fun args args' m m' h h' => ?_⟩
  · exact fun m e e' prior cancellation hw hnot h => hnot (admit_weaker hw h)
  · obtain ⟨bytes, hbytes⟩ := operationBytes_ok (construct_ok h).1
    obtain ⟨bytes', hbytes'⟩ := operationBytes_ok (construct_ok h').1
    refine ⟨_, _, map_eq_ok.2 ⟨bytes, hbytes, rfl⟩, map_eq_ok.2 ⟨bytes', hbytes', rfl⟩, ?_⟩
    rw [hsha.eq_iff, canonicalJsonBytes_eq_iff hbytes hbytes']
    constructor
    · intro hsame name hname
      have h := congrFun (Datum.obj.inj hsame) name
      rwa [operationEntries_meaning, operationEntries_meaning, if_pos hname, if_pos hname] at h
    · intro hsame
      refine congrArg Datum.obj (funext fun name => ?_)
      rw [operationEntries_meaning, operationEntries_meaning]
      split_ifs with hname
      · exact hsame name hname
      · rfl

/-- A query and itself. -/
theorem intranel_admission_query : ∃ d d', (queryWith []).operationDigest quietRuntime = .ok d ∧
    (queryWith []).operationDigest quietRuntime = .ok d' ∧ (d = d' ↔ SameOperation (queryWith []) (queryWith [])) :=
  (intranel_admission quietRuntime plainDigest_injective).2.2 _ _ _ _
    (construct_queryWith rfl (by decide +kernel)) (construct_queryWith rfl (by decide +kernel))

end Intranel

end VeraMono

import VeraMono.Model.OutboundTrust

/-!
# The law of the outbound trust registry

Every mutation that commits appends one event, and the verifier's check of that event against the
table as it was gives the table as it is: `Appended`. The table is therefore the fold of the log,
and the verifier, which replays the log with the same check, finds the table it compares with. A
caller that expects `True` where the epoch is 1 has its value stored, and the chain verifies no
more (`flagged_epoch_breaks`); `trust_law` is about the other calls.
-/

namespace VeraMono

open Framework OutboundTrustRegistry

variable {D : Type}

/-! ## Scopes -/

section
variable {role role' scope : String} {providerId providerId' : Option String}

theorem scopeKey_ok (h : scopeKey role providerId = .ok scope) :
    (role = "PROVIDER" ∧ ∃ provider, providerId = some provider ∧ scope = "PROVIDER:" ++ provider) ∨
      (role ∈ ["PC", "RECONCILIATION"] ∧ providerId = none ∧ scope = role) := by
  simp only [scopeKey, text, bind_eq_ok, requireText_ok, ite_error_ok, ↓throw_bind, not_not] at h
  obtain ⟨_, ⟨-, rfl⟩, hrole, h⟩ := h
  split at h
  · rename_i hp
    simp only [bind_eq_ok, requireText_ok, pure_ok] at h
    obtain ⟨_, ⟨hne, rfl⟩, rfl⟩ := h
    subst hp
    cases providerId with
    | none => exact absurd rfl hne
    | some provider => exact .inl ⟨rfl, provider, rfl, rfl⟩
  · rename_i hp
    simp only [ite_error_ok, pure_ok] at h
    obtain ⟨hnone, rfl⟩ := h
    refine .inr ⟨by simpa [hp] using hrole, ?_, rfl⟩
    simpa using hnone

theorem scopeKey_inj (h : scopeKey role providerId = .ok scope)
    (h' : scopeKey role' providerId' = .ok scope) : role' = role ∧ providerId' = providerId := by
  have hcolon (a b : String) (hb : b ∈ ["PC", "RECONCILIATION"]) (heq : "PROVIDER:" ++ a = b) : False := by
    have htext := congrArg String.toList heq
    simp only [List.mem_cons, List.not_mem_nil, or_false] at hb
    rcases hb with rfl | rfl <;> simp at htext
  rcases scopeKey_ok h with ⟨rfl, p, rfl, rfl⟩ | ⟨hr, rfl, rfl⟩ <;>
    rcases scopeKey_ok h' with ⟨rfl, p', rfl, hp⟩ | ⟨hr', rfl, hp⟩
  · rw [(String.append_right_inj "PROVIDER:").1 hp]
    exact ⟨rfl, rfl⟩
  · exact (hcolon p role' hr' hp).elim
  · exact (hcolon p' scope hr hp.symm).elim
  · exact ⟨hp.symm, rfl⟩

end

/-! ## What the verifier checks -/

variable [DecidableEq D] {H : TrustHashing D} {s s' : TrustRegistry D} {event : TrustEvent D}
  {projection projection' : TrustTable D} {log log' : ChainLog (TrustEvent D) D} {scope : String}
  {row : TrustAuthority D} {args : TrustArgs D}

/-- An event the verifier accepts after a projection. -/
structure Admissible (projection : TrustTable D) (event : TrustEvent D) : Prop where
  bound : scopeKey event.payload.role event.payload.providerId = .ok event.scopeKey
  authority : event.payload.authorityId ≠ ""
  key : event.payload.keyId ≠ ""
  generation : 1 ≤ event.payload.authorityGeneration
  plain : event.epochFlag = false
  transition : checkTransition ((projection.get? event.scopeKey).map TrustAuthority.state) event = .ok ()

theorem checkEvent_ok : OutboundTrustRegistry.checkEvent projection event = .ok projection' ↔
    Admissible projection event ∧ projection' = project projection event := by
  simp only [OutboundTrustRegistry.checkEvent, text, bind_eq_ok, requireText_ok, ite_error_ok, ↓throw_bind, pure_ok, not_not,
    not_lt, Bool.not_eq_true]
  constructor
  · rintro ⟨_, hscope, rfl, _, ⟨ha, -⟩, _, ⟨hk, -⟩, hg, hp, ⟨⟩, ht, rfl⟩
    exact ⟨⟨hscope, ha, hk, hg, hp, ht⟩, rfl⟩
  · rintro ⟨⟨hscope, ha, hk, hg, hp, ht⟩, rfl⟩
    exact ⟨_, hscope, rfl, _, ⟨ha, rfl⟩, _, ⟨hk, rfl⟩, hg, hp, (), ht, rfl⟩

/-- Both counters of a scope as they were and as they are later. -/
structure Advances (old new : AuthorityTrustState D) : Prop where
  generation : old.authorityGeneration ≤ new.authorityGeneration
  epoch : old.revocationEpoch ≤ new.revocationEpoch

omit [DecidableEq D] in
theorem Advances.refl (state : AuthorityTrustState D) : Advances state state := ⟨le_rfl, le_rfl⟩

omit [DecidableEq D] in
theorem Advances.trans {a b c : AuthorityTrustState D} (h : Advances a b) (h' : Advances b c) :
    Advances a c := ⟨h.generation.trans h'.generation, h.epoch.trans h'.epoch⟩

/-- The counters of a scope, one of which has moved. -/
structure StrictlyAdvances (old new : AuthorityTrustState D) : Prop extends Advances old new where
  strict : old.authorityGeneration < new.authorityGeneration ∨ old.revocationEpoch < new.revocationEpoch

theorem checkTransition_enabled {prior : Option (AuthorityTrustState D)}
    (h : checkTransition prior event = .ok ()) :
    event.payload.enabled = true ↔ event.eventType ≠ .revoke := by
  cases ht : event.eventType <;> cases prior <;>
    simp only [checkTransition, ht, ite_error_ok, not_or, not_not, reduceCtorEq] at h <;> simp [h]

theorem checkTransition_advances {prior : AuthorityTrustState D}
    (h : checkTransition (some prior) event = .ok ()) : StrictlyAdvances prior event.payload := by
  cases ht : event.eventType <;>
    simp only [checkTransition, ht, ite_error_ok, not_or, not_not, Option.isSome_some, not_true_eq_false, false_and] at h
  · exact ⟨⟨by omega, by omega⟩, .inl (by omega)⟩
  · exact ⟨⟨by omega, by omega⟩, .inr (by omega)⟩
  · exact ⟨⟨by omega, by omega⟩, .inl (by omega)⟩

/-! ## Projections -/

omit [DecidableEq D] in
theorem project_self : (project projection event).get? event.scopeKey =
    some ⟨event.scopeKey, event.payload⟩ :=
  Table.get?_upsert_self (v := (⟨event.scopeKey, event.payload⟩ : TrustAuthority D))

omit [DecidableEq D] in
theorem project_other (h : scope ≠ event.scopeKey) :
    (project projection event).get? scope = projection.get? scope :=
  Table.get?_upsert_other (v := (⟨event.scopeKey, event.payload⟩ : TrustAuthority D)) h

omit [DecidableEq D] in
theorem project_insert (h : projection.get? event.scopeKey = none) :
    project projection event = projection.insert ⟨event.scopeKey, event.payload⟩ := by
  rw [project, Table.upsert]
  exact if_pos h

omit [DecidableEq D] in
theorem project_update (h : projection.get? event.scopeKey = some row) :
    project projection event = projection.update ⟨event.scopeKey, event.payload⟩ := by
  rw [project, Table.upsert]
  refine if_neg ?_
  rw [h]
  exact Option.some_ne_none row

theorem sameProjection_self (projection : TrustTable D) : sameProjection projection projection = true := by
  have hall : (projection.rows.all fun row => projection.get? row.scopeKey = some row) = true := by
    rw [List.all_eq_true]
    intro row hrow
    rw [decide_eq_true_eq]
    exact Table.get?_of_mem hrow
  rw [sameProjection, hall, Bool.and_self]

/-! ## One mutation -/

theorem checkSafe_ok {integers : List Nat} :
    checkSafe integers = .ok () ↔ ∀ n ∈ integers, n ≤ maxSafeInteger := by
  rw [checkSafe]
  split
  · rename_i h
    obtain ⟨n, hn, hlt⟩ := h
    refine ⟨fun h => (by cases h), fun h => absurd (h n hn) (Nat.not_le.2 hlt)⟩
  · rename_i h
    simp only [not_exists, not_and, not_lt] at h
    exact ⟨fun _ => h, fun _ => rfl⟩

omit [DecidableEq D] in
def SafeIntegers (n : Nat) (event : TrustEvent D) : Prop :=
  checkSafe [n, event.payload.authorityGeneration, event.payload.revocationEpoch] = .ok ()

theorem appendEvent_ok (h : appendEvent H event log = .ok log') :
    log' = (trustChain H).extend log event ∧ SafeIntegers (log.sequence + 1) event := by
  simp only [appendEvent, OutboundTrustRegistry.eventDigest, bind_eq_ok, ite_error_ok, ↓throw_bind, pure_ok] at h
  obtain ⟨_, ⟨⟨⟩, hsafe, rfl⟩, -, -, rfl⟩ := h
  exact ⟨rfl, hsafe⟩

variable (H) in
/-- What a mutation that committed did. -/
structure Appended (s : TrustRegistry D) (event : TrustEvent D) (s' : TrustRegistry D) : Prop where
  log : s'.log = (trustChain H).extend s.log event
  safe : SafeIntegers (s.log.sequence + 1) event
  admissible : Admissible s.authorities event
  table : s'.authorities = project s.authorities event

def lastEvent (s : TrustRegistry D) (scope : String) : Option (TrustEvent D) :=
  ((s.log.entries.map fun e => e.body).filter fun e => e.scopeKey = scope).getLast?

variable (H) in
/-- What every mutation keeps of the registry. -/
structure TrustInv (s : TrustRegistry D) : Prop where
  linked : (trustChain H).Linked 0 H.genesisHead s.log.entries s.log.sequence s.log.head
  counted : s.log.sequence ≤ maxSafeInteger
  safe : ∀ e ∈ s.log.entries, SafeIntegers e.sequence e.body
  replayed : (s.log.entries.map fun e => e.body).foldlM OutboundTrustRegistry.checkEvent .empty = .ok s.authorities
  table : s.authorities = (s.log.entries.map fun e => e.body).foldl project .empty
  last : ∀ scope, s.authorities.get? scope =
    (lastEvent s scope).map fun e => ⟨e.scopeKey, e.payload⟩
  events : ∀ e ∈ s.log.entries, ∃ before : TrustTable D, Admissible before e.body

theorem trustInv_new : TrustInv H (new H) :=
  ⟨⟨rfl, rfl⟩, Nat.zero_le _, fun _ h => (by cases h), rfl, rfl, fun _ => rfl, fun _ h => (by cases h)⟩

theorem Appended.bodies (ha : Appended H s event s') : (s'.log.entries.map fun e => e.body) =
    (s.log.entries.map fun e => e.body) ++ [event] := by
  rw [ha.log, Chaining.extend, List.map_append]
  rfl

namespace TrustInv

theorem append (hi : TrustInv H s) (ha : Appended H s event s') : TrustInv H s' := by
  have hmem {e : Entry (TrustEvent D) D} (he : e ∈ s'.log.entries) :
      e ∈ s.log.entries ∨ e.sequence = s.log.sequence + 1 ∧ e.body = event := by
    rw [ha.log, Chaining.extend, List.mem_append, List.mem_singleton] at he
    exact he.imp_right fun heq => by rw [heq]; exact ⟨rfl, rfl⟩
  constructor
  · rw [ha.log]
    exact hi.linked.snoc event
  · rw [ha.log]
    exact checkSafe_ok.1 ha.safe _ List.mem_cons_self
  · intro e he
    rcases hmem he with he | ⟨hseq, hbody⟩
    · exact hi.safe e he
    · rw [hseq, hbody]
      exact ha.safe
  · rw [ha.bodies, List.foldlM_append, hi.replayed, ha.table]
    change (OutboundTrustRegistry.checkEvent s.authorities event >>= fun t => pure t) = _
    rw [checkEvent_ok.2 ⟨ha.admissible, rfl⟩]
    rfl
  · rw [ha.bodies, List.foldl_append, ← hi.table, ha.table]
    rfl
  · intro scope
    rw [lastEvent, ha.bodies, List.filter_append, ha.table]
    by_cases hs : event.scopeKey = scope
    · subst hs
      rw [project_self]
      simp
    · rw [project_other (Ne.symm hs), hi.last scope, lastEvent]
      simp [hs]
  · intro e he
    rcases hmem he with he | ⟨-, hbody⟩
    · exact hi.events e he
    · exact ⟨s.authorities, hbody ▸ ha.admissible⟩

/-! ### Verification -/

theorem replay_ok {n n' : Nat} {d d' : D} {es : List (Entry (TrustEvent D) D)}
    (hl : (trustChain H).Linked n d es n' d') (hsafe : ∀ e ∈ es, SafeIntegers e.sequence e.body)
    (hf : (es.map fun e => e.body).foldlM OutboundTrustRegistry.checkEvent projection = .ok projection') :
    replay H n d projection es = .ok (n', d', projection') := by
  induction es generalizing n d projection with
  | nil =>
    obtain ⟨rfl, rfl⟩ := hl
    cases hf
    rfl
  | cons e es ih =>
    obtain ⟨he, hl⟩ := hl
    rw [List.map_cons, List.foldlM_cons, bind_eq_ok] at hf
    obtain ⟨next, hcheck, hf⟩ := hf
    have hseq : e.sequence = n + 1 := by rw [he]
    have hpred : e.predecessor = d := by rw [he]
    have hdigest : H.sha256 (.event (n + 1) d e.body) = e.digest := by
      rw [he]
      rfl
    have hsafe' : SafeIntegers (n + 1) e.body := hseq ▸ hsafe e List.mem_cons_self
    simp only [replay, hseq, hpred, bind_eq_ok, ite_error_ok, ↓throw_bind, OutboundTrustRegistry.eventDigest, pure_ok]
    exact ⟨fun h => h rfl, fun h => h rfl, _, ⟨(), hsafe', rfl⟩, fun h => h hdigest, next, hcheck,
      hdigest ▸ ih hl (fun e' he' => hsafe e' (List.mem_cons_of_mem _ he')) hf⟩

theorem verifyChain (hi : TrustInv H s) : verifyChain H s = .ok s.log.head := by
  rw [OutboundTrustRegistry.verifyChain, replay_ok hi.linked hi.safe hi.replayed]
  simp only [bind_eq_ok, ite_error_ok, ↓throw_bind, pure_ok, Except.ok.injEq, Prod.exists, Prod.mk.injEq]
  exact ⟨_, _, _, ⟨rfl, rfl, rfl⟩, fun h => h rfl, fun h => h rfl,
    fun h => h (sameProjection_self s.authorities), trivial⟩

/-! ### The row of a scope -/

omit [DecidableEq D] in
theorem mem_of_lastEvent (h : lastEvent s scope = some event) :
    ∃ e ∈ s.log.entries, e.body = event ∧ event.scopeKey = scope := by
  obtain ⟨hmem, hs⟩ := List.mem_filter.1 (List.mem_of_getLast? h)
  obtain ⟨e, he, rfl⟩ := List.mem_map.1 hmem
  exact ⟨e, he, rfl, by simpa using hs⟩

theorem row_eq (hi : TrustInv H s) (hrow : s.authorities.get? scope = some row) :
    ∃ e ∈ s.log.entries, lastEvent s scope = some e.body ∧ row = ⟨scope, e.body.payload⟩ ∧
      ∃ before : TrustTable D, Admissible before e.body := by
  rw [hi.last scope, Option.map_eq_some_iff] at hrow
  obtain ⟨event, hlast, rfl⟩ := hrow
  obtain ⟨e, he, rfl, hs⟩ := mem_of_lastEvent hlast
  exact ⟨e, he, hlast, by rw [hs], hi.events e he⟩

theorem row_bound (hi : TrustInv H s) {role : String} {providerId : Option String}
    (hscope : scopeKey role providerId = .ok scope) (hrow : s.authorities.get? scope = some row) :
    row.state.role = role ∧ row.state.providerId = providerId ∧ row.state.keyId ≠ "" ∧
      1 ≤ row.state.authorityGeneration := by
  obtain ⟨e, -, hlast, rfl, before, ha⟩ := hi.row_eq hrow
  obtain ⟨-, -, -, hs⟩ := mem_of_lastEvent hlast
  obtain ⟨hr, hp⟩ := scopeKey_inj hscope (hs ▸ ha.bound)
  exact ⟨hr, hp, ha.key, ha.generation⟩

end TrustInv

/-- The verifier key and authority of a call are those of the last event of its scope,
which is not a revocation. -/
def Current (s : TrustRegistry D) (args : TrustArgs D) : Prop :=
  ∃ scope keyDigest event, scopeKey args.role args.providerId = .ok scope ∧
    requireKeyDigest args.keyDigest = .ok keyDigest ∧ lastEvent s scope = some event ∧
    event.eventType ≠ .revoke ∧ event.payload.authorityId = args.authorityId ∧
    event.payload.keyId = args.keyId ∧ event.payload.keyDigest = keyDigest

theorem TrustInv.assertCurrent_iff (hi : TrustInv H s) :
    (∃ receipt, assertCurrent H args s = .ok receipt) ↔ Current s args := by
  constructor
  · rintro ⟨receipt, h⟩
    simp only [assertCurrent, text, bind_eq_ok, requireText_ok] at h
    obtain ⟨_, -, scope, hscope, _, ⟨-, rfl⟩, _, ⟨-, rfl⟩, keyDigest, hdigest, h⟩ := h
    cases hrow : s.authorities.get? scope with
    | none =>
      rw [hrow] at h
      cases h
    | some row =>
      simp only [hrow, bind_eq_ok, ite_error_ok, ↓throw_bind, not_not, not_or] at h
      obtain ⟨henabled, hauth, hkey, -⟩ := h
      obtain ⟨e, -, hlast, rfl, before, ha⟩ := hi.row_eq hrow
      exact ⟨scope, keyDigest, e.body, hscope, hdigest, hlast,
        (checkTransition_enabled ha.transition).1 henabled, hauth, hkey.1, hkey.2⟩
  · rintro ⟨scope, keyDigest, event, hscope, hdigest, hlast, htype, hauth, hkey, hkd⟩
    have hrow : s.authorities.get? scope = some ⟨event.scopeKey, event.payload⟩ := by
      rw [hi.last scope, hlast, Option.map_some]
    obtain ⟨e, he, rfl, -⟩ := TrustInv.mem_of_lastEvent hlast
    obtain ⟨before, ha⟩ := hi.events e he
    have hfit := checkSafe_ok.1 (hi.safe e he)
    have hsafe : checkSafe [e.body.payload.authorityGeneration, e.body.payload.revocationEpoch,
        s.log.sequence] = .ok () := by
      simp only [checkSafe_ok, List.forall_mem_cons, List.not_mem_nil, false_implies, implies_true,
        and_true] at hfit ⊢
      exact ⟨hfit.2.1, hfit.2.2, hi.counted⟩
    have htext (value label : String) (hne : value ≠ "") : text value label = .ok value :=
      requireText_ok.2 ⟨hne, rfl⟩
    rw [assertCurrent, hi.verifyChain, hscope, htext _ _ (hauth ▸ ha.authority),
      htext _ _ (hkey ▸ ha.key), hdigest]
    simp only [ok_bind, hrow, (checkTransition_enabled ha.transition).2 htype, hauth, hkey, hkd, hsafe,
      ne_eq, not_true_eq_false, or_self, if_false]
    exact ⟨_, rfl⟩

/-! ## The four mutations -/

variable (H) in
/-- What `register`, `rotate` and `reactivate` leave to assert: the event that makes
the key of the call current. -/
structure Installs (args : TrustArgs D) (s : TrustRegistry D) (keyDigest : D) (event : TrustEvent D)
    (s' : TrustRegistry D) : Prop where
  appended : Appended H s event s'
  scope : scopeKey args.role args.providerId = .ok event.scopeKey
  eventType : event.eventType ≠ .revoke
  authority : event.payload.authorityId = args.authorityId
  key : event.payload.keyId = args.keyId
  digest : event.payload.keyDigest = keyDigest

theorem Appended.of_append (h : appendEvent H event s.log = .ok log') (hadm : Admissible s.authorities event)
    {table : TrustTable D} (ht : table = project s.authorities event) : Appended H s event ⟨log', table⟩ :=
  ⟨(appendEvent_ok h).1, (appendEvent_ok h).2, hadm, ht⟩

theorem registerTxn_ok {generation : Int} {d : D} (h : registerTxn H args generation s = .ok (d, s')) :
    ∃ event, Installs H args s d event s' := by
  simp only [registerTxn, text, bind_eq_ok, requireText_ok, ite_error_ok, ↓throw_bind, pure_ok] at h
  obtain ⟨scope, hscope, _, ⟨hauth, rfl⟩, _, ⟨hkey, rfl⟩, keyDigest, -, -, -, hnone, log, hlog, h⟩ := h
  cases h
  rw [Bool.not_eq_true, Option.isSome_eq_false_iff, Option.isNone_iff_eq_none] at hnone
  refine ⟨_, .of_append hlog ⟨hscope, hauth, hkey, le_rfl, rfl, ?_⟩ ?_, hscope, by simp, rfl, rfl, rfl⟩
  · simp [checkTransition, hnone]
  · rw [project_insert hnone]

theorem rotateTxn_ok {generation authority : Int} {d : D} (hi : TrustInv H s)
    (h : rotateTxn H args generation authority s = .ok (d, s')) : ∃ event, Installs H args s d event s' := by
  simp only [rotateTxn, text, bind_eq_ok, requireText_ok] at h
  obtain ⟨scope, hscope, _, ⟨hkey, rfl⟩, keyDigest, -, _, ⟨hauth, rfl⟩, -, -, h⟩ := h
  cases hrow : s.authorities.get? scope with
  | none =>
    rw [hrow] at h
    cases h
  | some row =>
    simp only [hrow, bind_eq_ok, ite_error_ok, ↓throw_bind, pure_ok, not_not] at h
    obtain ⟨hsame, -, henabled, hnew, log, hlog, h⟩ := h
    cases h
    obtain ⟨hrole, hprovider, -, -⟩ := hi.row_bound hscope hrow
    refine ⟨_, .of_append hlog ⟨hscope, hauth, hkey, Nat.le_add_left 1 _, rfl, ?_⟩ ?_, hscope, by simp, rfl,
      rfl, rfl⟩
    · simp only [checkTransition, hrow, Option.map_some, henabled, hsame, ne_eq, not_true_eq_false,
        if_false, false_or]
      exact if_neg fun h => hnew ⟨h.1.symm, h.2.symm⟩
    · rw [project_update hrow, ← hsame, ← hrole, ← hprovider, ← henabled]

theorem revokeTxn_ok {authorityId role : String} {providerId : Option String} {generation epoch : Int}
    {next : Nat} (hi : TrustInv H s)
    (h : revokeTxn H authorityId role providerId generation epoch s = .ok (next, s')) :
    ∃ event, Appended H s event s' ∧ scopeKey role providerId = .ok event.scopeKey := by
  simp only [revokeTxn, text, bind_eq_ok, requireText_ok] at h
  obtain ⟨scope, hscope, _, ⟨hauth, rfl⟩, -, -, h⟩ := h
  cases hrow : s.authorities.get? scope with
  | none =>
    rw [hrow] at h
    cases h
  | some row =>
    simp only [hrow, bind_eq_ok, ite_error_ok, ↓throw_bind, pure_ok, not_not] at h
    obtain ⟨hsame, -, henabled, log, hlog, h⟩ := h
    cases h
    obtain ⟨hrole, hprovider, hkey, hgen⟩ := hi.row_bound hscope hrow
    refine ⟨_, .of_append hlog ⟨hscope, hauth, hkey, hgen, rfl, ?_⟩ ?_, hscope⟩
    · simp [checkTransition, hrow, henabled, hsame]
    · rw [project_update hrow, ← hsame, ← hrole, ← hprovider]

/-- A reactivation that expects the stored epoch as a boolean, and meets every other expectation. -/
def OutboundTrustRegistry.TrustCall.Mistaken (s : TrustRegistry D) : TrustCall D → Prop
  | .reactivate args generation authority epoch =>
    epoch.isFlag = true ∧ (s.log.sequence : Int) = generation ∧ ∃ scope row,
      scopeKey args.role args.providerId = .ok scope ∧ s.authorities.get? scope = some row ∧
        row.state.enabled = false ∧ (row.state.authorityGeneration : Int) = authority ∧
        (row.state.revocationEpoch : Int) = epoch.value
  | _ => False

omit [DecidableEq D] in
theorem checkGeneration_ok {generation : Int} {u : Unit} (h : checkGeneration generation s = .ok u) :
    (s.log.sequence : Int) = generation := by
  rw [checkGeneration, ite_error_ok, not_not] at h
  exact h.1

theorem reactivateTxn_ok {generation authority : Int} {epoch : ExpectedEpoch} {d : D} (hi : TrustInv H s)
    (hplain : ¬ (TrustCall.reactivate args generation authority epoch).Mistaken s)
    (h : reactivateTxn H args generation authority epoch s = .ok (d, s')) :
    ∃ event, Installs H args s d event s' := by
  simp only [reactivateTxn, text, bind_eq_ok, requireText_ok] at h
  obtain ⟨scope, hscope, _, ⟨hauth, rfl⟩, _, ⟨hkey, rfl⟩, keyDigest, -, _, hsequence, h⟩ := h
  cases hrow : s.authorities.get? scope with
  | none =>
    rw [hrow] at h
    cases h
  | some row =>
    simp only [hrow, bind_eq_ok, ite_error_ok, ↓throw_bind, pure_ok, not_not] at h
    obtain ⟨hdisabled, hgen, hepoch, log, hlog, h⟩ := h
    cases h
    obtain ⟨hrole, hprovider, -, -⟩ := hi.row_bound hscope hrow
    refine ⟨_, .of_append hlog ⟨hscope, hauth, hkey, Nat.le_add_left 1 _, Bool.not_eq_true _ ▸ fun hflag =>
      hplain ⟨hflag, checkGeneration_ok hsequence, _, _, hscope, hrow, hdisabled, hgen, hepoch⟩, ?_⟩ ?_, hscope, by simp, rfl,
      rfl, rfl⟩
    · simp [checkTransition, hrow, hdisabled]
    · rw [project_update hrow, ← hrole, ← hprovider]

/-! ## Every call -/

variable (H) in
/-- A call raises and changes nothing, or it returns and has appended one event of its scope. -/
inductive CallOutcome (s : TrustRegistry D) (scope : Except Failure String) :
    Mutation D (TrustReply D) → Prop
  | raised (e : Failure) : CallOutcome s scope (.error e, s)
  | returned {event : TrustEvent D} {s' : TrustRegistry D} (reply : TrustReply D) :
      Appended H s event s' → scope = .ok event.scopeKey → CallOutcome s scope (.ok reply, s')

/-- What was just installed is current, so that asserting it does not raise. -/
theorem Installs.asserted {d : D} (hi : TrustInv H s) (h : Installs H args s d event s') :
    ∃ receipt, assertNew H args d s' = .ok receipt := by
  refine (hi.append h.appended).assertCurrent_iff.2
    ⟨event.scopeKey, d, event, h.scope, rfl, ?_, h.eventType, h.authority, h.key, h.digest⟩
  rw [lastEvent, h.appended.bodies, List.filter_append]
  simp

theorem installs_outcome {t : Except Failure (D × TrustRegistry D)} (hi : TrustInv H s)
    (ht : ∀ d s', t = .ok (d, s') → ∃ event, Installs H args s d event s') :
    CallOutcome H s (scopeKey args.role args.providerId)
      ((mutate s t (assertNew H args)).map (·.map TrustReply.receipt) id) := by
  cases t with
  | error e => exact .raised e
  | ok r =>
    obtain ⟨d, s'⟩ := r
    obtain ⟨event, hinst⟩ := ht d s' rfl
    obtain ⟨receipt, hreceipt⟩ := hinst.asserted hi
    have heq : (mutate s (.ok (d, s')) (assertNew H args)).map (·.map TrustReply.receipt) id =
        (.ok (.receipt receipt), s') := by
      rw [mutate, hreceipt]
      rfl
    rw [heq]
    exact .returned _ hinst.appended hinst.scope

theorem call_outcome (hi : TrustInv H s) (c : TrustCall D) (hplain : ¬ c.Mistaken s) :
    CallOutcome H s c.scope (call H s c) := by
  cases c with
  | register args generation => exact installs_outcome hi fun d s' h => registerTxn_ok h
  | rotate args generation authority => exact installs_outcome hi fun d s' h => rotateTxn_ok hi h
  | reactivate args generation authority epoch =>
    exact installs_outcome hi fun d s' h => reactivateTxn_ok hi hplain h
  | locked path => exact .raised _
  | revoke authorityId role providerId generation epoch =>
    simp only [call, revoke, mutate]
    cases h : revokeTxn H authorityId role providerId generation epoch s with
    | error e => exact .raised e
    | ok r =>
      obtain ⟨event, happ, hscope⟩ := revokeTxn_ok hi h
      exact .returned (.epoch r.1) happ hscope

theorem Appended.advances (ha : Appended H s event s') (hrow : s.authorities.get? scope = some row) :
    ∃ row', s'.authorities.get? scope = some row' ∧ Advances row.state row'.state ∧
      (event.scopeKey = scope → StrictlyAdvances row.state row'.state) := by
  rw [ha.table]
  by_cases hs : scope = event.scopeKey
  · subst hs
    have ht := ha.admissible.transition
    rw [hrow] at ht
    have hstrict := checkTransition_advances ht
    exact ⟨_, project_self, hstrict.toAdvances, fun _ => hstrict⟩
  · exact ⟨row, (project_other hs).trans hrow, .refl _, fun heq => absurd heq.symm hs⟩

/-! ## Runs -/

theorem TrustInv.call (hi : TrustInv H s) (c : TrustCall D) (hplain : ¬ c.Mistaken s) :
    TrustInv H (call H s c).2 := by
  have hout := call_outcome hi c hplain
  generalize OutboundTrustRegistry.call H s c = r at hout
  cases hout with
  | raised => exact hi
  | returned _ happ => exact hi.append happ

variable (H) in
/-- No call of a run is mistaken in the registry that it finds. -/
def Unmistaken : TrustRegistry D → List (TrustCall D) → Prop
  | _, [] => True
  | s, c :: cs => ¬ c.Mistaken s ∧ Unmistaken (call H s c).2 cs

theorem TrustInv.run (hi : TrustInv H s) {cs : List (TrustCall D)} (hcs : Unmistaken H s cs) :
    TrustInv H (run H s cs) := by
  induction cs generalizing s with
  | nil => exact hi
  | cons c cs ih => exact ih (hi.call c hcs.1) hcs.2

theorem run_advances (hi : TrustInv H s) {cs : List (TrustCall D)} (hcs : Unmistaken H s cs)
    (hrow : s.authorities.get? scope = some row) :
    ∃ row', (run H s cs).authorities.get? scope = some row' ∧ Advances row.state row'.state := by
  induction cs generalizing s row with
  | nil => exact ⟨row, hrow, .refl _⟩
  | cons c cs ih =>
    obtain ⟨row₁, hrow₁, hone⟩ : ∃ row', (call H s c).2.authorities.get? scope = some row' ∧
        Advances row.state row'.state := by
      have hout := call_outcome hi c hcs.1
      generalize call H s c = r at hout
      cases hout with
      | raised => exact ⟨row, hrow, .refl _⟩
      | returned _ happ =>
        obtain ⟨row', hrow', hadv, -⟩ := happ.advances hrow
        exact ⟨row', hrow', hadv⟩
    obtain ⟨row₂, hrow₂, hrest⟩ := ih (hi.call c hcs.1) hcs.2 hrow₁
    exact ⟨row₂, hrow₂, hone.trans hrest⟩

variable (H) in
/-- What holds of a registry that a run has reached. -/
structure TrustLaw (s : TrustRegistry D) : Prop where
  verified : verifyChain H s = .ok s.log.head
  table : s.authorities = (s.log.entries.map fun e => e.body).foldl project .empty
  monotone : ∀ cs, Unmistaken H s cs → ∀ scope row, s.authorities.get? scope = some row →
    ∃ row', (run H s cs).authorities.get? scope = some row' ∧ Advances row.state row'.state
  strict : ∀ c, ¬ c.Mistaken s → ∀ reply scope row, (call H s c).1 = .ok reply → c.scope = .ok scope →
    s.authorities.get? scope = some row → ∃ row',
      (call H s c).2.authorities.get? scope = some row' ∧ StrictlyAdvances row.state row'.state
  current : ∀ args, (∃ receipt, assertCurrent H args s = .ok receipt) ↔ Current s args
  unchanged : ∀ c, ¬ c.Mistaken s → ∀ e, (call H s c).1 = .error e → (call H s c).2 = s

variable (H) in
theorem trust_law (cs : List (TrustCall D)) (hcs : Unmistaken H (new H) cs) :
    TrustLaw H (run H (new H) cs) := by
  have hi : TrustInv H (run H (new H) cs) := trustInv_new.run hcs
  refine ⟨hi.verifyChain, hi.table, fun cs hcs scope row hrow => run_advances hi hcs hrow,
    fun c hplain reply scope row hok hscope hrow => ?_, fun args => hi.assertCurrent_iff,
    fun c hplain e herr => ?_⟩
  · have hout := call_outcome hi c hplain
    generalize call H _ c = r at hout hok
    cases hout with
    | raised => cases hok
    | returned _ happ heq =>
      obtain ⟨row', hrow', -, hstrict⟩ := happ.advances hrow
      exact ⟨row', hrow', hstrict (Except.ok.inj (heq.symm.trans hscope))⟩
  · have hout := call_outcome hi c hplain
    generalize call H _ c = r at hout herr
    cases hout with
    | raised => rfl
    | returned => cases herr

def sampleTrust : TrustHashing Nat where
  sha256
    | .event n _ _ => n
    | .receipt .. => 0
  genesisHead := 0

/-- An authority that is registered, revoked and reactivated by a caller that expects `epoch`. -/
def reactivated (epoch : ExpectedEpoch) : List (TrustCall Nat) :=
  [.register ⟨"a", "PC", none, "k", .lower 1⟩ 0, .revoke "a" "PC" none 1 0,
    .reactivate ⟨"a", "PC", none, "k", .lower 1⟩ 2 1 epoch]

theorem trust_law_reactivated :
    Unmistaken sampleTrust (new sampleTrust) (reactivated (.number 1)) ∧
      (run sampleTrust (new sampleTrust) (reactivated (.number 1))).log.sequence = 3 ∧
      TrustLaw sampleTrust (run sampleTrust (new sampleTrust) (reactivated (.number 1))) :=
  have hcs : Unmistaken sampleTrust (new sampleTrust) (reactivated (.number 1)) :=
    ⟨id, id, fun h => Bool.false_ne_true h.1, trivial⟩
  ⟨hcs, by decide +kernel, trust_law sampleTrust _ hcs⟩

/-- A caller that expects `True` for the epoch 1: the call raises, its event is kept, and the chain
verifies no more. -/
theorem flagged_epoch_breaks :
    verifyChain sampleTrust (run sampleTrust (new sampleTrust) (reactivated (.flag true))) =
        .error (trustError "outbound trust revocation epoch is invalid") ∧
      (call sampleTrust (run sampleTrust (new sampleTrust) ((reactivated (.flag true)).take 2))
        (.reactivate ⟨"a", "PC", none, "k", .lower 1⟩ 2 1 (.flag true))).1.isOk = false ∧
      (run sampleTrust (new sampleTrust) (reactivated (.flag true))).log.sequence = 3 := by
  decide +kernel

end VeraMono

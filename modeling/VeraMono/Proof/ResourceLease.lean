import Mathlib.Data.List.Perm.Basic
import VeraMono.Framework.Checks
import VeraMono.Model.ResourceLease

/-!
# Exclusion of resource leases

The leases in the registry are pairwise without conflict, whatever the clock says of them, and a
lease with an operation in flight stays in it: `LeaseSystem.Inv`. Both halves of exclusion follow,
because a claim that covers a path is the path or an ancestor of it, so claims that cover related
paths overlap. `openLease_cases` says what `open_lease` does, `Inv.addLease` that it keeps the
invariant, and `lease_exclusion` that every run does.
-/

namespace VeraMono

open Framework

/-! ## Paths -/

theorem intercalate_append {sep : List Char} {xs ys : List (List Char)} (hx : xs ≠ []) (hy : ys ≠ []) :
    sep.intercalate (xs ++ ys) = sep.intercalate xs ++ sep ++ sep.intercalate ys := by
  induction xs with
  | nil => exact absurd rfl hx
  | cons x xs ih =>
    cases xs with
    | nil => simp [List.intercalate_cons_of_ne_nil hy]
    | cons x' xs =>
      rw [List.cons_append, List.intercalate_cons_of_ne_nil (by simp), ih (by simp),
        List.intercalate_cons_cons]
      simp only [List.append_assoc]

theorem segments_prefix {a b : List Char} :
    segments a <+: segments b ↔ b = a ∨ (a ++ ['/']) <+: b := by
  constructor
  · rintro ⟨rest, h⟩
    have hb : ['/'].intercalate (segments a ++ rest) = b := h ▸ List.intercalate_splitOn '/'
    have ha : ['/'].intercalate (segments a) = a := List.intercalate_splitOn '/'
    cases rest with
    | nil => exact .inl (by rw [← hb, List.append_nil, ha])
    | cons x xs =>
      refine .inr ⟨['/'].intercalate (x :: xs), ?_⟩
      have hne : segments a ≠ [] := List.splitOn_ne_nil '/' a
      rw [← hb, intercalate_append hne (List.cons_ne_nil x xs), ha]
  · rintro (rfl | ⟨rest, rfl⟩)
    · exact List.prefix_rfl
    · rw [segments, segments, List.append_assoc, List.singleton_append, List.splitOn_append_cons_self]
      exact List.prefix_append _ _

/-- Two keys of one namespace, one of which is the other or an ancestor of it. -/
def Related (p q : String) : Prop :=
  (keyParts p).1 = (keyParts q).1 ∧ (segments (keyParts p).2 <+: segments (keyParts q).2 ∨
    segments (keyParts q).2 <+: segments (keyParts p).2)

theorem resourcesOverlap_iff {p q : String} : resourcesOverlap p q = true ↔ Related p q := by
  simp only [resourcesOverlap, Related, segments_prefix, Bool.and_eq_true, Bool.or_eq_true,
    decide_eq_true_eq, List.isPrefixOf_iff_prefix]
  refine and_congr_right fun _ => ⟨?_, ?_⟩
  · rintro ((h | h) | h)
    · exact .inl (.inl h.symm)
    · exact .inr (.inr h)
    · exact .inl (.inr h)
  · rintro ((h | h) | (h | h))
    · exact .inl (.inl h.symm)
    · exact .inr h
    · exact .inl (.inl h)
    · exact .inl (.inr h)

theorem claimCovers_iff {claim requested : ResourceClaim} : claimCovers claim requested = true ↔
    (requested.mode = .write → claim.mode = .write) ∧
      (keyParts claim.key).1 = (keyParts requested.key).1 ∧
      segments (keyParts claim.key).2 <+: segments (keyParts requested.key).2 := by
  rw [claimCovers, segments_prefix]
  split
  · rename_i h
    simp [h]
  · rename_i h
    rw [not_and, not_not] at h
    simp only [Bool.and_eq_true, Bool.or_eq_true, decide_eq_true_eq, List.isPrefixOf_iff_prefix]
    exact ⟨fun hc => ⟨h, hc⟩, And.right⟩

theorem conflict_of_covers {c₁ c₂ p q : ResourceClaim} (h₁ : claimCovers c₁ p = true)
    (h₂ : claimCovers c₂ q = true) (hw : p.mode = .write) (hr : Related p.key q.key) :
    claimsConflict c₁ c₂ = true := by
  obtain ⟨hm, hn, hp⟩ := claimCovers_iff.1 h₁
  obtain ⟨-, hn', hq⟩ := claimCovers_iff.1 h₂
  have hrel : Related c₁.key c₂.key := by
    refine ⟨hn.trans (hr.1.trans hn'.symm), ?_⟩
    rcases hr.2 with h | h
    · exact List.prefix_or_prefix_of_prefix (hp.trans h) hq
    · exact List.prefix_or_prefix_of_prefix hp (hq.trans h)
  simp [claimsConflict, resourcesOverlap_iff.2 hrel, hm hw]

theorem claimsConflict_comm {a b : ResourceClaim} : claimsConflict a b = claimsConflict b a := by
  have hrel : Related a.key b.key ↔ Related b.key a.key := by
    rw [Related, Related, or_comm, eq_comm]
  have hover : resourcesOverlap a.key b.key = resourcesOverlap b.key a.key := by
    rw [Bool.eq_iff_iff, resourcesOverlap_iff, resourcesOverlap_iff, hrel]
  rw [claimsConflict, claimsConflict, hover, Bool.or_comm]

/-! ## What an operation does to the registry -/

/-- No claim of one lease conflicts with a claim of the other. -/
def Compatible (l l' : ResourceLease) : Prop :=
  ∀ a ∈ l.claims, ∀ b ∈ l'.claims, claimsConflict a b = false

theorem Compatible.symm {l l' : ResourceLease} (h : Compatible l l') : Compatible l' l :=
  fun a ha b hb => claimsConflict_comm.trans (h b hb a ha)

theorem firstConflict_eq_none {left right : List ResourceClaim} :
    firstConflict left right = none ↔ ∀ a ∈ left, ∀ b ∈ right, claimsConflict a b = false := by
  simp only [firstConflict, List.findSome?_eq_none_iff, List.mem_flatMap, List.mem_map]
  constructor
  · intro h a ha b hb
    have := h (a, b) ⟨a, ha, b, hb, rfl⟩
    simpa using this
  · rintro h _ ⟨a, ha, b, hb, rfl⟩
    simp [h a ha b hb]

/-- The same lease, perhaps with another expiry. -/
structure Renewal (l l' : ResourceLease) : Prop where
  leaseId : l'.leaseId = l.leaseId
  fencingToken : l'.fencingToken = l.fencingToken
  claims : l'.claims = l.claims

theorem Renewal.refl (l : ResourceLease) : Renewal l l := ⟨rfl, rfl, rfl⟩

theorem Renewal.trans {l l' l'' : ResourceLease} (h : Renewal l l') (h' : Renewal l' l'') :
    Renewal l l'' :=
  ⟨h'.leaseId.trans h.leaseId, h'.fencingToken.trans h.fencingToken, h'.claims.trans h.claims⟩

/-- No lease is added, and none with an operation in flight is removed. -/
structure Shrinks (r r' : ResourceLeaseRegistry) : Prop where
  inflight : r'.inflight = r.inflight
  back : ∀ k l', r'.leases.get? k = some l' → ∃ l, r.leases.get? k = some l ∧ Renewal l l'
  kept : ∀ k l, r.leases.get? k = some l → 0 < r.inflight k →
    ∃ l', r'.leases.get? k = some l' ∧ Renewal l l'

namespace Shrinks

variable {r r' r'' : ResourceLeaseRegistry}

theorem refl (r : ResourceLeaseRegistry) : Shrinks r r where
  inflight := rfl
  back := fun _ l hl => ⟨l, hl, .refl l⟩
  kept := fun _ l hl _ => ⟨l, hl, .refl l⟩

theorem filter {p : ResourceLease → Bool} (hp : ∀ l, 0 < r.inflight l.leaseId → p l = true) :
    Shrinks r { r with leases := r.leases.filter p } where
  inflight := rfl
  back := fun _ l hl => ⟨l, (Table.get?_filter.1 hl).1, .refl l⟩
  kept := fun _ l hl hk =>
    ⟨l, Table.get?_filter.2 ⟨hl, hp l (Table.get?_key hl ▸ hk)⟩, .refl l⟩

theorem erase {k : String} (hk : r.inflight k = 0) :
    Shrinks r { r with leases := r.leases.erase k } :=
  filter fun l hl => decide_eq_true fun heq => by rw [heq, hk] at hl; exact absurd hl (lt_irrefl 0)

end Shrinks

namespace ResourceLeaseRegistry

variable {r r' : ResourceLeaseRegistry} {lease : ResourceLease}

theorem checked_shrinks {α β : Type} {check : Except Failure α} {k : α → Locked β}
    (hk : ∀ a, check = .ok a → Shrinks r (k a).2) : Shrinks r (r.checked check k).2 := by
  unfold checked
  split
  · exact hk _ rfl
  · exact .refl r

theorem checked_ok {α β : Type} {check : Except Failure α} {k : α → Locked β} {b : β}
    (h : r.checked check k = (.ok b, r')) : ∃ a, check = .ok a ∧ k a = (.ok b, r') := by
  cases check with
  | ok a => exact ⟨a, rfl, h⟩
  | error e => cases h

theorem reap_shrinks (now : Int) : Shrinks r (r.reapExpiredLocked now).2 :=
  .filter fun l hl => by simp [reapable, hl.ne']

variable {leaseId : String} {token now : Int}

theorem lookup_ok {token : Int} (h : r.lookupFencedLocked leaseId token = .ok lease) :
    r.leases.get? leaseId = some lease ∧ lease.fencingToken = token := by
  simp only [lookupFencedLocked, bind_eq_ok, ite_error_ok, ↓throw_bind] at h
  obtain ⟨_, -, -, h⟩ := h
  cases hl : r.leases.get? leaseId with
  | none => rw [hl] at h; cases h
  | some l =>
    simp only [hl, ite_error_ok, pure_ok, not_not] at h
    obtain ⟨ht, rfl⟩ := h
    exact ⟨rfl, ht⟩

theorem requireLease_ok (h : r.requireLeaseLocked leaseId token now = (.ok lease, r')) :
    r' = r ∧ r.leases.get? leaseId = some lease ∧ lease.fencingToken = token := by
  obtain ⟨l, hl, h⟩ := checked_ok h
  by_cases hexp : l.expiresAtNs ≤ now
  · rw [if_pos hexp] at h
    cases h
  · rw [if_neg hexp] at h
    cases h
    exact ⟨rfl, lookup_ok hl⟩

theorem requireLease_shrinks : Shrinks r (r.requireLeaseLocked leaseId token now).2 := by
  refine checked_shrinks fun l hl => ?_
  split
  · change Shrinks r (if r.inflight leaseId = 0 then _ else r)
    split
    · exact .erase ‹_›
    · exact .refl r
  · exact .refl r

theorem authorizeLocked_shrinks {capability : String} {resource : Option (String × ClaimMode)} :
    Shrinks r (r.authorizeLocked leaseId token capability resource now).2 := by
  have h : Shrinks r (r.requireLeaseLocked leaseId token now).2 := requireLease_shrinks
  rw [authorizeLocked]
  split <;> rename_i heq <;> rw [heq] at h <;> exact h

theorem authorize_shrinks {args : AuthorizeArgs} : Shrinks r (r.authorize args).2 :=
  checked_shrinks fun _ _ => authorizeLocked_shrinks

theorem authorize_ok {args : AuthorizeArgs} (h : r.authorize args = (.ok lease, r')) :
    r' = r ∧ r.leases.get? args.leaseId = some lease ∧ lease.fencingToken = args.fencingToken ∧
      ∃ resource, checkAuthorize args = .ok resource ∧
        permitted lease args.capability resource = .ok lease := by
  obtain ⟨resource, hres, hauth⟩ := checked_ok h
  unfold authorizeLocked at hauth
  split at hauth
  · cases hauth
  · rename_i l r₁ hl
    obtain ⟨rfl, hget, htok⟩ := requireLease_ok hl
    obtain ⟨hperm, rfl⟩ := Prod.mk.inj hauth
    have hsame : lease = l := by
      simp only [permitted, ite_error_ok, ↓throw_bind] at hperm
      obtain ⟨-, hperm⟩ := hperm
      split at hperm
      · exact pure_ok.1 hperm
      · simp only [bind_eq_ok, ite_error_ok, pure_ok] at hperm
        obtain ⟨_, -, -, hl⟩ := hperm
        exact hl
    subst hsame
    exact ⟨rfl, hget, htok, resource, hres, hperm⟩

theorem renew_shrinks {token ttlNs nowNs : Int} :
    Shrinks r (r.renew leaseId token ttlNs nowNs).2 := by
  refine checked_shrinks fun _ _ => checked_shrinks fun _ _ => ?_
  have h : Shrinks r (r.requireLeaseLocked leaseId token nowNs).2 := requireLease_shrinks
  split
  · rename_i heq
    rw [heq] at h
    exact h
  · rename_i l r₁ heq
    obtain ⟨rfl, hget, -⟩ := requireLease_ok heq
    have hkey : l.leaseId = leaseId := Table.get?_key hget
    have hl : r₁.leases.get? l.leaseId = some l := hkey ▸ hget
    generalize hnew : ({ l with expiresAtNs := nowNs + ttlNs } : ResourceLease) = renewed
    have hren : Renewal l renewed := by
      subst hnew
      exact ⟨rfl, rfl, rfl⟩
    have hself : (r₁.leases.upsert renewed).get? l.leaseId = some renewed := by
      rw [← hren.leaseId]
      exact Table.get?_upsert_self
    have hother (k : String) (hk : k ≠ l.leaseId) :
        (r₁.leases.upsert renewed).get? k = r₁.leases.get? k :=
      Table.get?_upsert_other (hren.leaseId.symm ▸ hk)
    refine ⟨rfl, fun k l' hl' => ?_, fun k l' hl' _ => ?_⟩
    · by_cases hk : k = l.leaseId
      · subst hk
        cases hself.symm.trans hl'
        exact ⟨l, hl, hren⟩
      · exact ⟨l', (hother k hk).symm.trans hl', .refl l'⟩
    · by_cases hk : k = l.leaseId
      · subst hk
        cases hl.symm.trans hl'
        exact ⟨renewed, hself, hren⟩
      · exact ⟨l', (hother k hk).trans hl', .refl l'⟩

theorem close_shrinks {token nowNs : Int} : Shrinks r (r.close leaseId token nowNs).2 := by
  refine checked_shrinks fun _ _ => checked_shrinks fun l _ => ?_
  split
  · exact .refl r
  · rename_i hidle
    split <;> exact .erase (Nat.eq_zero_of_not_pos hidle)

theorem beginOpen_shrinks (args : OpenArgs) : Shrinks r (r.beginOpen args).2 := by
  refine checked_shrinks fun _ _ => ?_
  have hreap : Shrinks r (r.reapExpiredLocked args.nowNs).2 := reap_shrinks args.nowNs
  generalize (r.reapExpiredLocked args.nowNs).2 = r₁ at hreap ⊢
  dsimp only
  unfold checked
  split <;> exact hreap

/-- A lease that passes the checks is new and compatible with every other. -/
theorem checkAdmit_ok {args : OpenArgs} (h : r.checkAdmit args = .ok ()) :
    r.leases.get? args.leaseId = none ∧
      ∀ k l, r.leases.get? k = some l → ∀ token, Compatible (args.lease token) l := by
  simp only [checkAdmit, ite_error_ok, ↓throw_bind] at h
  obtain ⟨hnew, -, h⟩ := h
  split at h
  · cases h
  · rename_i hnone
    refine ⟨by simpa using hnew, fun k l hl token => ?_⟩
    have := List.findSome?_eq_none_iff.1 hnone l (Table.mem_of_get? hl)
    exact firstConflict_eq_none.1 (by simpa [OpenArgs.lease] using this)

theorem beginOpen_ok {args : OpenArgs} (h : r.beginOpen args = (.ok (), r')) : r'.checkAdmit args = .ok () := by
  obtain ⟨_, -, h⟩ := checked_ok h
  obtain ⟨_, hadmit, h⟩ := checked_ok h
  cases h
  exact hadmit

variable {allocated : Except Failure Int}

theorem nextFence_lt (h : r.nextFence allocated = .ok token) : r.lastFence < token := by
  unfold nextFence at h
  split at h
  all_goals
    simp only [bind_eq_ok, ite_error_ok, ↓throw_bind, pure_ok, not_le] at h
    obtain ⟨_, -, hlt, rfl⟩ := h
    exact hlt

theorem addLease_cases (r : ResourceLeaseRegistry) (args : OpenArgs) (allocated : Except Failure Int) :
    (∃ e, r.nextFence allocated = .error e ∧ r.addLease args allocated = (.error e, r)) ∨
      ∃ token, r.nextFence allocated = .ok token ∧ r.addLease args allocated = (.ok (args.lease token),
        { r with leases := r.leases.upsert (args.lease token), lastFence := token }) := by
  unfold addLease checked
  cases hnext : r.nextFence allocated with
  | error e => exact .inl ⟨e, rfl, rfl⟩
  | ok token => exact .inr ⟨token, rfl, rfl⟩

/-- `open_lease` deletes what expired, and then adds a lease that passes the checks or raises. -/
theorem openLease_cases (r : ResourceLeaseRegistry) (args : OpenArgs) (allocated : Except Failure Int) :
    (∃ e, r.openLease args allocated = (.error e, (r.beginOpen args).2)) ∨
      (r.beginOpen args).2.checkAdmit args = .ok () ∧
        r.openLease args allocated = (r.beginOpen args).2.addLease args allocated := by
  unfold openLease
  cases hbegin : r.beginOpen args with
  | mk result r' =>
    cases result with
    | error e => exact .inl ⟨e, rfl⟩
    | ok => exact .inr ⟨beginOpen_ok hbegin, rfl⟩

end ResourceLeaseRegistry

open ResourceLeaseRegistry

/-! ## The invariant -/

namespace LeaseSystem

/-- The leases are compatible where no allocator has called back (`flat`). -/
structure Inv (flat : Prop) (s : LeaseSystem) : Prop where
  compatible : flat → ∀ k l k' l', s.registry.leases.get? k = some l → s.registry.leases.get? k' = some l' →
    k ≠ k' → Compatible l l'
  inflight : ∀ k, s.registry.inflight k = s.holding.countP fun op => op.args.leaseId = k
  /-- The lease of an operation inside `hold` is still there, with its token and claims. -/
  pinned : ∀ op ∈ s.holding, ∃ l, s.registry.leases.get? op.args.leaseId = some l ∧
    Renewal op.lease l ∧ l.fencingToken = op.args.fencingToken
  authorised : ∀ op ∈ s.holding, ∃ resource, checkAuthorize op.args = .ok resource ∧
    permitted op.lease op.args.capability resource = .ok op.lease

variable {flat : Prop} {s : LeaseSystem} {r : ResourceLeaseRegistry}

theorem Inv.free (hi : Inv flat s) {k : String} (hk : s.registry.leases.get? k = none) :
    ∀ op ∈ s.holding, op.args.leaseId ≠ k := by
  rintro op hop rfl
  obtain ⟨l, hl, -⟩ := hi.pinned op hop
  rw [hk] at hl
  cases hl

theorem Inv.shrinks (hi : Inv flat s) (hr : Shrinks s.registry r) : Inv flat { s with registry := r } where
  compatible := by
    intro hf k l k' l' hl hl' hk a ha b hb
    obtain ⟨l₀, hl₀, hren⟩ := hr.back k l hl
    obtain ⟨l₀', hl₀', hren'⟩ := hr.back k' l' hl'
    exact hi.compatible hf k l₀ k' l₀' hl₀ hl₀' hk a (hren.claims ▸ ha) b (hren'.claims ▸ hb)
  inflight := fun k => (congrFun hr.inflight k).trans (hi.inflight k)
  pinned := by
    intro op hop
    obtain ⟨l, hl, hren, htok⟩ := hi.pinned op hop
    have hpos : 0 < s.registry.inflight op.args.leaseId := by
      rw [hi.inflight, List.countP_pos_iff]
      exact ⟨op, hop, decide_eq_true rfl⟩
    obtain ⟨l', hl', hren'⟩ := hr.kept _ l hl hpos
    exact ⟨l', hl', hren.trans hren', hren'.fencingToken.trans htok⟩
  authorised := hi.authorised

/-- A lease is added, in the place of none that is held and compatible with the others. -/
theorem Inv.addLease (hi : Inv flat s) (args : OpenArgs) (allocated : Except Failure Int)
    (hfree : ∀ token, s.registry.nextFence allocated = .ok token →
      ∀ op ∈ s.holding, op.args.leaseId ≠ args.leaseId)
    (hc : flat → ∀ k l, s.registry.leases.get? k = some l → ∀ token, Compatible (args.lease token) l) :
    Inv flat { s with registry := (s.registry.addLease args allocated).2 } := by
  obtain ⟨e, -, heq⟩ | ⟨token, hnext, heq⟩ := addLease_cases s.registry args allocated
  · rw [heq]
    exact hi
  rw [heq]
  have hself : (s.registry.leases.upsert (args.lease token)).get? args.leaseId = some (args.lease token) :=
    Table.get?_upsert_self
  have hother (k : String) (hk : k ≠ args.leaseId) :
      (s.registry.leases.upsert (args.lease token)).get? k = s.registry.leases.get? k :=
    Table.get?_upsert_other hk
  refine ⟨fun hf k l k' l' hl hl' hk => ?_, hi.inflight, fun op hop => ?_, hi.authorised⟩
  · by_cases h : k = args.leaseId
    · subst h
      cases hself.symm.trans hl
      exact hc hf k' l' ((hother k' hk.symm).symm.trans hl') token
    · have hl := (hother k h).symm.trans hl
      by_cases h' : k' = args.leaseId
      · subst h'
        cases hself.symm.trans hl'
        exact (hc hf k l hl token).symm
      · exact hi.compatible hf k l k' l' hl ((hother k' h').symm.trans hl') hk
  · obtain ⟨l, hl, h⟩ := hi.pinned op hop
    exact ⟨l, (hother _ (hfree token hnext op hop)).trans hl, h⟩

theorem Inv.openLease (hi : Inv flat s) (args : OpenArgs) (allocated : Except Failure Int) :
    Inv flat { s with registry := (s.registry.openLease args allocated).2 } := by
  have hbegun := hi.shrinks (beginOpen_shrinks args)
  obtain ⟨e, heq⟩ | ⟨hok, heq⟩ := openLease_cases s.registry args allocated
  · rw [heq]
    exact hbegun
  · rw [heq]
    obtain ⟨hnew, hc⟩ := checkAdmit_ok hok
    exact hbegun.addLease args allocated (fun _ _ => hbegun.free hnew) fun _ => hc

theorem Inv.enterHold (hi : Inv flat s) (args : AuthorizeArgs) : Inv flat (s.exec (.enterHold args)) := by
  have hr : Shrinks s.registry (s.registry.authorize args).2 := authorize_shrinks
  simp only [exec, ResourceLeaseRegistry.enterHold]
  cases ha : s.registry.authorize args with
  | mk result r =>
    rw [ha] at hr
    cases result with
    | error e => exact hi.shrinks hr
    | ok lease =>
      obtain ⟨rfl, hl, htok, hperm⟩ := authorize_ok ha
      refine ⟨hi.compatible, fun k => ?_, fun op hop => ?_, fun op hop => ?_⟩
      · change Function.update s.registry.inflight args.leaseId _ k = _
        rw [List.countP_cons]
        by_cases hk : k = args.leaseId
        · subst hk
          rw [Function.update_self, hi.inflight]
          simp
        · rw [Function.update_of_ne hk, hi.inflight]
          simp [Ne.symm hk]
      · rcases List.mem_cons.1 hop with rfl | hop
        · exact ⟨lease, hl, .refl lease, htok⟩
        · exact hi.pinned op hop
      · rcases List.mem_cons.1 hop with rfl | hop
        · exact hperm
        · exact hi.authorised op hop

theorem Inv.exitHold (hi : Inv flat s) (place : Nat) : Inv flat (s.exec (.exitHold place)) := by
  simp only [exec]
  split
  · rename_i op hop
    have hmem {op' : HeldOperation} (h : op' ∈ s.holding.eraseIdx place) : op' ∈ s.holding :=
      List.mem_of_mem_eraseIdx h
    refine ⟨hi.compatible, fun k => ?_, fun op' h => hi.pinned op' (hmem h),
      fun op' h => hi.authorised op' (hmem h)⟩
    obtain ⟨hlt, rfl⟩ := List.getElem?_eq_some_iff.1 hop
    have hcount := ((List.getElem_cons_eraseIdx_perm hlt).countP_eq
      fun op => decide (op.args.leaseId = k)).symm
    rw [List.countP_cons, ← hi.inflight] at hcount
    change Function.update s.registry.inflight s.holding[place].args.leaseId _ k = _
    by_cases hk : k = s.holding[place].args.leaseId
    · subst hk
      rw [Function.update_self, hcount]
      simp
    · rw [Function.update_of_ne hk, hcount]
      simp [Ne.symm hk]
  · exact hi

theorem Inv.exec (hi : Inv flat s) (e : LeaseEvent) : Inv flat (s.exec e) := by
  cases e with
  | openLease args allocated => exact hi.openLease args allocated
  | renew => exact hi.shrinks renew_shrinks
  | close => exact hi.shrinks close_shrinks
  | authorize => exact hi.shrinks authorize_shrinks
  | enterHold args => exact hi.enterHold args
  | exitHold place => exact hi.exitHold place
  | reapExpired => exact hi.shrinks (checked_shrinks fun _ _ => reap_shrinks _)
  | snapshot => exact hi.shrinks (checked_shrinks fun _ _ => reap_shrinks _)

theorem Inv.run (hi : Inv flat s) (es : List LeaseEvent) : Inv flat (s.run es) := by
  induction es generalizing s with
  | nil => exact hi
  | cons e es ih => exact ih (hi.exec e)

theorem Inv.new (ceiling : List String) (maxLeases : Nat) (customAllocator : Bool) :
    Inv flat ⟨.new ceiling maxLeases customAllocator, []⟩ where
  compatible := fun _ _ _ _ _ h => by cases h
  inflight := fun _ => rfl
  pinned := fun _ h => by cases h
  authorised := fun _ h => by cases h

end LeaseSystem

/-! ## Exclusion -/

/-- The arguments ask for an operation on a key in a mode. -/
def ResourceLeaseRegistry.AuthorizeArgs.On (args : AuthorizeArgs) (key : String) (mode : ClaimMode) :
    Prop := args.resourceKey = some key ∧ args.resourceMode = some mode

theorem covered_of_permitted {args : AuthorizeArgs} {resource : Option (String × ClaimMode)}
    {lease : ResourceLease} {key : String} {mode : ClaimMode}
    (hc : checkAuthorize args = .ok resource)
    (hp : permitted lease args.capability resource = .ok lease) (hon : args.On key mode) :
    ∃ probe : ResourceClaim, probe.key = key ∧ probe.mode = mode ∧
      ∃ claim ∈ lease.claims, claimCovers claim probe = true := by
  simp only [checkAuthorize, hon.1, hon.2, bind_eq_ok, pure_ok] at hc
  obtain ⟨_, -, _, -, rfl⟩ := hc
  simp only [permitted, bind_eq_ok, ite_error_ok, ↓throw_bind, not_not, List.any_eq_true] at hp
  obtain ⟨-, probe, hprobe, ⟨claim, hmem, hcov⟩, -⟩ := hp
  refine ⟨probe, ?_, ?_, claim, hmem, hcov⟩
  · rw [ResourceClaim.make] at hprobe
    split at hprobe
    · cases hprobe
      rfl
    · cases hprobe
  · rw [ResourceClaim.make] at hprobe
    split at hprobe
    · cases hprobe
      rfl
    · cases hprobe

/-- Conflicting operations are under one lease, both when two calls are authorised in
one state, whatever times they are given, and inside `hold`. -/
structure LeaseSystem.Exclusive (s : LeaseSystem) : Prop where
  authorised : ∀ a b p q mode l l' r r', s.registry.authorize a = (.ok l, r) →
    s.registry.authorize b = (.ok l', r') → a.On p .write → b.On q mode → Related p q → l = l'
  held : ∀ op ∈ s.holding, ∀ op' ∈ s.holding, ∀ p q mode, op.args.On p .write → op'.args.On q mode →
    Related p q → op.args.leaseId = op'.args.leaseId ∧ op.args.fencingToken = op'.args.fencingToken

theorem LeaseSystem.Inv.exclusive {s : LeaseSystem} (hi : s.Inv True) : s.Exclusive := by
  have hsame {l₁ l₂ l l' : ResourceLease} {k k' : String} {a b : AuthorizeArgs} {p q : String}
      {mode : ClaimMode} {resource resource' : Option (String × ClaimMode)}
      (hl : s.registry.leases.get? k = some l) (hl' : s.registry.leases.get? k' = some l')
      (hclaims : l.claims = l₁.claims) (hclaims' : l'.claims = l₂.claims)
      (hres : checkAuthorize a = .ok resource) (hp : permitted l₁ a.capability resource = .ok l₁)
      (hres' : checkAuthorize b = .ok resource') (hp' : permitted l₂ b.capability resource' = .ok l₂)
      (ha : a.On p .write) (hb : b.On q mode) (hr : Related p q) : k = k' := by
    by_contra hk
    obtain ⟨probe, rfl, hmode, c, hc, hcov⟩ := covered_of_permitted hres hp ha
    obtain ⟨probe', rfl, -, c', hc', hcov'⟩ := covered_of_permitted hres' hp' hb
    have hconf := conflict_of_covers hcov hcov' hmode hr
    rw [hi.compatible trivial k l k' l' hl hl' hk c (hclaims ▸ hc) c' (hclaims' ▸ hc')] at hconf
    cases hconf
  constructor
  · intro a b p q mode l l' r r' ha hb hon hon' hr
    obtain ⟨-, hl, -, resource, hres, hp⟩ := authorize_ok ha
    obtain ⟨-, hl', -, resource', hres', hp'⟩ := authorize_ok hb
    have hk := hsame hl hl' rfl rfl hres hp hres' hp' hon hon' hr
    exact Option.some.inj (hl.symm.trans (hk ▸ hl'))
  · intro op hop op' hop' p q mode hon hon' hr
    obtain ⟨l, hl, hren, htok⟩ := hi.pinned op hop
    obtain ⟨l', hl', hren', htok'⟩ := hi.pinned op' hop'
    obtain ⟨resource, hres, hp⟩ := hi.authorised op hop
    obtain ⟨resource', hres', hp'⟩ := hi.authorised op' hop'
    have hk := hsame hl hl' hren.claims hren'.claims hres hp hres' hp' hon hon' hr
    refine ⟨hk, ?_⟩
    cases Option.some.inj (hl.symm.trans (hk ▸ hl'))
    exact htok.symm.trans htok'

/-- Exclusion holds after every sequence of operations on a new registry. -/
theorem lease_exclusion (ceiling : List String) (maxLeases : Nat) (customAllocator : Bool)
    (es : List LeaseEvent) :
    (LeaseSystem.run ⟨.new ceiling maxLeases customAllocator, []⟩ es).Exclusive :=
  ((LeaseSystem.Inv.new ceiling maxLeases customAllocator).run es).exclusive

end VeraMono

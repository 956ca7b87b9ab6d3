import VeraMono.Framework.Fencing
import VeraMono.Proof.ResourceLease

/-!
# Fencing of resource leases

What a lease is fenced by is its id with its token. Every method but `open_lease` only
drops leases, and the one that `open_lease` adds has a token above `_last_fence`, which is
above all tokens given so far, whatever the allocator returns or calls:
`ReentrantSystem.fencing_step`. An allocator that opens the same id and holds it has its lease
replaced under it: `held_lease_replaced`.
-/

namespace VeraMono

open Framework ResourceLeaseRegistry

/-! ## The counter -/

namespace ResourceLeaseRegistry

variable {r r' : ResourceLeaseRegistry} {lease : ResourceLease}

theorem checked_lastFence {α β : Type} {check : Except Failure α} {k : α → Locked β}
    (hk : ∀ a, (k a).2.lastFence = r.lastFence) : (r.checked check k).2.lastFence = r.lastFence := by
  unfold checked
  split
  · exact hk _
  · rfl

theorem requireLease_lastFence {leaseId : String} {token now : Int} :
    (r.requireLeaseLocked leaseId token now).2.lastFence = r.lastFence := by
  refine checked_lastFence fun l => ?_
  split
  · dsimp only
    split <;> rfl
  · rfl

theorem authorize_lastFence {args : AuthorizeArgs} :
    (r.authorize args).2.lastFence = r.lastFence := by
  refine checked_lastFence fun resource => ?_
  have h : (r.requireLeaseLocked args.leaseId args.fencingToken args.nowNs).2.lastFence = r.lastFence :=
    requireLease_lastFence
  rw [authorizeLocked]
  split <;> rename_i heq <;> rw [heq] at h <;> exact h

theorem renew_lastFence {leaseId : String} {token ttlNs nowNs : Int} :
    (r.renew leaseId token ttlNs nowNs).2.lastFence = r.lastFence := by
  refine checked_lastFence fun _ => checked_lastFence fun _ => ?_
  have h : (r.requireLeaseLocked leaseId token nowNs).2.lastFence = r.lastFence := requireLease_lastFence
  split <;> rename_i heq <;> rw [heq] at h <;> exact h

theorem close_lastFence {leaseId : String} {token nowNs : Int} :
    (r.close leaseId token nowNs).2.lastFence = r.lastFence := by
  refine checked_lastFence fun _ => checked_lastFence fun l => ?_
  split
  · rfl
  · split <;> rfl

theorem beginOpen_lastFence {args : OpenArgs} : (r.beginOpen args).2.lastFence = r.lastFence := by
  refine checked_lastFence fun _ => ?_
  have hreap : (r.reapExpiredLocked args.nowNs).2.lastFence = r.lastFence := rfl
  generalize (r.reapExpiredLocked args.nowNs).2 = r₁ at hreap ⊢
  exact (checked_lastFence fun _ => rfl).trans hreap

end ResourceLeaseRegistry

/-! ## Runs -/

namespace LeaseSystem

/-- The lease with the id and the token is in the registry. -/
def Live (s : LeaseSystem) (leaseId : String) (token : Int) : Prop :=
  ∃ lease, s.registry.leases.get? leaseId = some lease ∧ lease.fencingToken = token

/-- The tokens of the registry. -/
def fencing (s : LeaseSystem) : Fencing String Int := ⟨s.Live, s.registry.lastFence⟩

/-- The token an operation hands out. -/
def issues (s : LeaseSystem) : LeaseEvent → Option Int
  | .openLease args allocated =>
    (s.registry.openLease args allocated).1.toOption.map ResourceLease.fencingToken
  | _ => none

/-- The id and the token are good for a `renew`, a `close`, an `authorize` or a `hold`. -/
def Passes (s : LeaseSystem) (leaseId : String) (token : Int) : Prop :=
  (∃ ttlNs nowNs lease r, s.registry.renew leaseId token ttlNs nowNs = (.ok lease, r)) ∨
  (∃ nowNs lease r, s.registry.close leaseId token nowNs = (.ok lease, r)) ∨
  (∃ args lease r, args.leaseId = leaseId ∧ args.fencingToken = token ∧
    s.registry.authorize args = (.ok lease, r)) ∨
  ∃ args lease r, args.leaseId = leaseId ∧ args.fencingToken = token ∧
    s.registry.enterHold args = (.ok lease, r)

/-- The operation ends a lease: it closes it, or reaps it, or finds it expired and removes it. -/
inductive Ends (s : LeaseSystem) : LeaseEvent → String → Int → Prop
  | closed {leaseId : String} {token nowNs : Int} {lease : ResourceLease} {r : ResourceLeaseRegistry} :
      s.registry.close leaseId token nowNs = (.ok lease, r) →
      Ends s (.close leaseId token nowNs) leaseId token
  | reaped {nowNs : Int} {leases : List ResourceLease} {lease : ResourceLease}
      {r : ResourceLeaseRegistry} :
      s.registry.reapExpired nowNs = (.ok leases, r) → lease ∈ leases →
      Ends s (.reapExpired nowNs) lease.leaseId lease.fencingToken
  | removed {e : LeaseEvent} {leaseId : String} {token : Int} :
      s.Live leaseId token → ¬ (s.exec e).Live leaseId token → Ends s e leaseId token

variable {s : LeaseSystem} {leaseId : String} {token : Int}

theorem drop_step {s' : LeaseSystem} (hs : ∀ k l', s'.registry.leases.get? k = some l' →
      ∃ l, s.registry.leases.get? k = some l ∧ Renewal l l')
    (hlast : s'.registry.lastFence = s.registry.lastFence) : Fencing.Step s.fencing s'.fencing none :=
  .drop (fun k _ ⟨l', hl', ht⟩ =>
    have ⟨l, hl, hren⟩ := hs k l' hl'
    ⟨l, hl, hren.fencingToken.symm.trans ht⟩) hlast

/-- What `open_lease` adds has a new token. -/
theorem addLease_step (s : LeaseSystem) {r : ResourceLeaseRegistry} (hr : Shrinks s.registry r)
    (hlast : r.lastFence = s.registry.lastFence) (args : OpenArgs) (allocated : Except Failure Int) :
    Fencing.Step s.fencing (fencing { s with registry := (r.addLease args allocated).2 })
      ((r.addLease args allocated).1.toOption.map ResourceLease.fencingToken) := by
  obtain ⟨e, -, heq⟩ | ⟨token, hnext, heq⟩ := addLease_cases r args allocated
  · rw [heq]
    exact drop_step hr.back hlast
  · rw [heq]
    refine .issue args.leaseId token (hlast.symm.trans_lt (nextFence_lt hnext)) rfl ?_
    rintro k t ⟨l, hl, rfl⟩
    by_cases hk : k = args.leaseId
    · subst hk
      cases (Table.get?_upsert_self (v := args.lease token)).symm.trans hl
      exact .inl ⟨rfl, rfl⟩
    · obtain ⟨l₀, hl₀, hren⟩ := hr.back k l ((Table.get?_upsert_other (v := args.lease token) hk).symm.trans hl)
      exact .inr ⟨l₀, hl₀, hren.fencingToken.symm⟩

theorem openLease_step (s : LeaseSystem) (args : OpenArgs) (allocated : Except Failure Int) :
    Fencing.Step s.fencing (s.exec (.openLease args allocated)).fencing
      (s.issues (.openLease args allocated)) := by
  simp only [exec, issues]
  obtain ⟨e, heq⟩ | ⟨-, heq⟩ := openLease_cases s.registry args allocated
  · rw [heq]
    exact drop_step (beginOpen_shrinks _).back beginOpen_lastFence
  · rw [heq]
    exact addLease_step s (beginOpen_shrinks _) beginOpen_lastFence args allocated

theorem enterHold_step (s : LeaseSystem) (args : AuthorizeArgs) :
    Fencing.Step s.fencing (s.exec (.enterHold args)).fencing none := by
  have hr : Shrinks s.registry (s.registry.authorize args).2 := authorize_shrinks
  have hlast : (s.registry.authorize args).2.lastFence = s.registry.lastFence := authorize_lastFence
  simp only [exec, ResourceLeaseRegistry.enterHold]
  cases ha : s.registry.authorize args with
  | mk result r =>
    rw [ha] at hr hlast
    cases result with
    | error e => exact drop_step hr.back hlast
    | ok lease => exact drop_step hr.back hlast

theorem fencing_step (s : LeaseSystem) (e : LeaseEvent) :
    Fencing.Step s.fencing (s.exec e).fencing (s.issues e) := by
  cases e with
  | openLease args allocated => exact openLease_step s args allocated
  | renew => exact drop_step renew_shrinks.back renew_lastFence
  | close => exact drop_step close_shrinks.back close_lastFence
  | authorize => exact drop_step authorize_shrinks.back authorize_lastFence
  | enterHold args => exact enterHold_step s args
  | exitHold place =>
    simp only [exec, issues]
    split
    · exact drop_step (fun _ l hl => ⟨l, hl, .refl l⟩) rfl
    · exact drop_step (fun _ l hl => ⟨l, hl, .refl l⟩) rfl
  | reapExpired =>
    exact drop_step (checked_shrinks fun _ _ => reap_shrinks _).back (checked_lastFence fun _ => rfl)
  | snapshot =>
    exact drop_step (checked_shrinks fun _ _ => reap_shrinks _).back (checked_lastFence fun _ => rfl)

theorem Passes.live (hp : s.Passes leaseId token) : s.Live leaseId token := by
  rcases hp with ⟨ttlNs, nowNs, lease, r, h⟩ | ⟨nowNs, lease, r, h⟩ | ⟨args, lease, r, rfl, rfl, h⟩ |
    ⟨args, lease, r, rfl, rfl, h⟩
  · obtain ⟨_, -, h⟩ := checked_ok h
    obtain ⟨_, -, h⟩ := checked_ok h
    split at h
    · cases h
    · rename_i l r₁ hl
      obtain ⟨-, hget, htok⟩ := requireLease_ok hl
      exact ⟨l, hget, htok⟩
  · obtain ⟨_, -, h⟩ := checked_ok h
    obtain ⟨l, hl, -⟩ := checked_ok h
    exact ⟨l, lookup_ok hl⟩
  · obtain ⟨-, hget, htok, -⟩ := authorize_ok h
    exact ⟨lease, hget, htok⟩
  · rw [ResourceLeaseRegistry.enterHold] at h
    split at h
    · cases h
    · rename_i l r₁ ha
      obtain ⟨-, hget, htok, -⟩ := authorize_ok ha
      exact ⟨l, hget, htok⟩

/-- What a `close` that returns, or a reaping, took was there, and is gone. -/
theorem Ends.live {e : LeaseEvent} (he : s.Ends e leaseId token) :
    s.Live leaseId token ∧ ¬ (s.exec e).Live leaseId token := by
  cases he with
  | closed h =>
    rename_i nowNs lease r
    refine ⟨Passes.live (.inr (.inl ⟨nowNs, lease, r, h⟩)), ?_⟩
    rintro ⟨l, hl, -⟩
    simp only [exec, h] at hl
    obtain ⟨_, -, h⟩ := checked_ok h
    obtain ⟨_, -, h⟩ := checked_ok h
    split at h
    · cases h
    · split at h
      · cases h
      · cases h
        exact (Table.get?_erase.1 hl).2 rfl
  | reaped h hmem =>
    rename_i nowNs leases lease r
    obtain ⟨_, hnow, h⟩ := checked_ok h
    obtain ⟨rfl, rfl⟩ := Prod.mk.inj h |>.imp Except.ok.inj id
    change lease ∈ List.insertionSort _ _ at hmem
    rw [List.mem_insertionSort, List.mem_filter] at hmem
    refine ⟨⟨lease, Table.get?_of_mem hmem.1, rfl⟩, ?_⟩
    rintro ⟨l, hl, -⟩
    simp only [exec, ResourceLeaseRegistry.reapExpired, checked, hnow] at hl
    obtain ⟨hold, hkept⟩ := Table.get?_filter.1 hl
    cases hold.symm.trans (Table.get?_of_mem hmem.1)
    rw [hmem.2] at hkept
    cases hkept
  | removed hlive hgone => exact ⟨hlive, hgone⟩

theorem Inv.live {flat : Prop} (hi : s.Inv flat) {op : HeldOperation} (hop : op ∈ s.holding) :
    s.Live op.args.leaseId op.args.fencingToken :=
  have ⟨l, hl, _, htok⟩ := hi.pinned op hop
  ⟨l, hl, htok⟩

/-- The lease of an operation inside `hold` is there after whatever comes next. -/
theorem Inv.held {flat : Prop} (hi : s.Inv flat) (e : LeaseEvent) {op : HeldOperation}
    (hop : op ∈ s.holding) : (s.exec e).Live op.args.leaseId op.args.fencingToken := by
  by_cases hkept : op ∈ (s.exec e).holding
  · exact (hi.exec e).live hkept
  -- only the operation that leaves is not inside any more, and leaving removes no lease
  cases e with
  | openLease | renew | close | authorize | reapExpired | snapshot => exact absurd hop hkept
  | enterHold args =>
    refine absurd ?_ hkept
    simp only [LeaseSystem.exec]
    split
    · exact List.mem_cons_of_mem _ hop
    · exact hop
  | exitHold place =>
    obtain ⟨l, hl, htok⟩ := hi.live hop
    simp only [LeaseSystem.exec]
    split <;> exact ⟨l, hl, htok⟩

end LeaseSystem

namespace ReentrantSystem

/-- The token that an event hands out. -/
def issues (s : ReentrantSystem) : ReentrantEvent → Option Int
  | .call event => s.system.issues event
  | .enterOpen _ => none
  | .leaveOpen allocated => s.opening.head?.bind fun args =>
    (s.system.registry.addLease args allocated).1.toOption.map ResourceLease.fencingToken

/-- The tokens handed out in a run. -/
abbrev issued (s : ReentrantSystem) (es : List ReentrantEvent) : List Int := Fencing.issued exec issues s es

/-- The event ends a lease: its call does, or it removes it. -/
inductive Ends (s : ReentrantSystem) : ReentrantEvent → String → Int → Prop
  | call {event : LeaseEvent} {leaseId : String} {token : Int} :
      s.system.Ends event leaseId token → Ends s (.call event) leaseId token
  | removed {e : ReentrantEvent} {leaseId : String} {token : Int} :
      s.system.Live leaseId token → ¬ (s.exec e).system.Live leaseId token → Ends s e leaseId token

/-- A lease that an allocator lets `open_lease` add replaces none with an operation inside `hold`. -/
def Spares (s : ReentrantSystem) : ReentrantEvent → Prop
  | .leaveOpen allocated => ∀ args, s.opening.head? = some args → ∀ token,
    s.system.registry.nextFence allocated = .ok token → ∀ op ∈ s.system.holding, op.args.leaseId ≠ args.leaseId
  | _ => True

variable {s : ReentrantSystem} {leaseId : String} {token : Int}

theorem exec_enterOpen (s : ReentrantSystem) (args : OpenArgs) :
    ∃ r, Shrinks s.system.registry r ∧ r.lastFence = s.system.registry.lastFence ∧
      (s.exec (.enterOpen args)).system = { s.system with registry := r } := by
  rw [exec]
  split
  · refine ⟨_, beginOpen_shrinks args, beginOpen_lastFence, ?_⟩
    split <;> rename_i hbegin <;> rw [hbegin]
  · exact ⟨_, .refl _, rfl, rfl⟩

theorem fencing_step (s : ReentrantSystem) (e : ReentrantEvent) :
    Fencing.Step s.system.fencing (s.exec e).system.fencing (s.issues e) := by
  cases e with
  | call event => exact s.system.fencing_step event
  | enterOpen args =>
    obtain ⟨r, hr, hlast, heq⟩ := exec_enterOpen s args
    rw [heq]
    exact LeaseSystem.drop_step hr.back hlast
  | leaveOpen allocated =>
    rw [exec, issues]
    cases s.opening with
    | nil => exact LeaseSystem.drop_step (fun _ l hl => ⟨l, hl, .refl l⟩) rfl
    | cons args opening => exact LeaseSystem.addLease_step s.system (.refl _) rfl args allocated

theorem Ends.live {e : ReentrantEvent} (he : s.Ends e leaseId token) :
    s.system.Live leaseId token ∧ ¬ (s.exec e).system.Live leaseId token := by
  cases he with
  | call hends => exact hends.live
  | removed hlive hgone => exact ⟨hlive, hgone⟩

theorem Spares.inv {e : ReentrantEvent} (hs : s.Spares e) (hi : s.system.Inv False) :
    (s.exec e).system.Inv False ∧
      ∀ op ∈ s.system.holding, (s.exec e).system.Live op.args.leaseId op.args.fencingToken := by
  cases e with
  | call event => exact ⟨hi.exec event, fun op hop => hi.held event hop⟩
  | enterOpen args =>
    obtain ⟨r, hr, -, heq⟩ := exec_enterOpen s args
    rw [heq]
    exact ⟨hi.shrinks hr, fun op hop => (hi.shrinks hr).live hop⟩
  | leaveOpen allocated =>
    rw [exec]
    cases hopen : s.opening with
    | nil => exact ⟨hi, fun op hop => hi.live hop⟩
    | cons args opening =>
      have hadd := hi.addLease args allocated (fun token => hs args (by rw [hopen]; rfl) token) nofun
      exact ⟨hadd, fun op hop => hadd.live hop⟩

end ReentrantSystem

/-! ## The law -/

/-- The events of a run each have a property in the state before them. -/
def EachStep (P : ReentrantSystem → ReentrantEvent → Prop) (s₀ : ReentrantSystem)
    (es : List ReentrantEvent) : Prop :=
  ∀ before e after, es = before ++ e :: after → P (s₀.run before) e

/-- The event ends no lease with an operation inside `hold`. -/
def HoldKept (s : ReentrantSystem) (e : ReentrantEvent) : Prop :=
  ∀ op ∈ s.system.holding, s.system.Live op.args.leaseId op.args.fencingToken ∧
    ¬ s.Ends e op.args.leaseId op.args.fencingToken

structure LeasesFenced (s₀ : ReentrantSystem) (es : List ReentrantEvent) : Prop where
  increasing : (s₀.issued es).Pairwise (· < ·)
  /-- A lease that has ended does not pass again, though its id be opened anew. -/
  ended : ∀ before e after leaseId token, es = before ++ e :: after →
    (s₀.run before).Ends e leaseId token → ¬ (s₀.run es).system.Passes leaseId token
  held : EachStep ReentrantSystem.Spares s₀ es → EachStep HoldKept s₀ es

def newSystem (ceiling : List String) (maxLeases : Nat) (customAllocator : Bool) : ReentrantSystem :=
  ⟨⟨.new ceiling maxLeases customAllocator, []⟩, []⟩

theorem run_inv (ceiling : List String) (maxLeases : Nat) (customAllocator : Bool)
    (es : List ReentrantEvent)
    (h : EachStep ReentrantSystem.Spares (newSystem ceiling maxLeases customAllocator) es) :
    ((newSystem ceiling maxLeases customAllocator).run es).system.Inv False := by
  induction es using List.reverseRecOn with
  | nil => exact .new ceiling maxLeases customAllocator
  | append_singleton es e ih =>
    rw [ReentrantSystem.run, List.foldl_append]
    refine (ReentrantSystem.Spares.inv (h es e [] rfl) (ih fun before e' after heq => ?_)).1
    exact h before e' (after ++ [e]) (by rw [heq, List.append_assoc, List.cons_append])

/-- Every sequence of operations on a new registry is fenced, with any allocator and whatever it
calls; and where no lease that is added replaces one with an operation inside `hold`, a lease is
kept as long as there is one. -/
theorem lease_fencing (ceiling : List String) (maxLeases : Nat) (customAllocator : Bool)
    (es : List ReentrantEvent) : LeasesFenced (newSystem ceiling maxLeases customAllocator) es := by
  have hstep := ReentrantSystem.fencing_step
  refine ⟨Fencing.issued_increasing hstep es _, ?_, fun hspares => ?_⟩
  · rintro before e after leaseId token rfl hends hpasses
    obtain ⟨hlive, hgone⟩ := hends.live
    have hnew : (newSystem ceiling maxLeases customAllocator).system.fencing.Bounded :=
      fun k t ⟨l, hl, _⟩ => absurd hl nofun
    have hretired := (hstep _ e).retires (Fencing.run_bounded hstep before hnew) hlive hgone
    have hlast := Fencing.run_retired hstep after hretired
    rw [ReentrantSystem.run, List.foldl_append] at hpasses
    exact hlast.2 hpasses.live
  · rintro before e after rfl op hop
    have hi := run_inv ceiling maxLeases customAllocator before fun earlier e' later heq =>
      hspares earlier e' (later ++ e :: after) (by rw [heq, List.append_assoc, List.cons_append])
    exact ⟨hi.live hop, fun hends => hends.live.2 ((hspares before e after rfl).inv hi |>.2 op hop)⟩

def sampleOpen : OpenArgs := ⟨"a", "t", ["c"], [], 10, 0⟩

/-- An allocator that opens the id it is asked a token for, and holds it. -/
def sampleCallBack : List ReentrantEvent :=
  [.enterOpen sampleOpen, .call (.openLease sampleOpen (.ok 1)), .call (.enterHold ⟨"a", 1, "c", none, none, 0⟩)]

/-- The lease that is held is replaced when the allocator returns. -/
theorem held_lease_replaced :
    ¬ EachStep HoldKept (newSystem ["c"] 8 true) (sampleCallBack ++ [.leaveOpen (.ok 2)]) := by
  intro h
  have hheld : ((newSystem ["c"] 8 true).run sampleCallBack).system.holding.map
      (fun op => (op.args.leaseId, op.args.fencingToken)) = [("a", 1)] := by decide +kernel
  have hgone : (((newSystem ["c"] 8 true).run (sampleCallBack ++ [.leaveOpen (.ok 2)])).system.registry.leases.get?
      "a").map (·.fencingToken) = some 2 := by decide +kernel
  obtain ⟨op, hop, hargs⟩ := List.mem_map.1 (hheld ▸ List.mem_singleton_self _)
  obtain ⟨hid, htok⟩ := Prod.mk.inj hargs
  obtain ⟨hlive, hends⟩ := h sampleCallBack _ [] rfl op hop
  rw [hid, htok] at hlive hends
  refine hends (.removed hlive ?_)
  rintro ⟨l, hl, htoken⟩
  have hsame := congrArg (Option.map (·.fencingToken)) hl
  rw [ReentrantSystem.run, List.foldl_append] at hgone
  have htwo := hgone.symm.trans hsame
  rw [Option.map_some, htoken] at htwo
  exact absurd (Option.some.inj htwo) (by decide)

end VeraMono

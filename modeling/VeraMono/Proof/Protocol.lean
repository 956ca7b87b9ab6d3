import VeraMono.Proof.Footprints

/-!
# Protocols

A `Protocol` is an invariant of the state directory and what each call promises of its own
transitions, given its moves so far and the locks it holds. Every thread may assume that the others
make no transition under a lock it holds; `Protocol` says what the others promise beyond that
through the invariant. `sound` carries the invariant over every pool that a run reaches, once each
call keeps its promise (`safe_of_makes`).
-/

namespace VeraMono

open Framework

variable {D : Type}

/-- The moves of a thread, newest first. -/
abbrev Moved (D : Type) := List (Move Lock (VeraState D))

/-- What the others may do to a thread that holds `held`. -/
def Others (R : Runtime D) (held : Finset Lock) (s s' : VeraState D) : Prop :=
  ∃ t : Transition D, t.Does R s s' ∧ ∀ l, t.lock = some l → l ∉ held

structure Protocol (R : Runtime D) where
  inv : VeraState D → Prop
  promise : Call D → Moved D → Finset Lock → VeraState D → Transition D → Prop
  keeps : ∀ {c h held s s' t}, inv s → t.Does R s s' → promise c h held s t → inv s'

namespace Protocol

variable {R : Runtime D} (V : Protocol R)

/-- A transition under its lock, with what the call promises of it. -/
def Makes (c : Call D) (h : Moved D) (held : Finset Lock) (s s' : VeraState D) : Prop :=
  ∃ t : Transition D, t.Does R s s' ∧ (∀ l, t.lock = some l → l ∈ held) ∧ V.promise c h held s t

def discipline : Discipline Lock (VeraState D) (Call D) := ⟨V.inv, fun _ _ => Others R, V.Makes⟩

abbrev contract (c : Call D) : Contract Lock (VeraState D) := V.discipline.contract c

variable {V}

variable {c : Call D} {held : Finset Lock} {α : Type} {p : Op D α}
  {P : Moved D → VeraState D → Prop}

/-- A lock-free routine every transition of which keeps an assertion. -/
theorem within {T : Transition D → Prop} (hp : Within R T p) (hP : (V.contract c).Stable held P)
    (hT : ∀ h s s' t, V.inv s → P h s → T t → t.Does R s s' →
      (∀ l, t.lock = some l → l ∈ held) ∧ V.promise c h held s t ∧ P (⟨.act, s, s'⟩ :: h) s') :
    Triple (V.contract c) held P p fun _ => P :=
  .segment hP hp fun h s s' hi hs ⟨t, ht, hd⟩ =>
    have ⟨hl, hpr, hs'⟩ := hT h s s' t hi hs ht hd
    ⟨V.keeps hi hd hpr, ⟨t, hd, hl, hpr⟩, hs'⟩

/-- A lock-free routine that goes on only when a first read accepts. -/
theorem checked {β : Type} {P' : Moved D → VeraState D → Prop} {T : Transition D → Prop}
    {f : VeraState D → Except Failure α} {k : α → Op D β} (hp : Within R T (.readM f >>= k))
    (hP : (V.contract c).Stable held P) (hP' : (V.contract c).Stable held P')
    (hread : ∀ h s, V.inv s → P h s → V.promise c h held s .idle ∧
      ∀ a, f s = .ok a → P' (⟨.act, s, s⟩ :: h) s)
    (hT : ∀ h s s' t, V.inv s → P' h s → T t → t.Does R s s' →
      (∀ l, t.lock = some l → l ∈ held) ∧ V.promise c h held s t ∧ P' (⟨.act, s, s'⟩ :: h) s') :
    Triple (V.contract c) held P (.readM f >>= k) (OnOk P') :=
  .checked hP hP' hp (fun h s hi hs =>
    have ⟨hpr, hs'⟩ := hread h s hi hs
    ⟨⟨.idle, ⟨trivial, rfl⟩, nofun, hpr⟩, hs'⟩) fun h s s' hi hs ⟨t, ht, hd⟩ =>
    have ⟨hl, hpr, hs'⟩ := hT h s s' t hi hs ht hd
    ⟨V.keeps hi hd hpr, ⟨t, hd, hl, hpr⟩, hs'⟩

/-- A transaction of one store, as the transition it makes. -/
theorem part {γ : Type} {Q : Except Failure α → Moved D → VeraState D → Prop}
    (f : VeraState D → Except Failure (α × γ)) (put : VeraState D → γ → VeraState D)
    (hP : (V.contract c).Stable held P) (hQ : ∀ r, (V.contract c).Stable held (Q r))
    (hok : ∀ h s a x, V.inv s → P h s → f s = .ok (a, x) →
      ∃ t : Transition D, t.Does R s (put s x) ∧ (∀ l, t.lock = some l → l ∈ held) ∧
        V.promise c h held s t ∧ Q (.ok a) (⟨.act, s, put s x⟩ :: h) (put s x))
    (herr : ∀ h s e, V.inv s → P h s → f s = .error e →
      V.promise c h held s .idle ∧ Q (.error e) (⟨.act, s, s⟩ :: h) s) :
    Triple (V.contract c) held P (.txn fun s => (f s).map fun r => (r.1, put s r.2) : Op D α) Q :=
  .part f put hP hQ
    (fun h s a x hi hs hf =>
      have ⟨t, hd, hl, hp, hq⟩ := hok h s a x hi hs hf
      ⟨V.keeps hi hd hp, ⟨t, hd, hl, hp⟩, hq⟩)
    fun h s e hi hs hf =>
      have ⟨hp, hq⟩ := herr h s e hi hs hf
      ⟨⟨.idle, ⟨trivial, rfl⟩, nofun, hp⟩, hq⟩

theorem readM {Q : Except Failure α → Moved D → VeraState D → Prop}
    {f : VeraState D → Except Failure α} (hP : (V.contract c).Stable held P)
    (hQ : ∀ r, (V.contract c).Stable held (Q r))
    (hf : ∀ h s, V.inv s → P h s → V.promise c h held s .idle ∧ Q (f s) (⟨.act, s, s⟩ :: h) s) :
    Triple (V.contract c) held P (.readM f : Op D α) Q :=
  .readM hP hQ fun h s hi hs =>
    have ⟨hp, hq⟩ := hf h s hi hs
    ⟨⟨.idle, ⟨trivial, rfl⟩, nofun, hp⟩, hq⟩

theorem emit {e : WorldEvent D} {Q : Except Failure Unit → Moved D → VeraState D → Prop}
    (hP : (V.contract c).Stable held P) (hQ : ∀ r, (V.contract c).Stable held (Q r))
    (hl : .lifecycle ∈ held)
    (hok : ∀ h s, V.inv s → P h s → V.promise c h held s (.world e) ∧
      Q (.ok ()) (⟨.act, s, { s with world := e :: s.world }⟩ :: h)
        { s with world := e :: s.world }) :
    Triple (V.contract c) held P (Op.emit e : Op D Unit) Q := by
  refine .txn hP hQ (fun h s _ s' hi hs ht => ?_) fun _ _ _ _ _ ht => nomatch ht
  cases ht
  obtain ⟨hp, hq⟩ := hok h s hi hs
  have hd : (Transition.world e).Does R s { s with world := e :: s.world } := ⟨trivial, rfl⟩
  exact ⟨V.keeps hi hd hp, ⟨_, hd, fun l hl' => by cases hl'; exact hl, hp⟩, hq⟩

variable [DecidableEq D]

/-- A call whose promise is kept by each of its transitions. -/
theorem safe_of_makes (hT : ∀ h held s t, V.inv s → c.makes t → t.Enabled R s →
      (∀ l, t.lock = some l → l ∈ held) → V.promise c h held s t) {s : VeraState D}
    (hi : V.inv s) :
    Safe (V.contract c) (fun _ held _ _ => held = ∅) (program R c) ∅ [] s :=
  .of_locked (program_locked c) (fun h held s _ hi ⟨t, ht, hl, hd⟩ =>
    have hp := hT h held s t hi ht hd.enabled hl
    ⟨V.keeps hi hd hp, t, hd, hl, hp⟩) hi

theorem disciplined {Q : Call D → Post Lock (VeraState D) Failure (Reply D)}
    (hc : ∀ c s, V.inv s → Safe (V.contract c) (Q c) (program R c) ∅ [] s) :
    Disciplined V.discipline Q (program R) where
  spawn := hc
  rely hdisj _ _ := fun ⟨t, hd, hl, _⟩ =>
    ⟨t, hd, fun l hlock => Finset.disjoint_left.1 hdisj (hl l hlock)⟩

/-- Every pool that a run of the system reaches. -/
theorem sound {Q : Call D → Post Lock (VeraState D) Failure (Reply D)}
    (hc : ∀ c s, V.inv s → Safe (V.contract c) (Q c) (program R c) ∅ [] s) (d : D)
    (hi : V.inv (VeraState.initial R.hash d)) (es : List (Event (Call D))) :
    Sound V.discipline Q (VeraState.initial R.hash d) (VeraPool.run R d es) :=
  (Sound.init hi).run (disciplined hc) es

end Protocol

/-! ## Gateways -/

section Gateway
variable {R : Runtime D} {Γ : Contract Lock (VeraState D)} {P Q : Moved D → VeraState D → Prop}

/-- An assertion that taking or releasing a lock does not change. -/
def LockFree (P : Moved D → VeraState D → Prop) : Prop :=
  ∀ k h s, k ≠ .act → P h s → P (⟨k, s, s⟩ :: h) s

/-- The locks a dispatch works under. -/
def gatewayLocks (trust : Bool) : Finset Lock := if trust then {.trust, .lifecycle} else {.lifecycle}

theorem lifecycle_mem_gatewayLocks : ∀ trust, .lifecycle ∈ gatewayLocks trust := by decide

/-- What the code of a lock scope ends with, it ends with. -/
theorem withLock_triple {α : Type} {l : Lock} {held : Finset Lock} {p : Op D α} (hl : l ∉ held)
    (hP : ∀ held, Γ.Stable held P) (hQ : ∀ held, Γ.Stable held Q) (hPQ : ∀ h s, P h s → Q h s)
    (hPl : LockFree P) (hQl : LockFree Q) (hp : Triple Γ (insert l held) P p fun _ => Q) :
    Triple Γ held P (Op.withLock l p) fun _ => Q :=
  .withLock hl (hP _) (fun _ => hQ _) (fun h s _ => hPl _ h s nofun) hp
    (fun _ h s _ => hQl _ h s nofun) fun h s _ hs => hQl _ h s nofun (hPQ h s hs)

variable [DecidableEq D]

theorem dispatchVerified_triple {trust : Bool} {args : DispatchArgs D}
    (hP : ∀ held, Γ.Stable held P) (hQ : ∀ held, Γ.Stable held Q) (hPQ : ∀ h s, P h s → Q h s)
    (hPl : LockFree P) (hQl : LockFree Q)
    (hbody : args.effectId ≠ "" → ∀ d,
      Triple Γ (gatewayLocks trust) P (dispatchLocked R args d) fun _ => Q) :
    Triple Γ ∅ P (dispatchVerified R trust args) fun _ => Q := by
  refine .guard (hQ _) (fun h s _ hs _ => hPQ h s hs) fun hid => .guard (hQ _)
    (fun h s _ hs _ => hPQ h s hs) fun _ => .bind (Q := fun _ => P)
    (.ofExcept (hP _) fun _ _ _ hs => hs) (fun d => ?_) fun _ h s _ hs => hPQ h s hs
  refine withLock_triple (by decide) hP hQ hPQ hPl hQl ?_
  cases trust with
  | false => exact hbody hid d
  | true => exact withLock_triple (by decide) hP hQ hPQ hPl hQl (hbody hid d)

theorem invoke_triple {args : InvokeArgs D} (hP : ∀ held, Γ.Stable held P)
    (hQ : ∀ held, Γ.Stable held Q) (hPQ : ∀ h s, P h s → Q h s)
    (hcommands : ∀ h s s' (t : Transition D), Γ.inv s → (t = .idle ∨ ∃ j, t = .commands j) → t.Does R s s' →
      Γ.inv s' ∧ Γ.guar h ∅ s s' ∧ (P h s → P (⟨.act, s, s'⟩ :: h) s') ∧
        (Q h s → Q (⟨.act, s, s'⟩ :: h) s'))
    (hdispatch : ∀ d, Triple Γ ∅ P (dispatchVerified R false (coordinationDispatch args d)) fun _ => Q) :
    Triple Γ ∅ P (invoke R args) fun _ => Q := by
  have hlift {β : Type} (r : Except Failure β) : Triple Γ ∅ P (Op.lift r) fun _ => P :=
    .ofExcept (hP _) fun _ _ _ hs => hs
  have hstep {β γ : Type} {p : Op D β} {f : β → Op D γ} (hp : Triple Γ ∅ P p fun _ => P)
      (hf : ∀ b, Triple Γ ∅ P (f b) fun _ => Q) : Triple Γ ∅ P (p >>= f) fun _ => Q :=
    .bind hp hf fun _ h s _ hs => hPQ h s hs
  have hbind {binding : CommandBinding D} :
      Triple Γ ∅ P (bindCommand R args binding) fun _ => P :=
    .segment (hP _) (bindCommand_within (.inl rfl) fun j => .inr ⟨j, rfl⟩)
      fun h s s' hi hs ⟨t, ht, hd⟩ =>
        have ⟨hi', hg, hp, _⟩ := hcommands h s s' t hi ht hd
        ⟨hi', hg, hp hs⟩
  have hrecord {receipt : CommandReceipt} {d : D} :
      Triple Γ ∅ Q (recordResult R args receipt d) fun _ => Q :=
    .segment (hQ _) (recordResult_within (.inl rfl) fun j => .inr ⟨j, rfl⟩)
      fun h s s' hi hs ⟨t, ht, hd⟩ =>
        have ⟨hi', hg, _, hq⟩ := hcommands h s s' t hi ht hd
        ⟨hi', hg, hq hs⟩
  refine .guard (hQ _) (fun h s _ hs _ => hPQ h s hs) fun _ => hstep (hlift _) fun _ =>
    hstep (hlift _) fun _ => hstep (hlift _) fun _ => hstep (hlift _) fun _ => hstep (hlift _)
    fun _ => hstep hbind fun _ => .bind (hdispatch _) (fun _ => ?_) fun _ _ _ _ hs => hs
  cases args.receipt with
  | none => exact .throw (Q := fun _ => Q) (hQ _) fun _ _ _ hs => hs
  | some receipt =>
    exact .bind hrecord (fun _ => .pure (Q := fun _ => Q) (hQ _) fun _ _ _ hs => hs)
      fun _ _ _ _ hs => hs

end Gateway

end VeraMono

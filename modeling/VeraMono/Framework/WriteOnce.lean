import VeraMono.Framework.Pool

/-!
# Files that are written once

A `Shelf` is a store of cells that are never changed once they hold a value, with a log that only
grows. `createOnce` is how a program fills a cell beside others that may fill it too: it looks
first, then links, which fills the cell or finds it filled, and compares what it finds with what
it would have written.
-/

namespace VeraMono.Framework

variable {P V E C ε α β : Type}

/-! ## A thread that runs alone -/

section
variable {σ : Type} {p : Prog Empty σ ε α}

/-- What is reached beside any others is reached alone. -/
theorem Safe.run {Γ : Contract Empty σ} {Q : Post Empty σ ε α} {held : Finset Empty} {h : List (Move Empty σ)} {s : σ}
    (hp : Safe Γ Q p held h s) (hi : Γ.inv s) : Γ.inv (p.run s).2 ∧ ∃ h', Q (p.run s).1 held h' (p.run s).2 := by
  induction p generalizing h s with
  | ret | raise => exact ⟨hi, h, hp s .refl⟩
  | atom act next ih =>
    obtain ⟨hi', -, hn⟩ := hp s .refl
    exact ih s hn hi'
  | acquire l | release l => exact l.elim

/-- A thread that makes all its moves at once ends as its program does. -/
theorem Pool.run_alone (program : C → Prog Empty σ ε α) {P : Pool Empty σ ε α C} {i : Nat} {c : C}
    (hi : P.thread i = some ⟨c, some p⟩) : ∃ n,
      let P' := P.run program (List.replicate n (.step i))
      P'.store = (p.run P.store).2 ∧ P'.thread i = some ⟨c, some (.ofExcept (p.run P.store).1)⟩ ∧
        ∀ j, j ≠ i → P'.thread j = P.thread j := by
  induction p generalizing P with
  | ret | raise => exact ⟨0, rfl, hi, fun _ _ => rfl⟩
  | atom act next ih =>
    have hstep : P.exec program (.step i) = P.move i c .act (act P.store) (next P.store) := by
      simp only [Pool.exec, hi, Pool.stepThread]
    obtain ⟨n, hstore, hthread, hothers⟩ := ih P.store (P := P.move i c .act (act P.store) (next P.store))
      (Function.update_self ..)
    refine ⟨n + 1, ?_⟩
    rw [List.replicate_succ]
    have hrun : P.run program (.step i :: List.replicate n (.step i)) =
        (P.move i c .act (act P.store) (next P.store)).run program (List.replicate n (.step i)) := by
      rw [← hstep]
      rfl
    dsimp only
    rw [hrun]
    exact ⟨hstore, hthread, fun j hj => (hothers j hj).trans (Function.update_of_ne hj ..)⟩
  | acquire l | release l => exact l.elim

end

structure Shelf (P V E : Type) where
  cells : P → Option V
  log : List E

namespace Shelf

variable [DecidableEq P]

/-- The shelf with a cell filled. -/
def put (s : Shelf P V E) (p : P) (v : V) : Shelf P V E := { s with cells := Function.update s.cells p (some v) }

@[simp] theorem put_self (s : Shelf P V E) (p : P) (v : V) : (s.put p v).cells p = some v :=
  Function.update_self ..

theorem put_other (s : Shelf P V E) {p q : P} (v : V) (h : q ≠ p) : (s.put p v).cells q = s.cells q :=
  Function.update_of_ne h ..

@[simp] theorem put_log (s : Shelf P V E) (p : P) (v : V) : (s.put p v).log = s.log := rfl

/-- The filled cells are as they were, and the log goes on. -/
structure Grown (s s' : Shelf P V E) : Prop where
  cells : ∀ p v, s.cells p = some v → s'.cells p = some v
  log : s.log <+: s'.log

omit [DecidableEq P] in
theorem Grown.refl (s : Shelf P V E) : Grown s s := ⟨fun _ _ h => h, List.prefix_refl _⟩

theorem Grown.put {s : Shelf P V E} {p : P} (v : V) (h : s.cells p = none) : Grown s (s.put p v) where
  cells q w hq := by
    rw [put_other s v fun heq => by rw [heq, h] at hq; cases hq]
    exact hq
  log := List.prefix_refl _

/-- What is found on a shelf is found ever after. -/
def Lasting (K : Shelf P V E → Prop) : Prop := ∀ s s', Grown s s' → K s → K s'

section
omit [DecidableEq P]

theorem Lasting.and {K K' : Shelf P V E → Prop} (h : Lasting K) (h' : Lasting K') :
    Lasting fun s => K s ∧ K' s :=
  fun s s' hs hk => ⟨h s s' hs hk.1, h' s s' hs hk.2⟩

theorem Lasting.const (p : Prop) : Lasting fun _ : Shelf P V E => p := fun _ _ _ h => h

theorem Lasting.exists {ι : Sort*} {K : ι → Shelf P V E → Prop} (h : ∀ i, Lasting (K i)) :
    Lasting fun s => ∃ i, K i s :=
  fun s s' hs ⟨i, hk⟩ => ⟨i, h i s s' hs hk⟩

theorem Lasting.forall {ι : Sort*} {K : ι → Shelf P V E → Prop} (h : ∀ i, Lasting (K i)) :
    Lasting fun s => ∀ i, K i s :=
  fun s s' hs hk i => h i s s' hs (hk i)

theorem lasting_cell {p : P} {v : V} : Lasting fun s : Shelf P V E => s.cells p = some v :=
  fun _ _ h => h.cells p v

def Filled (p : P) (s : Shelf P V E) : Prop := ∃ v, s.cells p = some v

theorem lasting_filled {p : P} : Lasting (Filled p : Shelf P V E → Prop) := .exists fun _ => lasting_cell

theorem lasting_logged {e : E} : Lasting fun s : Shelf P V E => e ∈ s.log := fun _ _ h => h.log.mem

end

/-! ## The programs -/

omit [DecidableEq P] in
/-- What a cell holds. -/
def look (p : P) : Prog Empty (Shelf P V E) ε (Option V) := .read fun s => s.cells p

/-- Fills a cell that is empty, and says whether it was. -/
def link (p : P) (v : V) : Prog Empty (Shelf P V E) ε Bool :=
  .txn fun s =>
    match s.cells p with
    | none => .ok (true, s.put p v)
    | some _ => .ok (false, s)

omit [DecidableEq P] in
/-- Logs an entry made of the log before it. -/
def record (make : List E → E) : Prog Empty (Shelf P V E) ε E :=
  .txn fun s => .ok (make s.log, { s with log := s.log ++ [make s.log] })

variable [DecidableEq V]

omit [DecidableEq P] in
/-- What is found where a cell was found filled: `v`, or an error. -/
def matching (p : P) (v : V) (conflict missing : ε) : Prog Empty (Shelf P V E) ε Bool :=
  look p >>= fun
    | none => .raise missing
    | some found => if found = v then .ret false else .raise conflict

/-- Fills a cell once: `false` when it holds the value already. -/
def createOnce (p : P) (v : V) (conflict missing : ε) : Prog Empty (Shelf P V E) ε Bool := do
  let found ← look p
  if found.isSome then matching p v conflict missing
  else
    let created ← link p v
    if created then return true else matching p v conflict missing

end Shelf

/-! ## The contract of threads over one shelf -/

namespace Shelf

variable {inv : Shelf P V E → Prop} {K : Shelf P V E → Prop} {A : P → Prop} {p : P} {v : V}
  {h : List (Move Empty (Shelf P V E))} {s s' : Shelf P V E}

/-- Threads that only fill cells and add to the log. -/
def discipline (inv : Shelf P V E → Prop) (C : Type) : Discipline Empty (Shelf P V E) C where
  inv := inv
  rely _ _ _ := Grown
  guar _ _ _ := Grown

abbrev contract (inv : Shelf P V E → Prop) : Contract Empty (Shelf P V E) := ⟨inv, fun _ _ => Grown, fun _ _ => Grown⟩

/-- No move of the thread filled one of these cells. -/
def Avoids (A : P → Prop) (h : List (Move Empty (Shelf P V E))) : Prop :=
  ∀ m ∈ h, ∀ p, A p → m.before.cells p = none → m.after.cells p = none

theorem Avoids.cons (hA : Avoids A h) (hs : ∀ p, A p → s.cells p = none → s'.cells p = none) :
    Avoids A (⟨.act, s, s'⟩ :: h) :=
  List.forall_mem_cons.2 ⟨hs, hA⟩

theorem Avoids.read (hA : Avoids A h) : Avoids A (⟨.act, s, s⟩ :: h) := hA.cons fun _ _ hp => hp

/-- The last move of the thread filled the cell, and no move before it one of these. -/
def Filling [DecidableEq P] (A : P → Prop) (p : P) (v : V) (h : List (Move Empty (Shelf P V E))) : Prop :=
  ∃ m rest, h = m :: rest ∧ Avoids A rest ∧ m.before.cells p = none ∧ m.after = m.before.put p v

theorem stable_lasting {R : List (Move Empty (Shelf P V E)) → Prop} (hK : Lasting K) :
    (contract inv).Stable ∅ fun h s => R h ∧ K s :=
  fun _ s s' _ _ hs hg => ⟨hs.1, hK s s' hg hs.2⟩

variable [DecidableEq P]

theorem Filling.avoids (hf : Filling A p v h) (hp : ¬ A p) : Avoids A h := by
  obtain ⟨m, rest, rfl, hrest, -, hafter⟩ := hf
  refine List.forall_mem_cons.2 ⟨fun q hq hnone => ?_, hrest⟩
  have hne : q ≠ p := fun heq => hp (heq ▸ hq)
  rw [hafter, put_other _ v hne, hnone]

omit [DecidableEq P] in
theorem look_triple (hK : Lasting K) :
    Triple (contract inv) ∅ (fun h s => Avoids A h ∧ K s) (look p : Prog Empty (Shelf P V E) ε (Option V))
      fun r h s => ∃ found, r = .ok found ∧ Avoids A h ∧ K s ∧ ∀ w, found = some w → s.cells p = some w := by
  refine .readM (stable_lasting hK) (fun r => ?_) fun h s _ hs => ⟨.refl s, s.cells p, rfl, hs.1.read, hs.2, ?_⟩
  · exact .exists fun found h s s' _ _ ⟨hr, hA, hk, hw⟩ hg =>
      ⟨hr, hA, hK s s' hg hk, fun w hf => hg.cells _ _ (hw w hf)⟩
  · exact fun w hw => hw

theorem link_triple (hK : Lasting K)
    (hinv : ∀ s, inv s → K s → s.cells p = none → inv (s.put p v)) :
    Triple (contract inv) ∅ (fun h s => Avoids A h ∧ K s) (link p v : Prog Empty (Shelf P V E) ε Bool)
      fun r h s => (r = .ok true ∧ Filling A p v h ∧ K s ∧ s.cells p = some v) ∨
        (r = .ok false ∧ Avoids A h ∧ K s ∧ Filled p s) := by
  refine .txn (stable_lasting hK) (fun r => ?_) (fun h s created s' hi hs ht => ?_) fun h s e _ _ ht => ?_
  · exact .or (.and (.hist fun _ => r = .ok true) (stable_lasting (hK.and lasting_cell)))
      (.and (.hist fun _ => r = .ok false) (stable_lasting (hK.and lasting_filled)))
  · cases hp : s.cells p with
    | none =>
      simp only [hp, Except.ok.injEq, Prod.mk.injEq] at ht
      obtain ⟨rfl, rfl⟩ := ht
      have hg : Grown s (s.put p v) := .put v hp
      exact ⟨hinv s hi hs.2 hp, hg, .inl ⟨rfl, ⟨_, h, rfl, hs.1, hp, rfl⟩, hK s _ hg hs.2, put_self s p v⟩⟩
    | some w =>
      simp only [hp, Except.ok.injEq, Prod.mk.injEq] at ht
      obtain ⟨rfl, rfl⟩ := ht
      exact ⟨hi, .refl s, .inr ⟨rfl, hs.1.read, hs.2, w, hp⟩⟩
  · split at ht <;> cases ht

omit [DecidableEq P] in
theorem find_triple (hK : Lasting K) :
    Triple (contract inv) ∅ (fun h s => Avoids A h ∧ K s ∧ Filled p s)
      (look p : Prog Empty (Shelf P V E) ε (Option V))
      fun r h s => ∃ w, r = .ok (some w) ∧ Avoids A h ∧ K s ∧ s.cells p = some w := by
  refine .readM (stable_lasting (hK.and lasting_filled)) (fun r => ?_) fun h s _ hs => ⟨.refl s, ?_⟩
  · exact .exists fun w h s s' _ _ ⟨hr, hA, hk, hw⟩ hg => ⟨hr, hA, hK s s' hg hk, hg.cells _ _ hw⟩
  · obtain ⟨hA, hk, w, hw⟩ := hs
    exact ⟨w, congrArg Except.ok hw, hA.read, hk, hw⟩

omit [DecidableEq P] in
theorem record_triple {make : List E → E} (hK : Lasting K)
    (hinv : ∀ s, inv s → inv { s with log := s.log ++ [make s.log] }) :
    Triple (contract inv) ∅ (fun h s => Avoids A h ∧ K s) (record make : Prog Empty (Shelf P V E) ε E)
      fun r h s => ∃ e, r = .ok e ∧ Avoids A h ∧ K s ∧ e ∈ s.log := by
  refine .txn (stable_lasting hK) (fun r => ?_) (fun h s e s' hi hs ht => ?_) fun h s e _ _ ht => ?_
  · exact .exists fun e => .and (.hist fun _ => r = .ok e) (stable_lasting (hK.and lasting_logged))
  · simp only [Except.ok.injEq, Prod.mk.injEq] at ht
    obtain ⟨rfl, rfl⟩ := ht
    have hg : Grown s { s with log := s.log ++ [make s.log] } := ⟨fun _ _ hp => hp, List.prefix_append _ _⟩
    exact ⟨hinv s hi, hg, _, rfl, hs.1.cons fun _ _ hp => hp, hK s _ hg hs.2, by simp⟩
  · cases ht

/-- What a thread knows where a cell was filled before it could. -/
def Met [DecidableEq V] (A : P → Prop) (K : Shelf P V E → Prop) (p : P) (v : V) (conflict : ε)
    (r : Except ε Bool) (h : List (Move Empty (Shelf P V E))) (s : Shelf P V E) : Prop :=
  Avoids A h ∧ K s ∧ ∃ w, s.cells p = some w ∧ r = if w = v then .ok false else .error conflict

variable [DecidableEq V]

omit [DecidableEq P] in
theorem met_stable {conflict : ε} (hK : Lasting K) (r : Except ε Bool) :
    (contract inv).Stable ∅ (Met A K p v conflict r) :=
  stable_lasting (hK.and (.exists fun _ => lasting_cell.and (.const _)))

omit [DecidableEq P] in
theorem matching_triple {conflict missing : ε} (hK : Lasting K) :
    Triple (contract inv) ∅ (fun h s => Avoids A h ∧ K s ∧ Filled p s) (matching p v conflict missing)
      (Met A K p v conflict) := by
  refine .bind (find_triple hK) (fun found => ?_) fun e h s _ he => ?_
  · rintro h s hi ⟨w, hfound, hA, hk, hw⟩
    obtain rfl : found = some w := Except.ok.inj hfound
    dsimp only
    split
    · next heq =>
      exact Triple.pure (P := fun h s => Avoids A h ∧ K s ∧ s.cells p = some w) (met_stable hK _)
        (fun h s _ hs => ⟨hs.1, hs.2.1, w, hs.2.2, (if_pos heq).symm⟩) h s hi ⟨hA, hk, hw⟩
    · next hne =>
      exact Triple.throw (P := fun h s => Avoids A h ∧ K s ∧ s.cells p = some w) (met_stable hK _)
        (fun h s _ hs => ⟨hs.1, hs.2.1, w, hs.2.2, (if_neg hne).symm⟩) h s hi ⟨hA, hk, hw⟩
  · obtain ⟨w, hfound, -⟩ := he
    cases hfound

/-- A cell is filled by the thread itself, or it was filled before. -/
def Created (A : P → Prop) (K : Shelf P V E → Prop) (p : P) (v : V) (conflict : ε)
    (r : Except ε Bool) (h : List (Move Empty (Shelf P V E))) (s : Shelf P V E) : Prop :=
  (r = .ok true ∧ Filling A p v h ∧ K s ∧ s.cells p = some v) ∨ Met A K p v conflict r h s

theorem created_stable {conflict : ε} (hK : Lasting K) (r : Except ε Bool) :
    (contract inv).Stable ∅ (Created A K p v conflict r) :=
  .or (.and (.hist fun _ => r = .ok true) (stable_lasting (hK.and lasting_cell))) (met_stable hK r)

theorem createOnce_triple {conflict missing : ε} (hK : Lasting K)
    (hinv : ∀ s, inv s → K s → s.cells p = none → inv (s.put p v)) :
    Triple (contract inv) ∅ (fun h s => Avoids A h ∧ K s) (createOnce p v conflict missing)
      (Created A K p v conflict) := by
  have hmet : Triple (contract inv) ∅ (fun h s => Avoids A h ∧ K s ∧ Filled p s)
      (matching p v conflict missing) (Created A K p v conflict) :=
    (matching_triple hK).conseq (fun _ _ _ hs => hs) fun _ _ _ _ hr => .inr hr
  refine .bind (look_triple hK) (fun found => ?_) fun e h s _ he => ?_
  · rintro h s hi ⟨found', hfound, hA, hk, hw⟩
    obtain rfl : found = found' := Except.ok.inj hfound
    cases found with
    | some w => exact hmet h s hi ⟨hA, hk, w, hw w rfl⟩
    | none =>
      refine Triple.bind (P := fun h s => Avoids A h ∧ K s) (link_triple hK hinv) (fun created => ?_)
        (fun e h s _ he => ?_) h s hi ⟨hA, hk⟩
      · cases created with
        | true =>
          refine .pure (created_stable hK _) fun h s _ hs => ?_
          rcases hs with ⟨-, hs⟩ | ⟨hr, -⟩
          · exact .inl ⟨rfl, hs⟩
          · cases hr
        | false =>
          refine Triple.conseq hmet (fun h s _ hs => ?_) fun _ _ _ _ hr => hr
          rcases hs with ⟨hr, -⟩ | ⟨-, hs⟩
          · cases hr
          · exact hs
      · rcases he with ⟨hr, -⟩ | ⟨hr, -⟩ <;> cases hr
  · obtain ⟨_, hfound, -⟩ := he
    cases hfound

/-! ## Every run -/

/-- A step of the trace that fills a cell. -/
def Fills (p : P) (st : Step Empty (Shelf P V E) C) : Prop :=
  st.move.before.cells p = none ∧ Filled p st.move.after

section
variable {s₀ : Shelf P V E} {trace : List (Step Empty (Shelf P V E) C)} {st st' : Step Empty (Shelf P V E) C}

omit [DecidableEq P] [DecidableEq V] in
/-- What a cell once held it holds at the end. -/
theorem kept (hv : Valid (discipline inv C) s₀ trace s) (hst : st ∈ trace)
    (hp : st.move.before.cells p = some v ∨ st.move.after.cells p = some v) : s.cells p = some v := by
  have hkeep : ∀ (c : C) (h : List (Move Empty (Shelf P V E))) (held : Finset Empty) (t t' : Shelf P V E),
      inv t → Grown t t' → t.cells p = some v → t'.cells p = some v := fun _ _ _ _ _ _ hg => hg.cells p v
  exact hp.elim (hv.persist_before hkeep hst) (hv.persist hkeep hst)

omit [DecidableEq P] [DecidableEq V] in
/-- A cell is filled by one step at most. -/
theorem filled_once (hv : Valid (discipline inv C) s₀ trace s) (hst : st ∈ trace) (hst' : st' ∈ trace)
    (hf : Fills p st) (hf' : Fills p st') : st = st' := by
  induction hv with
  | init => cases hst
  | lock _ _ k hk => cases k <;> rename_i l <;> first | exact l.elim | exact (hk rfl).elim
  | @act trace t t' i c hv hi hg ih =>
    -- A cell that an earlier step filled is not empty before the last one.
    have hlast {st : Step Empty (Shelf P V E) C} (hst : st ∈ trace) (hf : Fills p st) : t.cells p ≠ none := by
      obtain ⟨v, hv'⟩ := hf.2
      rw [kept hv hst (.inr hv')]
      exact Option.some_ne_none v
    rcases List.mem_cons.1 hst with rfl | hst <;> rcases List.mem_cons.1 hst' with rfl | hst'
    · rfl
    · exact absurd hf.1 (hlast hst' hf')
    · exact absurd hf'.1 (hlast hst hf)
    · exact ih hst hst'

omit [DecidableEq P] [DecidableEq V] in
/-- A cell that was empty at first was filled by a step. -/
theorem filled_by (hv : Valid (discipline inv C) s₀ trace s) (h₀ : s₀.cells p = none) (hp : Filled p s) :
    ∃ st ∈ trace, Fills p st := by
  induction hv with
  | init =>
    obtain ⟨v, hv⟩ := hp
    rw [h₀] at hv
    cases hv
  | lock _ _ _ _ _ ih =>
    obtain ⟨st, hst, hf⟩ := ih hp
    exact ⟨st, List.mem_cons_of_mem _ hst, hf⟩
  | @act trace t t' i c hv hi hg ih =>
    cases ht : t.cells p with
    | none => exact ⟨_, List.mem_cons_self, ht, hp⟩
    | some v =>
      obtain ⟨st, hst, hf⟩ := ih ⟨v, ht⟩
      exact ⟨st, List.mem_cons_of_mem _ hst, hf⟩

end

end Shelf

end VeraMono.Framework

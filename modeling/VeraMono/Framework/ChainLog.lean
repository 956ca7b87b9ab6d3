import Mathlib.Data.List.Induction
import Mathlib.Data.List.Nodup

/-!
# Digest-chained append-only logs

A log whose entries each carry the digest of the entry before them, with the number of entries and
the last digest kept beside them. A body is filed under a key: filing the same payload under a
taken key again is a replay, which answers with the entry there is, and another payload is
refused.
-/

namespace VeraMono.Framework

variable {B D K P A ε : Type}

/-- How bodies are filed and chained: `digest n d b` is the digest of the `n`-th
entry, with body `b`, after an entry with digest `d`. -/
structure Chaining (B D K P : Type) where
  key : B → K
  payload : B → P
  digest : Nat → D → B → D
  genesis : D

structure Entry (B D : Type) where
  sequence : Nat
  body : B
  predecessor : D
  digest : D
  deriving DecidableEq, Repr

/-- The entries in order of sequence, with the counters kept beside them. -/
structure ChainLog (B D : Type) where
  entries : List (Entry B D)
  sequence : Nat
  head : D
  deriving DecidableEq, Repr

/-- Why an entry was refused. -/
inductive AppendFault
  | replay
  | conflict
  deriving DecidableEq, Repr

/-- What is wrong with a chain; `extra` is a fault of the caller's own checks. -/
inductive VerifyFault (ε : Type)
  | gap
  | predecessor
  | extra (e : ε)
  | digest
  | metaSequence
  | metaHead

namespace Chaining

variable (X : Chaining B D K P)

/-- The log with no entries. -/
def empty : ChainLog B D := ⟨[], 0, X.genesis⟩

/-- The entry filed under a key. -/
def lookup [DecidableEq K] (log : ChainLog B D) (k : K) : Option (Entry B D) :=
  log.entries.find? fun e => X.key e.body = k

def next (log : ChainLog B D) (b : B) : Entry B D :=
  ⟨log.sequence + 1, b, log.head, X.digest (log.sequence + 1) log.head b⟩

/-- The log with its next entry added. -/
def extend (log : ChainLog B D) (b : B) : ChainLog B D :=
  ⟨log.entries ++ [X.next log b], log.sequence + 1, (X.next log b).digest⟩

/-- Files a body: a replay changes nothing, and digests are unique. -/
def append [DecidableEq K] [DecidableEq P] [DecidableEq D] (log : ChainLog B D) (b : B) : Except AppendFault (Entry B D × ChainLog B D) :=
  match X.lookup log (X.key b) with
  | some e => if X.payload e.body = X.payload b then .ok (e, log) else .error .replay
  | none =>
    if ∃ e ∈ log.entries, e.digest = (X.next log b).digest then .error .conflict
    else .ok (X.next log b, X.extend log b)

/-- Reads entries back, from the number and digest of the entry before them; the
caller's checks run over the bodies with an accumulator. -/
def scan [DecidableEq D] (check : A → B → Except ε A) : Nat → D → A → List (Entry B D) →
    Except (VerifyFault ε) (Nat × D × A)
  | n, d, a, [] => .ok (n, d, a)
  | n, d, a, e :: es =>
    if e.sequence ≠ n + 1 then .error .gap
    else if e.predecessor ≠ d then .error .predecessor
    else match check a e.body with
      | .error f => .error (.extra f)
      | .ok a' =>
        if X.digest e.sequence e.predecessor e.body ≠ e.digest then .error .digest
        else scan check (n + 1) e.digest a' es

/-- Verifies a chain against its counters and answers with its head. -/
def verify [DecidableEq D] (check : A → B → Except ε A) (a : A) (entries : List (Entry B D)) (sequence : Nat)
    (head : D) : Except (VerifyFault ε) D :=
  match X.scan check 0 X.genesis a entries with
  | .error f => .error f
  | .ok (n, d, _) =>
    if sequence ≠ n then .error .metaSequence
    else if head ≠ d then .error .metaHead
    else .ok head

/-- Entries that continue a chain of `n` entries ending in `d` to one of `n'` ending in `d'`. -/
def Linked : Nat → D → List (Entry B D) → Nat → D → Prop
  | n, d, [], n', d' => n' = n ∧ d' = d
  | n, d, e :: es, n', d' =>
    e = ⟨n + 1, e.body, d, X.digest (n + 1) d e.body⟩ ∧ Linked (n + 1) e.digest es n' d'

/-- The chain is unbroken and its keys are distinct. -/
structure WellFormed (log : ChainLog B D) : Prop where
  linked : X.Linked 0 X.genesis log.entries log.sequence log.head
  nodup : (log.entries.map fun e => X.key e.body).Nodup

variable {X} {n n' : Nat} {d d' : D} {es : List (Entry B D)} {log log' : ChainLog B D} {b : B}

theorem Linked.snoc (h : X.Linked n d es n' d') (b : B) :
    X.Linked n d (es ++ [⟨n' + 1, b, d', X.digest (n' + 1) d' b⟩]) (n' + 1)
      (X.digest (n' + 1) d' b) := by
  induction es generalizing n d with
  | nil =>
    obtain ⟨rfl, rfl⟩ := h
    exact ⟨rfl, rfl, rfl⟩
  | cons e es ih => exact ⟨h.1, ih h.2⟩

theorem Linked.length (h : X.Linked n d es n' d') : n' = n + es.length := by
  induction es generalizing n d with
  | nil => exact h.1
  | cons e es ih =>
    rw [ih h.2, List.length_cons]
    omega

theorem Linked.head_eq {m : Nat} {dm : D} (h : X.Linked n d es n' d') (h' : X.Linked n d es m dm) :
    d' = dm := by
  induction es generalizing n d with
  | nil => exact h.2.trans h'.2.symm
  | cons e es ih => exact ih h.2 h'.2

theorem Linked.rest {es' : List (Entry B D)} {m : Nat} {dm : D} (h : X.Linked n d (es ++ es') n' d')
    (h' : X.Linked n d es m dm) : X.Linked m dm es' n' d' := by
  induction es generalizing n d with
  | nil =>
    obtain ⟨rfl, rfl⟩ := h'
    exact h
  | cons e es ih => exact ih h.2 h'.2

/-- Every entry of a chain has its number and the digest of its place. -/
theorem Linked.mem (h : X.Linked n d es n' d') {e : Entry B D} (he : e ∈ es) :
    e.digest = X.digest e.sequence e.predecessor e.body ∧ n < e.sequence ∧ e.sequence ≤ n' := by
  induction es generalizing n d with
  | nil => cases he
  | cons e' es ih =>
    rcases List.mem_cons.1 he with rfl | he
    · have hl := h.2.length
      rw [h.1]
      exact ⟨rfl, Nat.lt_succ_self n, by simp only; omega⟩
    · obtain ⟨hd, hn, hn'⟩ := ih h.2 he
      exact ⟨hd, by omega, hn'⟩

/-- A chain is in order. -/
theorem Linked.sorted (h : X.Linked n d es n' d') :
    es.Pairwise fun a b => a.sequence < b.sequence := by
  induction es generalizing n d with
  | nil => exact .nil
  | cons e es ih =>
    refine .cons (fun e' he' => ?_) (ih h.2)
    have hn := (h.2.mem he').2.1
    have hs : e.sequence = n + 1 := by rw [h.1]
    omega

theorem wellFormed_empty : X.WellFormed X.empty := ⟨⟨rfl, rfl⟩, List.nodup_nil⟩

theorem WellFormed.length (h : X.WellFormed log) : log.sequence = log.entries.length :=
  h.linked.length.trans (Nat.zero_add _)

section
variable [DecidableEq K]

theorem lookup_eq_none {k : K} :
    X.lookup log k = none ↔ k ∉ log.entries.map fun e => X.key e.body := by
  simp only [lookup, List.find?_eq_none, decide_eq_true_eq, List.mem_map, not_exists, not_and]

theorem lookup_mem {k : K} {e : Entry B D} (h : X.lookup log k = some e) :
    e ∈ log.entries ∧ X.key e.body = k :=
  ⟨List.mem_of_find?_eq_some h, by simpa using List.find?_some h⟩

theorem WellFormed.extend (h : X.WellFormed log) (hb : X.lookup log (X.key b) = none) :
    X.WellFormed (X.extend log b) := by
  refine ⟨h.linked.snoc b, ?_⟩
  rw [Chaining.extend, List.map_append, List.nodup_append]
  refine ⟨h.nodup, List.nodup_singleton _, fun k hk k' hk' => ?_⟩
  rw [List.map_singleton, List.mem_singleton] at hk'
  rintro rfl
  exact lookup_eq_none.1 hb (hk' ▸ hk)

variable [DecidableEq P] [DecidableEq D]

theorem append_cases {e : Entry B D} (h : X.append log b = .ok (e, log')) :
    (log' = log ∧ X.lookup log (X.key b) = some e ∧ X.payload e.body = X.payload b) ∨
      (X.lookup log (X.key b) = none ∧ e = X.next log b ∧ log' = X.extend log b) := by
  rw [append] at h
  split at h
  next e' he' =>
    split at h
    · rename_i hp
      obtain ⟨rfl, rfl⟩ : e' = e ∧ log = log' := by simpa using h
      exact .inl ⟨rfl, he', hp⟩
    · cases h
  next hn =>
    split at h
    · cases h
    · obtain ⟨rfl, rfl⟩ : X.next log b = e ∧ X.extend log b = log' := by simpa using h
      exact .inr ⟨hn, rfl, rfl⟩

theorem WellFormed.append {e : Entry B D} (h : X.WellFormed log)
    (ha : X.append log b = .ok (e, log')) : X.WellFormed log' := by
  rcases append_cases ha with ⟨rfl, -, -⟩ | ⟨hn, -, rfl⟩
  · exact h
  · exact h.extend hn

end

/-- `scan` accepts exactly the unbroken chains whose bodies pass the checks. -/
theorem scan_eq_ok [DecidableEq D] {check : A → B → Except ε A} {a a' : A} :
    X.scan check n d a es = .ok (n', d', a') ↔
      X.Linked n d es n' d' ∧ (es.map fun e => e.body).foldlM check a = .ok a' := by
  induction es generalizing n d a with
  | nil =>
    simp only [scan, Linked, List.map_nil, List.foldlM_nil, pure, Except.pure, Except.ok.injEq,
      Prod.mk.injEq]
    exact ⟨fun ⟨hn, hd, ha⟩ => ⟨⟨hn.symm, hd.symm⟩, ha⟩, fun ⟨⟨hn, hd⟩, ha⟩ => ⟨hn.symm, hd.symm, ha⟩⟩
  | cons e es ih =>
    rw [scan, Linked, List.map_cons, List.foldlM_cons]
    obtain ⟨s, b, p, dg⟩ := e
    simp only [Entry.mk.injEq, true_and]
    by_cases hs : s = n + 1
    · by_cases hp : p = d
      · subst hs hp
        cases check a b with
        | error f => simp [bind, Except.bind]
        | ok a₁ =>
          by_cases hd : X.digest (n + 1) p b = dg
          · simp [bind, Except.bind, ih, hd]
          · simp [hd, Ne.symm hd]
      · simp [hs, hp]
    · simp [hs]

/-- `verify` answers with the head of the logs that are unbroken and pass the checks. -/
theorem verify_eq_ok [DecidableEq D] {check : A → B → Except ε A} {a : A} {s : Nat} {h h' : D} :
    X.verify check a es s h = .ok h' ↔ h' = h ∧ X.Linked 0 X.genesis es s h ∧
      ∃ a', (es.map fun e => e.body).foldlM check a = .ok a' := by
  rw [verify]
  cases hr : X.scan check 0 X.genesis a es with
  | error f =>
    refine ⟨nofun, ?_⟩
    rintro ⟨-, hl, a', ha⟩
    rw [scan_eq_ok.2 ⟨hl, ha⟩] at hr
    cases hr
  | ok r =>
    obtain ⟨n, d, a'⟩ := r
    obtain ⟨hl, ha⟩ := scan_eq_ok.1 hr
    have hlen := hl.length
    constructor
    · intro hv
      simp only at hv
      split at hv
      · cases hv
      · split at hv
        · cases hv
        · rename_i hs hh
          obtain rfl : h = h' := by simpa using hv
          rw [not_not.1 hs, not_not.1 hh]
          exact ⟨rfl, hl, a', ha⟩
    · rintro ⟨rfl, hl', -⟩
      have hs : s = n := hl'.length.trans hlen.symm
      have hd : h' = d := hl'.head_eq hl
      simp [hs, hd]

end Chaining

end VeraMono.Framework

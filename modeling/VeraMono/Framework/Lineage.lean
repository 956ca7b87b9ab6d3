import Mathlib.Data.List.Chain
import Mathlib.Data.List.Nodup
import Mathlib.Data.List.Perm.Basic
import Mathlib.Logic.Function.Basic
import Mathlib.Logic.Relation

/-!
# Records that supersede one another

Each record is admitted under a new id, and may supersede one record admitted before it that no
other has superseded. `Lineage.Admitted` are the lists of links that such admissions build.
-/

namespace VeraMono.Framework

variable {K : Type}

/-- A record and the one it supersedes. -/
structure Link (K : Type) where
  id : K
  supersedes : Option K

/-- The links of the records in the order of their admission. -/
abbrev Lineage (K : Type) := List (Link K)

namespace Lineage

def ids (ls : Lineage K) : List K := ls.map Link.id

inductive Admitted : Lineage K → Prop
  | nil : Admitted []
  | append {ls : Lineage K} {l : Link K} : Admitted ls → l.id ∉ ids ls →
      (∀ p, l.supersedes = some p → p ∈ ids ls ∧ ∀ k, ⟨k, some p⟩ ∉ ls) → Admitted (ls ++ [l])

/-- The record that superseded another. -/
def successor [DecidableEq K] (ls : Lineage K) (p : K) : Option K :=
  (ls.find? fun l => l.supersedes = some p).map Link.id

def Supersedes (ls : Lineage K) (p k : K) : Prop := ⟨k, some p⟩ ∈ ls

/-- Every record is in one of the chains; a chain starts with a record that supersedes
none, and each of the others supersedes the one before it. -/
structure Chains (ls : Lineage K) (chains : List (List K)) : Prop where
  partition : chains.flatten.Perm ls.ids
  first : ∀ c ∈ chains, ∃ k, c.head? = some k ∧ ⟨k, none⟩ ∈ ls
  linked : ∀ c ∈ chains, c.IsChain (Supersedes ls)

variable {ls : Lineage K} {l : Link K} {p k : K}

@[simp] theorem ids_append : ids (ls ++ [l]) = ids ls ++ [l.id] := by simp [ids]

theorem mem_ids_of_mem (h : l ∈ ls) : l.id ∈ ids ls := List.mem_map_of_mem h

theorem Supersedes.append (h : Supersedes ls p k) : Supersedes (ls ++ [l]) p k :=
  List.mem_append_left _ h

theorem Admitted.nodup (h : Admitted ls) : (ids ls).Nodup := by
  induction h with
  | nil => exact List.nodup_nil
  | append _ hfresh _ ih =>
    rw [ids_append]
    exact List.nodup_append.2 ⟨ih, List.nodup_singleton _, fun a ha b hb hab => by
      rw [List.mem_singleton.1 hb] at hab
      exact hfresh (hab ▸ ha)⟩

theorem Admitted.mem_of_supersedes (h : Admitted ls) (hs : Supersedes ls p k) : p ∈ ids ls := by
  induction h with
  | nil => exact absurd hs List.not_mem_nil
  | @append ls l _ _ hcur ih =>
    rw [ids_append]
    rcases List.mem_append.1 hs with hs | hs
    · exact List.mem_append_left _ (ih hs)
    · obtain rfl := List.mem_singleton.1 hs
      exact List.mem_append_left _ (hcur p rfl).1

theorem Admitted.unique (h : Admitted ls) {k' : K} (hs : Supersedes ls p k) (hs' : Supersedes ls p k') :
    k = k' := by
  induction h with
  | nil => exact absurd hs List.not_mem_nil
  | @append ls l _ _ hcur ih =>
    rcases List.mem_append.1 hs with hk | hk <;> rcases List.mem_append.1 hs' with hk' | hk'
    · exact ih hk hk'
    · obtain rfl := List.mem_singleton.1 hk'
      exact ((hcur p rfl).2 k hk).elim
    · obtain rfl := List.mem_singleton.1 hk
      exact ((hcur p rfl).2 k' hk').elim
    · obtain rfl := List.mem_singleton.1 hk
      exact (congrArg Link.id (List.mem_singleton.1 hk')).symm

/-- The records have ranks that rise from each to its successor. -/
theorem Admitted.ranked (h : Admitted ls) : ∃ rank : K → Nat, ∀ p k, Supersedes ls p k → rank p < rank k := by
  classical
  induction h with
  | nil => exact ⟨fun _ => 0, fun p k hs => absurd hs List.not_mem_nil⟩
  | @append ls l h hfresh hcur ih =>
    obtain ⟨rank, hrank⟩ := ih
    have hold : ∀ p ∈ ids ls, Function.update rank l.id ((l.supersedes.map rank).getD 0 + 1) p = rank p :=
      fun p hp => Function.update_of_ne (fun heq : p = l.id => hfresh (heq ▸ hp)) _ _
    refine ⟨Function.update rank l.id ((l.supersedes.map rank).getD 0 + 1), fun p k hs => ?_⟩
    rcases List.mem_append.1 hs with hs | hs
    · rw [hold p (h.mem_of_supersedes hs), hold k (mem_ids_of_mem hs)]
      exact hrank p k hs
    · obtain rfl := List.mem_singleton.1 hs
      rw [hold p (hcur p rfl).1, Function.update_self]
      exact Nat.lt_succ_self _

theorem Admitted.acyclic (h : Admitted ls) (k : K) : ¬ Relation.TransGen (Supersedes ls) k k := by
  obtain ⟨rank, hrank⟩ := h.ranked
  have hlt : ∀ k', Relation.TransGen (Supersedes ls) k k' → rank k < rank k' := fun k' ht => by
    induction ht with
    | single hs => exact hrank _ _ hs
    | tail _ hs ih => exact Nat.lt_trans ih (hrank _ _ hs)
  exact fun ht => Nat.lt_irrefl _ (hlt k ht)

theorem Admitted.chains (h : Admitted ls) : ∃ cs, Chains ls cs := by
  induction h with
  | nil => exact ⟨[], .nil, by simp, by simp⟩
  | @append ls l h hfresh hcur ih =>
    obtain ⟨cs, hcs⟩ := ih
    have hfirst : ∀ c ∈ cs, ∃ k, c.head? = some k ∧ ⟨k, none⟩ ∈ ls ++ [l] := fun c hc =>
      (hcs.first c hc).imp fun k hk => ⟨hk.1, List.mem_append_left _ hk.2⟩
    have hlinked : ∀ c ∈ cs, c.IsChain (Supersedes (ls ++ [l])) := fun c hc =>
      (hcs.linked c hc).imp fun _ _ => Supersedes.append
    obtain ⟨k, _ | p⟩ := l
    · -- the record starts a chain
      refine ⟨cs ++ [[k]], ?_, ?_, ?_⟩
      · simpa using hcs.partition.append_right [k]
      · exact List.forall_mem_append.2 ⟨hfirst, by simp⟩
      · exact List.forall_mem_append.2 ⟨hlinked, by simp⟩
    · -- the record continues the chain that ended with the one it supersedes
      obtain ⟨hp, hnone⟩ := hcur p rfl
      obtain ⟨c, hc, hpc⟩ := List.mem_flatten.1 (hcs.partition.mem_iff.2 hp)
      obtain ⟨a, b, rfl⟩ := List.append_of_mem hpc
      obtain rfl : b = [] := by
        cases b with
        | nil => rfl
        | cons q b =>
          have hchain := hcs.linked _ hc
          rw [List.isChain_append_cons_cons] at hchain
          exact (hnone q hchain.2.1).elim
      obtain ⟨xs, ys, rfl⟩ := List.append_of_mem hc
      have hmem : ∀ c' ∈ xs ++ (a ++ [p] ++ [k]) :: ys, c' ∈ xs ++ (a ++ [p]) :: ys ∨ c' = a ++ [p] ++ [k] := by
        intro c' hc'
        rcases List.mem_append.1 hc' with hc' | hc'
        · exact .inl (List.mem_append_left _ hc')
        · rcases List.mem_cons.1 hc' with hc' | hc'
          · exact .inr hc'
          · exact .inl (List.mem_append_right _ (List.mem_cons_of_mem _ hc'))
      refine ⟨xs ++ (a ++ [p] ++ [k]) :: ys, ?_, fun c' hc' => ?_, fun c' hc' => ?_⟩
      · have hperm := hcs.partition.append_right [k]
        rw [ids_append]
        simp only [List.flatten_append, List.flatten_cons, List.append_assoc] at hperm ⊢
        refine List.Perm.trans ?_ hperm
        exact .append_left _ (.append_left _ (.append_left _ List.perm_append_comm))
      · rcases hmem c' hc' with hc' | rfl
        · exact hfirst c' hc'
        · obtain ⟨k', hk', hin⟩ := hfirst _ hc
          exact ⟨k', by rw [List.head?_append, hk']; rfl, hin⟩
      · rcases hmem c' hc' with hc' | rfl
        · exact hlinked c' hc'
        · refine List.isChain_append.2 ⟨hlinked _ hc, List.isChain_singleton _, ?_⟩
          intro x hx y hy
          obtain rfl : p = x := by simpa using hx
          obtain rfl : k = y := by simpa using hy
          exact List.mem_append_right _ (List.mem_singleton_self _)

variable [DecidableEq K]

theorem successor_eq_none : successor ls p = none ↔ ∀ k, ¬ Supersedes ls p k := by
  simp only [successor, Option.map_eq_none_iff, List.find?_eq_none, decide_eq_true_eq, Supersedes]
  exact ⟨fun h k hk => h _ hk rfl, fun h l hl hs => h l.id (by rw [← hs]; exact hl)⟩

theorem supersedes_of_successor (h : successor ls p = some k) : Supersedes ls p k := by
  obtain ⟨l, hl, rfl⟩ := Option.map_eq_some_iff.1 h
  have hs := List.find?_some hl
  rw [decide_eq_true_eq] at hs
  rw [Supersedes, ← hs]
  exact List.mem_of_find?_eq_some hl

theorem Admitted.successor_iff (h : Admitted ls) : successor ls p = some k ↔ Supersedes ls p k := by
  refine ⟨supersedes_of_successor, fun hs => ?_⟩
  cases hsucc : successor ls p with
  | none => exact absurd hs (successor_eq_none.1 hsucc k)
  | some k' => rw [h.unique (supersedes_of_successor hsucc) hs]

theorem successor_append (h : l.supersedes ≠ some p) : successor (ls ++ [l]) p = successor ls p := by
  rw [successor, List.find?_append, List.find?_singleton, if_neg (by simpa using h), Option.or_none,
    successor]

theorem successor_append_self (h : l.supersedes = some p) (hnone : successor ls p = none) :
    successor (ls ++ [l]) p = some l.id := by
  rw [successor, Option.map_eq_none_iff] at hnone
  rw [successor, List.find?_append, hnone, List.find?_singleton, if_pos (by simpa using h)]
  rfl

end Lineage

end VeraMono.Framework

import Mathlib.Data.List.Dedup
import Mathlib.Data.List.Sort

/-!
# Plurality votes

The winners of a vote are the values that no other value has more votes than. They are listed in
their own order, so they do not depend on the order of the votes.
-/

namespace VeraMono.Framework

variable {α : Type} [LinearOrder α] {votes : List α} {a b : α}

/-- The most votes that a value has. -/
def highestCount (votes : List α) : Nat := (votes.map fun a => votes.count a).foldr max 0

/-- The values with the most votes. -/
def winners (votes : List α) : List α :=
  (votes.dedup.filter fun a => votes.count a = highestCount votes).insertionSort (· ≤ ·)

theorem count_le_highest (h : a ∈ votes) : votes.count a ≤ highestCount votes := by
  have hle : ∀ counts : List Nat, ∀ n ∈ counts, n ≤ counts.foldr max 0 := by
    intro counts
    induction counts with
    | nil => exact fun n hn => absurd hn List.not_mem_nil
    | cons m counts ih =>
      intro n hn
      obtain rfl | hn := List.mem_cons.1 hn
      · exact le_max_left _ _
      · exact (ih n hn).trans (le_max_right _ _)
  exact hle _ _ (List.mem_map_of_mem h)

theorem exists_highest (h : votes ≠ []) : ∃ a ∈ votes, votes.count a = highestCount votes := by
  have hmax : ∀ counts : List Nat, counts ≠ [] → counts.foldr max 0 ∈ counts := by
    intro counts
    induction counts with
    | nil => exact fun hn => absurd rfl hn
    | cons m counts ih =>
      intro _
      rcases eq_or_ne counts [] with rfl | hne
      · simp
      · rw [List.foldr_cons]
        rcases le_total (counts.foldr max 0) m with hle | hle
        · rw [max_eq_left hle]
          exact List.mem_cons_self
        · rw [max_eq_right hle]
          exact List.mem_cons_of_mem _ (ih hne)
  obtain ⟨a, ha, heq⟩ := List.mem_map.1 (hmax (votes.map fun a => votes.count a) (by simpa using h))
  exact ⟨a, ha, heq⟩

theorem mem_winners : a ∈ winners votes ↔ a ∈ votes ∧ votes.count a = highestCount votes := by
  simp [winners, List.mem_insertionSort]

/-- A value that wins alone has more votes than every other. -/
theorem count_lt_of_winner (h : winners votes = [a]) (hb : b ∈ votes) (hne : b ≠ a) : votes.count b < votes.count a := by
  have ha : votes.count a = highestCount votes := (mem_winners.1 (h ▸ List.mem_cons_self)).2
  refine lt_of_le_of_ne (ha ▸ count_le_highest hb) fun heq => hne ?_
  have hmem : b ∈ winners votes := mem_winners.2 ⟨hb, heq.trans ha⟩
  rwa [h, List.mem_singleton] at hmem

theorem highestCount_le {votes' : List α} (h : votes.Perm votes') : highestCount votes ≤ highestCount votes' := by
  rcases eq_or_ne votes [] with rfl | hne
  · exact Nat.zero_le _
  · obtain ⟨a, ha, heq⟩ := exists_highest hne
    rw [← heq, h.count_eq]
    exact count_le_highest (h.mem_iff.1 ha)

theorem highestCount_perm {votes' : List α} (h : votes.Perm votes') : highestCount votes = highestCount votes' :=
  le_antisymm (highestCount_le h) (highestCount_le h.symm)

theorem winners_perm {votes' : List α} (h : votes.Perm votes') : winners votes = winners votes' := by
  have hfilter : (votes.dedup.filter fun a => votes.count a = highestCount votes).Perm
      (votes'.dedup.filter fun a => votes'.count a = highestCount votes') := by
    simp only [h.count_eq, highestCount_perm h]
    exact h.dedup.filter _
  exact List.Perm.eq_of_pairwise' (List.pairwise_insertionSort _ _) (List.pairwise_insertionSort _ _)
    (((List.perm_insertionSort _ _).trans hfilter).trans (List.perm_insertionSort _ _).symm)

end VeraMono.Framework

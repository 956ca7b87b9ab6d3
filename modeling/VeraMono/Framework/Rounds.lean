import VeraMono.Framework.DepthFirst

/-!
# Resolution in rounds

A loop that resolves in each round everything whose needs are resolved, and gives up when a round
resolves nothing. Each round but the last leaves less, so that as many rounds as there are nodes are
enough; and on a graph without a cycle something that is not done needs only what is
(`exists_ready`), so that the loop gives up exactly where a need is missing or leads back.
-/

namespace VeraMono.Framework

variable {N : Type} [DecidableEq N]

section Rounds
variable (needs : N → List N)

/-- Whether all that a node needs is resolved. -/
def isReady (resolved : List N) (n : N) : Bool := (needs n).all (· ∈ resolved)

/-- The rounds of the loop: whether it resolves all that remains, `none` when it runs for longer
than `fuel` rounds. -/
def resolveRounds : Nat → List N → List N → Option Bool
  | _, [], _ => some true
  | 0, _ :: _, _ => none
  | fuel + 1, remaining@(_ :: _), resolved =>
    let ready := remaining.filter (isReady needs resolved)
    if ready = [] then some false
    else resolveRounds fuel (remaining.filter fun n => !isReady needs resolved n) (resolved ++ ready)

end Rounds

variable {needs : N → List N} {nodes remaining resolved : List N} {n : N} {fuel : Nat}

theorem isReady_iff : isReady needs resolved n = true ↔ needs n ⊆ resolved := by
  rw [isReady, List.all_eq_true]
  exact forall₂_congr fun d _ => decide_eq_true_iff

theorem resolveRounds_succ (h : remaining ≠ []) : resolveRounds needs (fuel + 1) remaining resolved =
    if remaining.filter (isReady needs resolved) = [] then some false
    else resolveRounds needs fuel (remaining.filter fun n => !isReady needs resolved n)
      (resolved ++ remaining.filter (isReady needs resolved)) := by
  cases remaining with
  | nil => exact absurd rfl h
  | cons n remaining => rfl

/-- A round that resolves something leaves less. -/
theorem length_left_lt (h : remaining.filter (isReady needs resolved) ≠ []) :
    (remaining.filter fun n => !isReady needs resolved n).length < remaining.length := by
  obtain ⟨n, hn⟩ := List.exists_mem_of_ne_nil _ h
  obtain ⟨hmem, hready⟩ := List.mem_filter.1 hn
  refine List.length_filter_lt_length_iff_exists.2 ⟨n, hmem, ?_⟩
  rw [hready]
  decide

/-! ## The loop ends -/

theorem resolveRounds_ends (fuel : Nat) : ∀ remaining resolved, remaining.length ≤ fuel →
    ∃ b, resolveRounds needs fuel remaining resolved = some b := by
  induction fuel with
  | zero =>
    intro remaining resolved h
    obtain rfl := List.length_eq_zero_iff.1 (Nat.le_zero.1 h)
    exact ⟨true, rfl⟩
  | succ fuel ih =>
    intro remaining resolved h
    by_cases hnil : remaining = []
    · subst hnil
      exact ⟨true, rfl⟩
    rw [resolveRounds_succ hnil]
    split
    · exact ⟨false, rfl⟩
    next hready => exact ih _ _ (Nat.le_of_lt_succ (lt_of_lt_of_le (length_left_lt hready) h))

/-! ## What it resolves -/

/-- What is resolved has finished descents, and needs nothing else. -/
theorem resolveRounds_sound (fuel : Nat) : ∀ remaining resolved,
    resolveRounds needs fuel remaining resolved = some true → (∀ n ∈ resolved, Descends needs n) →
      ∀ n ∈ remaining, Descends needs n ∧ ∀ d ∈ needs n, d ∈ remaining ∨ d ∈ resolved := by
  induction fuel with
  | zero =>
    intro remaining resolved h _ n hn
    cases remaining with
    | nil => exact absurd hn List.not_mem_nil
    | cons m remaining => cases h
  | succ fuel ih =>
    intro remaining resolved h hresolved n hn
    rw [resolveRounds_succ (List.ne_nil_of_mem hn)] at h
    split at h
    · cases h
    have hround : ∀ m ∈ resolved ++ remaining.filter (isReady needs resolved), Descends needs m := by
      intro m hm
      obtain hm | hm := List.mem_append.1 hm
      · exact hresolved m hm
      · exact .intro m fun d hd => hresolved d (isReady_iff.1 (List.mem_filter.1 hm).2 hd)
    by_cases hready : isReady needs resolved n = true
    · refine ⟨hround n (List.mem_append_right _ (List.mem_filter.2 ⟨hn, hready⟩)), fun d hd => ?_⟩
      exact .inr (isReady_iff.1 hready hd)
    · have hleft : n ∈ remaining.filter fun n => !isReady needs resolved n :=
        List.mem_filter.2 ⟨hn, by rw [Bool.eq_false_of_not_eq_true hready]; rfl⟩
      obtain ⟨hdescends, hneeds⟩ := ih _ _ h hround n hleft
      refine ⟨hdescends, fun d hd => ?_⟩
      obtain hd | hd := hneeds d hd
      · exact .inl (List.mem_filter.1 hd).1
      · obtain hd | hd := List.mem_append.1 hd
        · exact .inr hd
        · exact .inl (List.mem_filter.1 hd).1

/-- Where there is no cycle, something that is not done needs only what is. -/
theorem exists_ready {done : N → Prop} (hacyclic : Acyclic needs) (hclosed : ∀ n ∈ nodes, needs n ⊆ nodes)
    (hn : n ∈ nodes) (hdone : ¬ done n) : ∃ m ∈ nodes, ¬ done m ∧ ∀ d ∈ needs m, done d := by
  induction descends_of_acyclic hacyclic hclosed hn with
  | intro n _ ih =>
    by_cases hneeds : ∀ d ∈ needs n, done d
    · exact ⟨n, hn, hdone, hneeds⟩
    · obtain ⟨d, hd, hopen⟩ : ∃ d ∈ needs n, ¬ done d := by simpa using hneeds
      exact ih d hd (hclosed n hn hd) hopen

theorem resolveRounds_complete (hacyclic : Acyclic needs) (hclosed : ∀ n ∈ nodes, needs n ⊆ nodes) (fuel : Nat) :
    ∀ remaining resolved, remaining.length ≤ fuel → (∀ n, n ∈ nodes ↔ n ∈ remaining ∨ n ∈ resolved) →
      (∀ n ∈ remaining, n ∉ resolved) → resolveRounds needs fuel remaining resolved = some true := by
  induction fuel with
  | zero =>
    intro remaining resolved h _ _
    obtain rfl := List.length_eq_zero_iff.1 (Nat.le_zero.1 h)
    rfl
  | succ fuel ih =>
    intro remaining resolved h hnodes hapart
    cases hremaining : remaining with
    | nil => rfl
    | cons n left =>
      rw [← hremaining]
      have hn : n ∈ remaining := hremaining ▸ List.mem_cons_self
      obtain ⟨m, hm, hopen, hneeds⟩ := exists_ready hacyclic hclosed ((hnodes n).2 (.inl hn)) (hapart n hn)
      have hready : remaining.filter (isReady needs resolved) ≠ [] :=
        List.ne_nil_of_mem (List.mem_filter.2 ⟨((hnodes m).1 hm).resolve_right hopen, isReady_iff.2 hneeds⟩)
      rw [resolveRounds_succ (List.ne_nil_of_mem hn), if_neg hready]
      refine ih _ _ (Nat.le_of_lt_succ (lt_of_lt_of_le (length_left_lt hready) h)) (fun x => ?_) (fun x hx => ?_)
      · rw [hnodes x, List.mem_filter, List.mem_append, List.mem_filter]
        cases isReady needs resolved x <;> simp [or_comm]
      · obtain ⟨hx, hnot⟩ := List.mem_filter.1 hx
        rw [List.mem_append, List.mem_filter, not_or, not_and]
        exact ⟨hapart x hx, fun _ hready => by simp [hready] at hnot⟩

/-- The loop ends within as many rounds as there are nodes, and resolves them all exactly when
they need only each other and no need leads back. -/
theorem resolveRounds_iff (hnodes : ∀ n, needs n ≠ [] → n ∈ nodes) (hfuel : nodes.length ≤ fuel) :
    ∃ b, resolveRounds needs fuel nodes [] = some b ∧
      (b = true ↔ (∀ n ∈ nodes, needs n ⊆ nodes) ∧ Acyclic needs) := by
  obtain ⟨b, hb⟩ := resolveRounds_ends fuel nodes [] hfuel
  refine ⟨b, hb, fun htrue => ?_, fun ⟨hclosed, hacyclic⟩ => ?_⟩
  · subst htrue
    have hsound := resolveRounds_sound fuel nodes [] hb fun n hn => absurd hn List.not_mem_nil
    refine ⟨fun n hn d hd => ((hsound n hn).2 d hd).resolve_right List.not_mem_nil, fun n hcycle => ?_⟩
    obtain ⟨d, hd, -⟩ := Relation.TransGen.head'_iff.1 hcycle
    exact descends_irrefl (hsound n (hnodes n (List.ne_nil_of_mem hd))).1 hcycle
  · have hcomplete := resolveRounds_complete hacyclic hclosed fuel nodes [] hfuel
      (fun n => by simp) fun n _ => List.not_mem_nil
    exact Option.some.inj (hb.symm.trans hcomplete)

end VeraMono.Framework

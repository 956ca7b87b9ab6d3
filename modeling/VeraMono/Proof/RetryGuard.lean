import Mathlib.Data.List.Infix
import Mathlib.Data.List.TakeWhile
import VeraMono.Model.RetryGuard

/-!
# The retry guard is exact

An acceptance stands until it is rolled back. The entries of the guard are standing acceptances,
oldest first, and every standing acceptance whose window is not over is among them: eviction drops
only what is older than the window, and a key is accepted again only when its last acceptance is.
`accept_cases` inverts an acceptance, `Inv.after` is the step and `retry_guard_exact` the run.
-/

namespace VeraMono

namespace CoordinationRetryGuard

variable {g g' : CoordinationRetryGuard} {events : List GuardEvent} {key : String} {t : Int} {ev : GuardEvent}

/-! ## Standing acceptances -/

/-- A key was accepted at a time, and that was not rolled back afterwards. -/
def Standing (events : List GuardEvent) (key : String) (t : Int) : Prop :=
  ∃ pre post, events = pre ++ (.accept key t, some true) :: post ∧ (.rollbackAccept key t, some true) ∉ post

theorem not_standing_nil : ¬ Standing [] key t := by
  rintro ⟨pre, post, h, -⟩
  simp at h

theorem standing_concat : Standing (events ++ [ev]) key t ↔
    Standing events key t ∧ ev ≠ (.rollbackAccept key t, some true) ∨ ev = (.accept key t, some true) := by
  constructor
  · rintro ⟨pre, post, h, hpost⟩
    induction post using List.reverseRecOn with
    | nil =>
      obtain ⟨-, hev⟩ := List.append_inj' h rfl
      exact .inr (List.singleton_inj.1 hev)
    | append_singleton post last =>
      rw [← List.cons_append, ← List.append_assoc] at h
      obtain ⟨hevents, hev⟩ := List.append_inj' h rfl
      obtain rfl := List.singleton_inj.1 hev
      rw [List.mem_append, not_or, List.mem_singleton] at hpost
      exact .inl ⟨⟨pre, post, hevents, hpost.1⟩, fun heq => hpost.2 heq.symm⟩
  · rintro (⟨⟨pre, post, rfl, hpost⟩, hev⟩ | rfl)
    · refine ⟨pre, post ++ [ev], by simp, ?_⟩
      rw [List.mem_append, not_or, List.mem_singleton]
      exact ⟨hpost, fun heq => hev heq.symm⟩
    · exact ⟨events, [], rfl, List.not_mem_nil⟩

theorem standing_concat_idle (hev : ev.2 ≠ some true) :
    Standing (events ++ [ev]) key t ↔ Standing events key t := by
  rw [standing_concat]
  constructor
  · rintro (h | rfl)
    · exact h.1
    · exact absurd rfl hev
  · intro h
    refine .inl ⟨h, ?_⟩
    rintro rfl
    exact hev rfl

/-! ## Entries -/

/-- A guard with each key at most once. -/
abbrev Distinct (g : CoordinationRetryGuard) : Prop := (g.seen.map Prod.fst).Nodup

theorem lookup_eq_some (h : g.Distinct) : g.seen.lookup key = some t ↔ (key, t) ∈ g.seen := by
  rw [List.lookup_eq_some_iff]
  constructor
  · rintro ⟨pre, post, hseen, -⟩
    rw [hseen]
    simp
  · intro hmem
    obtain ⟨pre, post, hseen⟩ := List.append_of_mem hmem
    refine ⟨pre, post, hseen, fun row hrow => ?_⟩
    rw [Distinct, hseen, List.map_append, List.nodup_append] at h
    simpa using h.2.2 row.1 (List.mem_map_of_mem hrow) key List.mem_cons_self |>.symm

/-- The entries without that of a key. -/
abbrev erased (g : CoordinationRetryGuard) (key : String) : List (String × Int) :=
  g.seen.filter fun e => e.1 ≠ key

/-- The entries once a key is accepted: its entry is the newest. -/
abbrev admitted (g : CoordinationRetryGuard) (key : String) (now : Int) : List (String × Int) :=
  (g.erased key ++ [(key, now)]).dropWhile fun e => e.2 < now - g.windowMs ∧ e.1 ≠ key

theorem mem_erased {row : String × Int} : row ∈ g.erased key ↔ row ∈ g.seen ∧ row.1 ≠ key := by
  rw [erased, List.mem_filter, decide_eq_true_eq]

theorem Distinct.erased (h : g.Distinct) : ((g.erased key).map Prod.fst).Nodup :=
  h.sublist (List.filter_sublist.map Prod.fst)

theorem Distinct.admitted {now : Int} (h : g.Distinct) : ((g.admitted key now).map Prod.fst).Nodup := by
  refine List.Nodup.sublist ((List.dropWhile_sublist _).map Prod.fst) ?_
  rw [List.map_append, List.map_singleton, List.nodup_append]
  refine ⟨h.erased, List.nodup_singleton _, ?_⟩
  rintro k hk k' hk' rfl
  obtain ⟨row, hrow, rfl⟩ := List.mem_map.1 hk
  exact (mem_erased.1 hrow).2 (List.mem_singleton.1 hk')

theorem not_mem_erased : (key, t) ∉ g.erased key := fun h => (mem_erased.1 h).2 rfl

theorem mem_dropWhile_of_not {α : Type} {p : α → Bool} {l : List α} {x : α} (hx : x ∈ l) (hp : p x = false) :
    x ∈ l.dropWhile p := by
  rw [← List.takeWhile_append_dropWhile (p := p) (l := l)] at hx
  rcases List.mem_append.1 hx with h | h
  · have htrue := List.mem_takeWhile_imp h
    rw [hp] at htrue
    cases htrue
  · exact h

/-! ## What calls keep -/

/-- What holds of a guard after some calls. -/
structure Inv (events : List GuardEvent) (g : CoordinationRetryGuard) : Prop where
  distinct : g.Distinct
  ordered : g.seen.Pairwise fun earlier later => earlier.2 ≤ later.2
  past : ∀ row ∈ g.seen, ∃ last, g.lastNowMs = some last ∧ row.2 ≤ last
  sound : ∀ row ∈ g.seen, Standing events row.1 row.2
  complete : ∀ key t, Standing events key t → ∃ last, g.lastNowMs = some last ∧ t ≤ last ∧
    (last - t ≤ g.windowMs → (key, t) ∈ g.seen)

theorem Inv.new (windowMs : Nat) : Inv [] (new windowMs) where
  distinct := List.nodup_nil
  ordered := .nil
  past _ h := by cases h
  sound _ h := by cases h
  complete _ _ h := absurd h not_standing_nil

theorem Inv.idle (h : Inv events g) (hev : ev.2 ≠ some true) : Inv (events ++ [ev]) g where
  distinct := h.distinct
  ordered := h.ordered
  past := h.past
  sound row hrow := (standing_concat_idle hev).2 (h.sound row hrow)
  complete key t hs := h.complete key t ((standing_concat_idle hev).1 hs)

theorem Inv.tick {now : Int} (h : Inv events g) (hnow : ∀ last ∈ g.lastNowMs, last ≤ now) :
    Inv events { g with lastNowMs := some now } where
  distinct := h.distinct
  ordered := h.ordered
  past row hrow := by
    obtain ⟨last, hlast, hle⟩ := h.past row hrow
    exact ⟨now, rfl, hle.trans (hnow last hlast)⟩
  sound := h.sound
  complete key t hs := by
    obtain ⟨last, hlast, hle, hmem⟩ := h.complete key t hs
    have hlater := hnow last hlast
    exact ⟨now, rfl, hle.trans hlater, fun hwindow => hmem (by dsimp only at hwindow; omega)⟩

theorem Inv.accepts {now : Int} (h : Inv events g) (hlast : g.lastNowMs = some now)
    (hfree : ∀ t, g.seen.lookup key = some t → (g.windowMs : Int) < now - t) :
    Inv (events ++ [(.accept key now, some true)]) { g with seen := g.admitted key now } := by
  have hmem {row : String × Int} (hrow : row ∈ g.admitted key now) :
      row ∈ g.seen ∧ row.1 ≠ key ∨ row = (key, now) := by
    rcases List.mem_append.1 ((List.dropWhile_sublist _).subset hrow) with hold | hnew
    · exact .inl (mem_erased.1 hold)
    · exact .inr (List.mem_singleton.1 hnew)
  refine ⟨h.distinct.admitted, ?_, fun row hrow => ?_, fun row hrow => ?_, fun key' t hs => ?_⟩
  · change (g.admitted key now).Pairwise _
    refine List.Pairwise.sublist (List.dropWhile_sublist _) ?_
    rw [List.pairwise_append]
    refine ⟨h.ordered.sublist List.filter_sublist, List.pairwise_singleton .., fun row hrow row' hrow' => ?_⟩
    obtain rfl := List.mem_singleton.1 hrow'
    obtain ⟨last, heq, hle⟩ := h.past row (mem_erased.1 hrow).1
    obtain rfl : now = last := Option.some.inj (hlast.symm.trans heq)
    exact hle
  · obtain ⟨hold, -⟩ | rfl := hmem hrow
    · exact h.past row hold
    · exact ⟨now, hlast, le_rfl⟩
  · obtain ⟨hold, -⟩ | rfl := hmem hrow
    · exact standing_concat.2 (.inl ⟨h.sound row hold, by simp⟩)
    · exact standing_concat.2 (.inr rfl)
  · have hstays {row : String × Int} (hrow : row ∈ g.erased key ++ [(key, now)])
        (hkeep : ¬ (row.2 < now - g.windowMs ∧ row.1 ≠ key)) : row ∈ g.admitted key now := by
      exact mem_dropWhile_of_not hrow (decide_eq_false hkeep)
    obtain ⟨hold, -⟩ | heq := standing_concat.1 hs
    · obtain ⟨last, hlast', hle, hin⟩ := h.complete key' t hold
      obtain rfl : now = last := Option.some.inj (hlast.symm.trans hlast')
      refine ⟨now, hlast, hle, fun hwindow => ?_⟩
      have hrow := hin hwindow
      have hne : key' ≠ key := by
        rintro rfl
        have houtside := hfree t ((lookup_eq_some h.distinct).2 hrow)
        dsimp only at hwindow
        omega
      refine hstays (List.mem_append_left _ (mem_erased.2 ⟨hrow, hne⟩)) fun hdrop => ?_
      have hearly := hdrop.1
      dsimp only at hearly hwindow
      omega
    · simp only [Prod.mk.injEq, GuardCall.accept.injEq, and_true] at heq
      obtain ⟨rfl, rfl⟩ := heq
      exact ⟨now, hlast, le_rfl, fun _ => hstays (by simp) fun hdrop => hdrop.2 rfl⟩

theorem Inv.rollsBack (h : Inv events g) (hat : g.seen.lookup key = some t) :
    Inv (events ++ [(.rollbackAccept key t, some true)]) { g with seen := g.erased key } := by
  refine ⟨h.distinct.erased, h.ordered.sublist List.filter_sublist, fun row hrow => h.past row (mem_erased.1 hrow).1,
    fun row hrow => ?_, fun key' t' hs => ?_⟩
  · obtain ⟨hold, hne⟩ := mem_erased.1 hrow
    refine standing_concat.2 (.inl ⟨h.sound row hold, fun heq => ?_⟩)
    simp only [Prod.mk.injEq, GuardCall.rollbackAccept.injEq, and_true] at heq
    exact hne heq.1.symm
  · obtain ⟨hold, hne⟩ | heq := standing_concat.1 hs
    · obtain ⟨last, hlast, hle, hin⟩ := h.complete key' t' hold
      refine ⟨last, hlast, hle, fun hwindow => mem_erased.2 ⟨hin hwindow, ?_⟩⟩
      rintro rfl
      have htime : g.seen.lookup key' = some t' := (lookup_eq_some h.distinct).2 (hin hwindow)
      rw [hat] at htime
      exact hne (by rw [Option.some.inj htime])
    · simp at heq

/-! ## Calls -/

/-- An acceptance raises, or finds no later time and whether the key is within its window. -/
theorem accept_cases (g : CoordinationRetryGuard) (key : String) (now : Int) :
    (∃ e, g.accept key now = (.error e, g)) ∨
      (∀ last ∈ g.lastNowMs, last ≤ now) ∧
        (g.accept key now = (.ok false, { g with lastNowMs := some now }) ∧
            (∃ t, g.seen.lookup key = some t ∧ now - t ≤ g.windowMs) ∨
          g.accept key now = (.ok true, { g with lastNowMs := some now, seen := g.admitted key now }) ∧
            ∀ t, g.seen.lookup key = some t → (g.windowMs : Int) < now - t) := by
  rw [accept]
  split
  · exact .inl ⟨_, rfl⟩
  · dsimp only
    split_ifs with hlast hseen
    · exact .inl ⟨_, rfl⟩
    · refine .inr ⟨fun last hl => ?_, .inl ⟨rfl, ?_⟩⟩
      · rw [Option.mem_def.1 hl] at hlast
        simpa using hlast
      · cases hs : g.seen.lookup key with
        | none =>
          rw [hs] at hseen
          cases hseen
        | some t =>
          rw [hs] at hseen
          exact ⟨t, rfl, of_decide_eq_true hseen⟩
    · refine .inr ⟨fun last hl => ?_, .inr ⟨rfl, fun t ht => ?_⟩⟩
      · rw [Option.mem_def.1 hl] at hlast
        simpa using hlast
      · rw [ht, Option.any_some, decide_eq_true_eq] at hseen
        exact Int.not_le.1 hseen

theorem rollbackAccept_cases (g : CoordinationRetryGuard) (key : String) (t : Int) :
    g.rollbackAccept key t = (false, g) ∨
      g.seen.lookup key = some t ∧ g.rollbackAccept key t = (true, { g with seen := g.erased key }) := by
  rw [rollbackAccept]
  split_ifs with hat
  · exact .inr ⟨hat, rfl⟩
  · exact .inl rfl

theorem after_rollback (g : CoordinationRetryGuard) (key : String) (t : Int) :
    g.after (.rollbackAccept key t) = (g, none) ∨
      validate key t = .ok () ∧
        g.after (.rollbackAccept key t) = ((g.rollbackAccept key t).2, some (g.rollbackAccept key t).1) := by
  rw [after]
  split
  · exact .inl rfl
  · exact .inr ⟨by assumption, rfl⟩

/-- A call keeps the invariant, and time does not go back. -/
theorem Inv.after (h : Inv events g) (call : GuardCall) :
    Inv (events ++ [(call, (g.after call).2)]) (g.after call).1 := by
  cases call with
  | accept key now =>
    rw [CoordinationRetryGuard.after]
    obtain ⟨e, heq⟩ | ⟨hnow, ⟨heq, -⟩ | ⟨heq, hfree⟩⟩ := accept_cases g key now
    · rw [heq]
      exact h.idle (by simp [Except.toOption])
    · rw [heq]
      exact (h.tick hnow).idle (by simp [Except.toOption])
    · rw [heq]
      exact (h.tick hnow).accepts rfl hfree
  | rollbackAccept key t =>
    obtain heq | ⟨-, heq⟩ := after_rollback g key t
    · rw [heq]
      exact h.idle (by simp)
    · rw [heq]
      obtain hroll | ⟨hat, hroll⟩ := rollbackAccept_cases g key t
      · rw [hroll]
        exact h.idle (by simp)
      · rw [hroll]
        exact h.rollsBack hat

theorem runGuard_concat (windowMs : Nat) (calls : List GuardCall) (call : GuardCall) :
    runGuard windowMs (calls ++ [call]) =
      ((((runGuard windowMs calls).1).after call).1,
        (runGuard windowMs calls).2 ++ [(call, (((runGuard windowMs calls).1).after call).2)]) := by
  rw [runGuard, List.foldl_append]
  rfl

theorem Inv.run (windowMs : Nat) (calls : List GuardCall) :
    Inv (runGuard windowMs calls).2 (runGuard windowMs calls).1 := by
  induction calls using List.reverseRecOn with
  | nil => exact .new windowMs
  | append_singleton calls call ih =>
    rw [runGuard_concat]
    exact ih.after call

theorem run_clock (windowMs : Nat) (calls : List GuardCall) : (runGuard windowMs calls).1.windowMs = windowMs ∧
    ∀ last ∈ (runGuard windowMs calls).1.lastNowMs, ∃ key, .accept key last ∈ calls := by
  induction calls using List.reverseRecOn with
  | nil => exact ⟨rfl, fun last h => by cases h⟩
  | append_singleton calls call ih =>
    rw [runGuard_concat]
    generalize (runGuard windowMs calls).1 = g at ih ⊢
    have hkeep : g.windowMs = windowMs ∧ ∀ last ∈ g.lastNowMs, ∃ key, .accept key last ∈ calls ++ [call] := by
      refine ⟨ih.1, fun last hlast => ?_⟩
      obtain ⟨key, hkey⟩ := ih.2 last hlast
      exact ⟨key, List.mem_append_left _ hkey⟩
    dsimp only
    cases call with
    | accept key now =>
      have hnow : ∀ last ∈ some now, ∃ key', .accept key' last ∈ calls ++ [.accept key now] := by
        intro last hlast
        obtain rfl := Option.some.inj hlast
        exact ⟨key, by simp⟩
      rw [CoordinationRetryGuard.after]
      obtain ⟨e, heq⟩ | ⟨-, ⟨heq, -⟩ | ⟨heq, -⟩⟩ := accept_cases g key now
      · rw [heq]
        exact hkeep
      · rw [heq]
        exact ⟨hkeep.1, hnow⟩
      · rw [heq]
        exact ⟨hkeep.1, hnow⟩
    | rollbackAccept key t =>
      obtain heq | ⟨-, heq⟩ := after_rollback g key t
      · rw [heq]
        exact hkeep
      · rw [heq]
        obtain hroll | ⟨-, hroll⟩ := rollbackAccept_cases g key t
        · rw [hroll]
          exact hkeep
        · rw [hroll]
          exact hkeep

theorem accept_total {now : Int} (hkey : key ≠ "") (hnow : 0 ≤ now) (hlast : ∀ last ∈ g.lastNowMs, last ≤ now) :
    g.accept key now = (.ok false, { g with lastNowMs := some now }) ∧
        (∃ t, g.seen.lookup key = some t ∧ now - t ≤ g.windowMs) ∨
      g.accept key now = (.ok true, { g with lastNowMs := some now, seen := g.admitted key now }) ∧
        ∀ t, g.seen.lookup key = some t → (g.windowMs : Int) < now - t := by
  obtain ⟨e, heq⟩ | ⟨-, h⟩ := accept_cases g key now
  · have hforward : ¬ g.lastNowMs.any (fun last => decide (now < last)) = true := by
      cases hl : g.lastNowMs with
      | none => simp
      | some last =>
        have hle := hlast last hl
        simpa using hle
    rw [accept, validate, if_neg hkey, if_neg (by omega)] at heq
    dsimp only at heq
    rw [if_neg hforward] at heq
    split_ifs at heq
    · cases heq
    · cases heq
  · exact h

/-- After any calls: an acceptance at a time no earlier than theirs answers no just when the key has
a standing acceptance within the window; the entries are in the order of time, and every standing
acceptance within the window is among them; and a key that is rolled back is accepted at once. -/
theorem retry_guard_exact (windowMs : Nat) (calls : List GuardCall) :
    (∀ key now, key ≠ "" → 0 ≤ now → (∀ key' now', .accept key' now' ∈ calls → now' ≤ now) →
      ∃ b g', (runGuard windowMs calls).1.accept key now = (.ok b, g') ∧
        (b = false ↔ ∃ t, Standing (runGuard windowMs calls).2 key t ∧ now - t ≤ windowMs)) ∧
    ((runGuard windowMs calls).1.seen.Pairwise fun earlier later => earlier.2 ≤ later.2) ∧
    (∀ key t last, Standing (runGuard windowMs calls).2 key t →
      (runGuard windowMs calls).1.lastNowMs = some last → last - t ≤ windowMs →
        (key, t) ∈ (runGuard windowMs calls).1.seen) ∧
    ∀ key t now g', (runGuard windowMs calls).1.after (.rollbackAccept key t) = (g', some true) → 0 ≤ now →
      (∀ key' now', .accept key' now' ∈ calls → now' ≤ now) → ∃ g'', g'.accept key now = (.ok true, g'') := by
  have hinv := Inv.run windowMs calls
  obtain ⟨hwindow, hclock⟩ := run_clock windowMs calls
  generalize (runGuard windowMs calls).1 = g at hinv hwindow hclock ⊢
  generalize (runGuard windowMs calls).2 = events at hinv ⊢
  subst hwindow
  have hpast {now : Int} (hlatest : ∀ key' now', .accept key' now' ∈ calls → now' ≤ now) :
      ∀ last ∈ g.lastNowMs, last ≤ now := by
    intro last hlast
    obtain ⟨key', hmem⟩ := hclock last hlast
    exact hlatest key' last hmem
  refine ⟨fun key now hkey hnow hlatest => ?_, hinv.ordered, fun key t last hs hlast hin => ?_,
    fun key t now g' hroll hnow hlatest => ?_⟩
  · obtain ⟨heq, t, ht, hin⟩ | ⟨heq, hfree⟩ := accept_total hkey hnow (hpast hlatest)
    · refine ⟨false, _, heq, iff_of_true rfl ⟨t, ?_, hin⟩⟩
      exact hinv.sound _ ((lookup_eq_some hinv.distinct).1 ht)
    · refine ⟨true, _, heq, iff_of_false Bool.noConfusion ?_⟩
      rintro ⟨t, hs, hin⟩
      obtain ⟨last, hlast, -, hmem⟩ := hinv.complete key t hs
      have hle := hpast hlatest last hlast
      have houtside := hfree t ((lookup_eq_some hinv.distinct).2 (hmem (by omega)))
      omega
  · obtain ⟨last', hlast', -, hmem⟩ := hinv.complete key t hs
    obtain rfl : last = last' := Option.some.inj (hlast.symm.trans hlast')
    exact hmem hin
  · obtain heq | ⟨hvalid, heq⟩ := after_rollback g key t
    · rw [heq] at hroll
      cases hroll
    · have hkey : key ≠ "" := by
        rintro rfl
        cases hvalid
      rw [heq] at hroll
      obtain hno | ⟨-, hyes⟩ := rollbackAccept_cases g key t
      · rw [hno] at hroll
        cases hroll
      · rw [hyes] at hroll
        cases hroll
        obtain ⟨-, t', ht', -⟩ | ⟨heq', -⟩ :=
          accept_total (g := { g with seen := g.erased key }) hkey hnow (hpast hlatest)
        · have hmem := (lookup_eq_some (g := { g with seen := g.erased key }) hinv.distinct.erased).1 ht'
          exact absurd hmem not_mem_erased
        · exact ⟨_, heq'⟩

end CoordinationRetryGuard

end VeraMono

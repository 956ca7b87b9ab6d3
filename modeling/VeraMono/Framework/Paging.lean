import Mathlib.Data.List.Basic
import Mathlib.Order.Lattice

/-!
# Reading a growing list in pages

A reader keeps a cursor, the key of the last item it was given. A page has the first `n` wanted
items past the cursor, and its last key is the next cursor.
-/

namespace VeraMono.Framework

variable {α κ : Type}

/-- The items for the keys past `start` and up to `stop`. -/
structure Page (α κ : Type) where
  start : κ
  stop : κ
  items : List α

def delivered (ps : List (Page α κ)) : List α := ps.flatMap Page.items

variable [LinearOrder κ]

def Page.Covers (p : Page α κ) (k : κ) : Prop := p.start < k ∧ k ≤ p.stop

variable (key : α → κ)

/-- The items of a page are in order and within it. -/
structure Page.Ordered (p : Page α κ) : Prop where
  le : p.start ≤ p.stop
  sorted : p.items.Pairwise fun a b => key a < key b
  covers : ∀ a ∈ p.items, p.Covers (key a)

/-- Pages that each start where the one before stopped. -/
def Tiled : κ → List (Page α κ) → κ → Prop
  | c, [], c' => c' = c
  | c, p :: ps, c' => p.start = c ∧ p.Ordered key ∧ Tiled p.stop ps c'

def nextCursor (c : κ) (items : List α) : κ := (items.getLast?.map key).getD c

variable {key} {c c' k : κ} {ps : List (Page α κ)} {p q : Page α κ} {a : α} {l : List α} {n : Nat}

/-! ## Pages end to end -/

namespace Tiled

theorem snoc (h : Tiled key c ps c') (hstart : p.start = c') (hp : p.Ordered key) :
    Tiled key c (ps ++ [p]) p.stop := by
  induction ps generalizing c with
  | nil => exact ⟨hstart.trans h, hp, rfl⟩
  | cons q ps ih => exact ⟨h.1, h.2.1, ih h.2.2⟩

theorem within (h : Tiled key c ps c') : c ≤ c' ∧ ∀ p ∈ ps, p.Ordered key ∧ c ≤ p.start ∧ p.stop ≤ c' := by
  induction ps generalizing c with
  | nil => exact ⟨h.ge, fun p hp => (by cases hp)⟩
  | cons q ps ih =>
    obtain ⟨rfl, hq, h⟩ := h
    obtain ⟨hle, hps⟩ := ih h
    refine ⟨hq.le.trans hle, fun p hp => ?_⟩
    rcases List.mem_cons.1 hp with rfl | hp
    · exact ⟨hq, le_rfl, hle⟩
    · obtain ⟨hordered, hstart, hstop⟩ := hps p hp
      exact ⟨hordered, hq.le.trans hstart, hstop⟩

/-- What was delivered is in order. -/
theorem sorted (h : Tiled key c ps c') : (delivered ps).Pairwise fun a b => key a < key b := by
  induction ps generalizing c with
  | nil => exact .nil
  | cons q ps ih =>
    obtain ⟨rfl, hq, h⟩ := h
    refine List.pairwise_append.2 ⟨hq.sorted, ih h, fun a ha b hb => ?_⟩
    obtain ⟨p, hp, hb⟩ := List.mem_flatMap.1 hb
    obtain ⟨hordered, hstart, -⟩ := h.within.2 p hp
    exact (hq.covers a ha).2.trans_lt (hstart.trans_lt (hordered.covers b hb).1)

theorem covered (h : Tiled key c ps c') (hc : c < k) (hc' : k ≤ c') : ∃ p ∈ ps, p.Covers k := by
  induction ps generalizing c with
  | nil => exact absurd (hc.trans_le hc') (Eq.not_gt h)
  | cons q ps ih =>
    obtain ⟨rfl, -, h⟩ := h
    by_cases hk : k ≤ q.stop
    · exact ⟨q, List.mem_cons_self, hc, hk⟩
    · obtain ⟨p, hp, hcovers⟩ := ih h (lt_of_not_ge hk)
      exact ⟨p, List.mem_cons_of_mem q hp, hcovers⟩

theorem unique (h : Tiled key c ps c') (hp : p ∈ ps) (hq : q ∈ ps) (hpk : p.Covers k) (hqk : q.Covers k) :
    p = q := by
  induction ps generalizing c with
  | nil => cases hp
  | cons r ps ih =>
    obtain ⟨rfl, -, h⟩ := h
    -- a key that the first page covers is behind every later page
    have hlater : ∀ t ∈ ps, r.Covers k → ¬ t.Covers k := fun t ht hr htk =>
      absurd (hr.2.trans ((h.within.2 t ht).2.1)) (not_le_of_gt htk.1)
    rcases List.mem_cons.1 hp with rfl | hp' <;> rcases List.mem_cons.1 hq with rfl | hq'
    · rfl
    · exact absurd hqk (hlater q hq' hpk)
    · exact absurd hpk (hlater p hp' hqk)
    · exact ih h hp' hq'

/-- What was delivered of the keys that a page covers is in that page. -/
theorem mem_items (h : Tiled key c ps c') (hp : p ∈ ps) (ha : a ∈ delivered ps) (hcovers : p.Covers (key a)) :
    a ∈ p.items := by
  obtain ⟨q, hq, ha⟩ := List.mem_flatMap.1 ha
  rwa [h.unique hp hq hcovers ((h.within.2 q hq).1.covers a ha)]

theorem once (h : Tiled key c ps c') (hp : p ∈ ps) (ha : a ∈ p.items) :
    (delivered ps).filter (fun b => key b = key a) = [a] := by
  have hmem : a ∈ delivered ps := List.mem_flatMap.2 ⟨p, hp, ha⟩
  obtain ⟨before, after, hsplit⟩ := List.append_of_mem hmem
  have hsorted := h.sorted
  rw [hsplit, List.pairwise_append, List.pairwise_cons] at hsorted
  obtain ⟨-, ⟨hafter, -⟩, hbefore⟩ := hsorted
  have hb : before.filter (fun b => key b = key a) = [] :=
    List.filter_eq_nil_iff.2 fun b hb => by simpa using (hbefore b hb a List.mem_cons_self).ne
  have ha : after.filter (fun b => key b = key a) = [] :=
    List.filter_eq_nil_iff.2 fun b hb => by simpa using (hafter b hb).ne'
  rw [hsplit, List.filter_append, hb, List.filter_cons_of_pos (by simp), ha]
  rfl

theorem never (h : Tiled key c ps c') (hp : p ∈ ps) (hcovers : p.Covers k) (hk : ∀ a ∈ p.items, key a ≠ k) :
    (delivered ps).filter (fun b => key b = k) = [] := by
  refine List.filter_eq_nil_iff.2 fun b hb hbk => ?_
  have hbk : key b = k := by simpa using hbk
  exact hk b (h.mem_items hp hb (hbk ▸ hcovers)) hbk

end Tiled

/-! ## One page -/

theorem le_nextCursor (hs : l.Pairwise fun a b => key a < key b) (ha : a ∈ l) : key a ≤ nextCursor key c l := by
  rcases List.eq_nil_or_concat l with rfl | ⟨init, last, rfl⟩
  · cases ha
  · rw [nextCursor, List.concat_eq_append, List.getLast?_append_of_ne_nil _ (List.cons_ne_nil last [])]
    rw [List.concat_eq_append, List.pairwise_append] at hs
    rw [List.concat_eq_append, List.mem_append, List.mem_singleton] at ha
    rcases ha with ha | rfl
    · exact (hs.2.2 a ha last (List.mem_singleton_self last)).le
    · exact le_rfl

theorem nextCursor_lt (hc : c < k) (hk : ∀ a ∈ l, key a < k) : nextCursor key c l < k := by
  rw [nextCursor]
  cases hl : l.getLast? with
  | none => exact hc
  | some last => exact hk last (List.mem_of_getLast? hl)

theorem le_nextCursor_self (hc : ∀ a ∈ l, c < key a) : c ≤ nextCursor key c l := by
  rw [nextCursor]
  cases hl : l.getLast? with
  | none => exact le_rfl
  | some last => exact (hc last (List.mem_of_getLast? hl)).le

/-- The first `n` items past a cursor are a page. -/
theorem ordered_take (hs : l.Pairwise fun a b => key a < key b) (hc : ∀ a ∈ l, c < key a) :
    Page.Ordered key ⟨c, nextCursor key c (l.take n), l.take n⟩ := by
  have hs' := hs.sublist (List.take_sublist n l)
  refine ⟨le_nextCursor_self fun a ha => hc a (List.mem_of_mem_take ha), hs', fun a ha => ?_⟩
  exact ⟨hc a (List.mem_of_mem_take ha), le_nextCursor hs' ha⟩

/-- The rest is past the page. -/
theorem nextCursor_lt_drop (hs : l.Pairwise fun a b => key a < key b) (hc : ∀ a ∈ l, c < key a)
    (ha : a ∈ l.drop n) : nextCursor key c (l.take n) < key a := by
  rw [← List.take_append_drop n l, List.pairwise_append] at hs
  exact nextCursor_lt (hc a (List.mem_of_mem_drop ha)) fun b hb => hs.2.2 b hb a ha

theorem mem_take_iff (hs : l.Pairwise fun a b => key a < key b) (hc : ∀ a ∈ l, c < key a) (ha : a ∈ l) :
    a ∈ l.take n ↔ key a ≤ nextCursor key c (l.take n) := by
  refine ⟨fun h => le_nextCursor (hs.sublist (List.take_sublist n l)) h, fun hle => ?_⟩
  rw [← List.take_append_drop n l, List.mem_append] at ha
  exact ha.resolve_right fun hdrop => absurd hle (not_le_of_gt (nextCursor_lt_drop hs hc hdrop))

/-- One more item than a page takes is found just when something is left past the page. -/
theorem lt_length_take_iff (hs : l.Pairwise fun a b => key a < key b) (hc : ∀ a ∈ l, c < key a) :
    n < (l.take (n + 1)).length ↔ ∃ a ∈ l, nextCursor key c (l.take n) < key a := by
  have hlen : n < (l.take (n + 1)).length ↔ n < l.length := by
    rw [List.length_take]
    omega
  rw [hlen]
  constructor
  · intro hlt
    obtain ⟨a, ha⟩ := List.exists_mem_of_length_pos (by rw [List.length_drop]; omega : 0 < (l.drop n).length)
    exact ⟨a, List.mem_of_mem_drop ha, nextCursor_lt_drop hs hc ha⟩
  · rintro ⟨a, ha, hlt⟩
    by_contra hle
    have hmem : a ∈ l.take n := by rwa [List.take_of_length_le (Nat.not_lt.1 hle)]
    exact absurd ((mem_take_iff hs hc ha).1 hmem) (not_le_of_gt hlt)

end VeraMono.Framework

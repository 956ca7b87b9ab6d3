import Mathlib.Data.List.Basic
import Mathlib.Data.List.Nodup

/-!
# Tables with a primary key

The rows of a table in insertion order, no two with the same key: the key
constraint is part of the type, so no operation can break it. `insert` adds a row
under a new key, `update` replaces the row of its key, `upsert` does whichever
applies, and `filter` and `erase` delete rows.
-/

namespace VeraMono.Framework

variable {K V : Type}

structure Table (key : V → K) where
  rows : List V
  nodup : (rows.map key).Nodup

namespace Table

variable [DecidableEq K] {key : V → K}

def empty : Table key := ⟨[], List.nodup_nil⟩

/-- The row of a key. -/
def get? (t : Table key) (k : K) : Option V := t.rows.find? fun v => key v = k

theorem map_key_replace (key : V → K) (rows : List V) (v : V) :
    (rows.map fun r => if key r = key v then v else r).map key = rows.map key := by
  rw [List.map_map]
  refine List.map_congr_left fun r _ => ?_
  by_cases h : key r = key v <;> simp [h]

/-- Replaces the row with the key of `v`, if there is one. -/
def update (t : Table key) (v : V) : Table key where
  rows := t.rows.map fun r => if key r = key v then v else r
  nodup := (map_key_replace key t.rows v).symm ▸ t.nodup

theorem get?_eq_none {t : Table key} {k : K} : t.get? k = none ↔ k ∉ t.rows.map key := by
  simp only [get?, List.find?_eq_none, decide_eq_true_eq, List.mem_map, not_exists, not_and]

/-- Adds a row at the end, unless its key is taken. -/
def insert (t : Table key) (v : V) : Table key :=
  if h : t.get? (key v) = none then
    { rows := t.rows ++ [v]
      nodup := by
        rw [List.map_append, List.nodup_append]
        refine ⟨t.nodup, List.nodup_singleton _, fun k hk k' hk' => ?_⟩
        rw [List.map_singleton, List.mem_singleton] at hk'
        rintro rfl
        exact get?_eq_none.1 h (hk' ▸ hk) }
  else t

/-- `INSERT … ON CONFLICT DO UPDATE`. -/
def upsert (t : Table key) (v : V) : Table key :=
  if t.get? (key v) = none then t.insert v else t.update v

/-- Deletes the rows that do not satisfy `p`. -/
def filter (t : Table key) (p : V → Bool) : Table key where
  rows := t.rows.filter p
  nodup := t.nodup.sublist (List.filter_sublist.map key)

/-- Deletes the row of a key. -/
def erase (t : Table key) (k : K) : Table key := t.filter fun v => key v ≠ k

variable {t : Table key} {k : K} {v r : V}

theorem get?_key (h : t.get? k = some v) : key v = k := by
  simpa using List.find?_some h

theorem mem_of_get? (h : t.get? k = some v) : v ∈ t.rows := List.mem_of_find?_eq_some h

theorem get?_of_mem (h : v ∈ t.rows) : t.get? (key v) = some v := by
  match hg : t.get? (key v) with
  | none => exact absurd (List.mem_map_of_mem h) (get?_eq_none.1 hg)
  | some r =>
    rw [List.inj_on_of_nodup_map t.nodup (mem_of_get? hg) h (get?_key hg)]

theorem mem_rows : v ∈ t.rows ↔ t.get? (key v) = some v := ⟨get?_of_mem, mem_of_get?⟩

@[simp] theorem get?_empty : (empty : Table key).get? k = none := rfl

theorem rows_insert (h : t.get? (key v) = none) : (t.insert v).rows = t.rows ++ [v] := by
  simp only [insert, dif_pos h]

theorem get?_insert_self (h : t.get? (key v) = none) : (t.insert v).get? (key v) = some v :=
  get?_of_mem (by simp [rows_insert h])

theorem get?_insert_other (hk : k ≠ key v) : (t.insert v).get? k = t.get? k := by
  by_cases h : t.get? (key v) = none
  · have hnone : [v].find? (fun r => decide (key r = k)) = none := by simp [hk.symm]
    rw [get?, rows_insert h, List.find?_append, hnone, Option.or_none, get?]
  · simp only [insert, dif_neg h]

@[simp] theorem map_key_update : (t.update v).rows.map key = t.rows.map key :=
  map_key_replace key t.rows v

theorem get?_update_self (h : t.get? (key v) = some r) : (t.update v).get? (key v) = some v := by
  refine get?_of_mem (List.mem_map.2 ⟨r, mem_of_get? h, ?_⟩)
  simp [get?_key h]

theorem get?_update_other (hk : k ≠ key v) : (t.update v).get? k = t.get? k := by
  have hkey (x : V) (hx : key x = k) : (if key x = key v then v else x) = x :=
    if_neg (hx ▸ hk)
  simp only [get?, update, List.find?_map]
  have hf : ((fun r => decide (key r = k)) ∘ fun r => if key r = key v then v else r) =
      fun r => decide (key r = k) := by
    funext x
    by_cases hx : key x = key v
    · simp [hx]
    · simp [hx]
  rw [hf]
  cases hr : t.rows.find? fun r => key r = k with
  | none => rfl
  | some x => simp [hkey x (by simpa using List.find?_some hr)]

theorem get?_filter {p : V → Bool} : (t.filter p).get? k = some v ↔ t.get? k = some v ∧ p v = true := by
  constructor
  · intro h
    obtain ⟨hmem, hp⟩ := List.mem_filter.1 (mem_of_get? h)
    exact ⟨get?_key h ▸ get?_of_mem hmem, hp⟩
  · rintro ⟨h, hp⟩
    exact get?_key h ▸ get?_of_mem (List.mem_filter.2 ⟨mem_of_get? h, hp⟩)

theorem get?_erase {k' : K} : (t.erase k').get? k = some v ↔ t.get? k = some v ∧ k ≠ k' := by
  rw [erase, get?_filter, decide_eq_true_eq]
  exact and_congr_right fun h => by rw [get?_key h]

theorem get?_upsert_self : (t.upsert v).get? (key v) = some v := by
  rw [upsert]
  split
  · exact get?_insert_self ‹_›
  · obtain ⟨r, hr⟩ := Option.ne_none_iff_exists'.1 ‹_›
    exact get?_update_self hr

theorem get?_upsert_other (hk : k ≠ key v) : (t.upsert v).get? k = t.get? k := by
  rw [upsert]
  split
  · exact get?_insert_other hk
  · exact get?_update_other hk

end Table

end VeraMono.Framework

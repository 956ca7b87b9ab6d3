import VeraMono.Model.Records

/-!
# Values that can be digested

`PyValue.digestible` is a check on the shape of a value: its numbers, strings and keys. A value
passes it exactly when `_normalize` and then the canonical encoder accept the value
(`actionValue_ok_iff`), so it says which values bound to an action have a digest.
-/

namespace VeraMono

open Framework

variable (py : Stdlib)

namespace PyValue

mutual

/-- A value that has a canonical form under the key it stands at. -/
def digestible (hint : KeyHint) : PyValue → Bool
  | .none | .bool _ | .bytes _ => true
  | .int i => i.natAbs ≤ maxSafeInteger
  | .float _ | .other _ => false
  | .str t | .path t => (normalizeString py hint t).toBool
  | .list items | .tuple items | .set items => digestibleItems items
  | .dict entries => digestibleEntries [] entries
  | .enum value => digestible hint value
  | .dataclass copies fields => copies && digestibleFields [] fields

def digestibleItems : List PyValue → Bool
  | [] => true
  | v :: vs => digestible .plain v && digestibleItems vs

/-- Entries under distinct valid keys, none of them in `seen`. -/
def digestibleEntries (seen : List String) : List (PyValue × PyValue) → Bool
  | [] => true
  | (k, v) :: rest =>
    match k with
    | .str (.valid key) =>
      key ∉ seen && digestible (keyHint key) v && digestibleEntries (key :: seen) rest
    | _ => false

def digestibleFields (seen : List String) : List (String × PyValue) → Bool
  | [] => true
  | (key, v) :: rest =>
    key ∉ seen && digestible (keyHint key) v && digestibleFields (key :: seen) rest

end

end PyValue

/-! ## Results of a list of checks -/

theorem toBool_iff {ε α : Type} {r : Except ε α} : r.toBool = true ↔ ∃ a, r = .ok a := by
  cases r <;> simp [Except.toBool]

theorem sequence_ok {ε α : Type} {l : List (Except ε α)} {as : List α} (h : sequence l = .ok as) :
    as.map .ok = l := by
  induction l generalizing as with
  | nil =>
    cases h
    rfl
  | cons r l ih =>
    cases r with
    | error e => cases h
    | ok a =>
      rw [sequence] at h
      split at h
      · rename_i bs hbs
        cases h
        rw [List.map_cons, ih hbs]
      · cases h

theorem sequence_ok_iff {ε α : Type} {l : List (Except ε α)} :
    (∃ as, sequence l = .ok as) ↔ ∀ r ∈ l, ∃ a, r = .ok a := by
  constructor
  · rintro ⟨as, h⟩ r hr
    rw [← sequence_ok h] at hr
    obtain ⟨a, -, rfl⟩ := List.mem_map.1 hr
    exact ⟨a, rfl⟩
  · intro h
    induction l with
    | nil => exact ⟨[], rfl⟩
    | cons r l ih =>
      obtain ⟨a, rfl⟩ := h r List.mem_cons_self
      obtain ⟨as, has⟩ := ih fun r hr => h r (List.mem_cons_of_mem _ hr)
      exact ⟨a :: as, by simp only [sequence, has]⟩

/-! ## Mappings -/

/-- Entries with distinct valid keys, and values that are right for them. -/
def EntriesOk {α : Type} (ok : KeyHint → α → Prop) (entries : List (PyValue × α)) : Prop :=
  (∀ e ∈ entries, ∃ key, e.1 = .str (.valid key) ∧ ok (keyHint key) e.2) ∧
    (entries.map Prod.fst).Nodup

variable {entries : List (PyValue × PyValue)} {hint : KeyHint}
  {kvs : List (Text × Except Failure PyValue)} {α : Type} {items : List PyValue}
  {seen : List String}

/-- `EntriesOk` one entry at a time. -/
theorem entriesOk_cons {ok : KeyHint → α → Prop} {k : PyValue} {v : α}
    {rest : List (PyValue × α)} :
    (EntriesOk ok ((k, v) :: rest) ∧ ∀ e ∈ (k, v) :: rest, ∀ s ∈ seen, e.1 ≠ .str (.valid s)) ↔
      ∃ key, k = .str (.valid key) ∧ key ∉ seen ∧ ok (keyHint key) v ∧
        (EntriesOk ok rest ∧ ∀ e ∈ rest, ∀ s ∈ key :: seen, e.1 ≠ .str (.valid s)) := by
  constructor
  · rintro ⟨⟨hall, hnodup⟩, hseen⟩
    obtain ⟨key, rfl, hv⟩ := hall _ List.mem_cons_self
    obtain ⟨hk, hnodup⟩ := List.nodup_cons.1 hnodup
    refine ⟨key, rfl, fun hs => hseen _ List.mem_cons_self _ hs rfl, hv,
      ⟨fun e he => hall e (List.mem_cons_of_mem _ he), hnodup⟩, fun e he s hs => ?_⟩
    rcases List.mem_cons.1 hs with rfl | hs
    · exact fun h => hk (List.mem_map.2 ⟨e, he, h⟩)
    · exact hseen e (List.mem_cons_of_mem _ he) s hs
  · rintro ⟨key, rfl, hkey, hv, ⟨hall, hnodup⟩, hseen⟩
    refine ⟨⟨fun e he => ?_, List.nodup_cons.2 ⟨fun hk => ?_, hnodup⟩⟩, fun e he s hs => ?_⟩
    · rcases List.mem_cons.1 he with rfl | he
      · exact ⟨key, rfl, hv⟩
      · exact hall e he
    · obtain ⟨e, he, hek⟩ := List.mem_map.1 hk
      exact hseen e he key List.mem_cons_self hek
    · rcases List.mem_cons.1 he with rfl | he
      · intro h
        injection h with h
        injection h with h
        exact hkey (h ▸ hs)
      · exact hseen e he s (List.mem_cons_of_mem _ hs)

/-- A value the encoder takes at a key. -/
def Encodes (hint : KeyHint) (v : PyValue) : Prop := ∃ j, normalizeValue py hint v = .ok j

theorem normalizeObject_ok_iff :
    (∃ js, normalizeObject py seen entries = .ok js) ↔
      EntriesOk (Encodes py) entries ∧ ∀ e ∈ entries, ∀ s ∈ seen, e.1 ≠ .str (.valid s) := by
  induction entries generalizing seen with
  | nil => simp [normalizeObject, EntriesOk]
  | cons e rest ih =>
    obtain ⟨k, v⟩ := e
    rw [entriesOk_cons]
    simp only [← ih]
    constructor
    · rintro ⟨js, h⟩
      rw [normalizeObject] at h
      split at h
      · cases h
      · rename_i t ht
        obtain rfl : k = .str t := by cases k <;> simp_all [PyValue.keyText]
        cases t with
        | surrogates => cases h
        | valid key =>
          simp only [validateString, bind_eq_ok] at h
          obtain ⟨_, hkey, h⟩ := h
          cases hkey
          split at h
          · cases h
          · rename_i hkey
            obtain ⟨j, hj, js', hjs, -⟩ := by simpa only [bind_eq_ok] using h
            exact ⟨key, rfl, hkey, ⟨j, hj⟩, js', hjs⟩
    · rintro ⟨key, rfl, hkey, ⟨j, hj⟩, js, hjs⟩
      refine ⟨(key, j) :: js, ?_⟩
      simp only [normalizeObject, PyValue.keyText, validateString, hkey, if_false, hj, hjs, bind,
        Except.bind]
      rfl

theorem digestibleEntries_iff :
    PyValue.digestibleEntries py seen entries = true ↔
      EntriesOk (fun hint v => PyValue.digestible py hint v = true) entries ∧
        ∀ e ∈ entries, ∀ s ∈ seen, e.1 ≠ .str (.valid s) := by
  induction entries generalizing seen with
  | nil => simp [PyValue.digestibleEntries, EntriesOk]
  | cons e rest ih =>
    obtain ⟨k, v⟩ := e
    rw [entriesOk_cons]
    by_cases hk : ∃ key, k = .str (.valid key)
    · obtain ⟨key, rfl⟩ := hk
      simp only [PyValue.digestibleEntries, Bool.and_eq_true, decide_eq_true_eq, ih]
      constructor
      · rintro ⟨⟨hkey, hv⟩, hrest⟩
        exact ⟨_, rfl, hkey, hv, hrest⟩
      · rintro ⟨key, hk, hkey, hv, hrest⟩
        cases hk
        exact ⟨⟨hkey, hv⟩, hrest⟩
    · rw [PyValue.digestibleEntries]
      · exact iff_of_false (fun h => nomatch h) fun ⟨key, h, _⟩ => hk ⟨key, h⟩
      · exact fun key h => hk ⟨key, h⟩

/-- The fields of a dataclass as the mapping `asdict` makes of them. -/
def fieldEntries (fields : List (String × PyValue)) : List (PyValue × PyValue) :=
  fields.map fun f => (.str (.valid f.1), f.2)

theorem digestibleFields_eq (seen : List String) (fields : List (String × PyValue)) :
    PyValue.digestibleFields py seen fields =
      PyValue.digestibleEntries py seen (fieldEntries fields) := by
  induction fields generalizing seen with
  | nil => rfl
  | cons f rest ih =>
    simp only [fieldEntries, List.map_cons, PyValue.digestibleFields, PyValue.digestibleEntries, ih]

/-! ## `_normalize` and the encoder -/

/-- A value that `_normalize` and the encoder both take. -/
def Digests (hint : KeyHint) (v : PyValue) : Prop := ∃ w, normalize py v = .ok w ∧ Encodes py hint w

theorem encodes_dict : Encodes py hint (.dict entries) ↔ EntriesOk (Encodes py) entries := by
  have h : (∃ js, normalizeObject py [] entries = .ok js) ↔ _ := normalizeObject_ok_iff py
  simp only [List.not_mem_nil, false_implies, implies_true, and_true] at h
  rw [← h]
  simp only [Encodes, normalizeValue, map_eq_ok]
  exact ⟨fun ⟨_, js, hjs, _⟩ => ⟨js, hjs⟩, fun ⟨js, hjs⟩ => ⟨_, js, hjs, rfl⟩⟩

/-- What `_normalize` makes of the entry of a mapping. -/
def normalizedEntry (kv : Text × Except Failure PyValue) : Except Failure (PyValue × PyValue) :=
  kv.2.map fun v => (.str kv.1, v)

theorem normalizedEntry_ok {kv : Text × Except Failure PyValue} {e : PyValue × PyValue}
    (h : normalizedEntry kv = .ok e) : kv.2 = .ok e.2 ∧ e.1 = .str kv.1 := by
  obtain ⟨v, hv, rfl⟩ := map_eq_ok.1 h
  exact ⟨hv, rfl⟩

theorem normalizedDict_ok {w : PyValue} :
    normalizedDict kvs = .ok w ↔
      ∃ entries, sequence ((sortKeys kvs).map normalizedEntry) = .ok entries ∧ w = .dict entries := by
  have hentry : (fun kv : Text × Except Failure PyValue => kv.2.map fun v => (PyValue.str kv.1, v)) =
      normalizedEntry := rfl
  rw [normalizedDict, hentry]
  cases sequence ((sortKeys kvs).map normalizedEntry) with
  | error e => simp
  | ok entries => simp [eq_comm]

theorem normalizedEntry_keys (h : entries.map .ok = kvs.map normalizedEntry) :
    entries.map Prod.fst = kvs.map fun kv => .str kv.1 := by
  induction kvs generalizing entries with
  | nil => simpa using h
  | cons kv kvs ih =>
    cases entries with
    | nil => cases h
    | cons e entries =>
      obtain ⟨he, hrest⟩ := List.cons.inj h
      rw [List.map_cons, List.map_cons, ih hrest, (normalizedEntry_ok he.symm).2]

/-- A mapping is taken when its entries are, in whatever order they are sorted. -/
theorem digests_dict :
    (∃ w, normalizedDict kvs = .ok w ∧ Encodes py hint w) ↔
      EntriesOk (fun hint r => ∃ w, r = .ok w ∧ Encodes py hint w)
        (kvs.map fun kv => (PyValue.str kv.1, kv.2)) := by
  have hperm : (sortKeys kvs).Perm kvs := List.perm_insertionSort _ _
  have hfst : (kvs.map fun kv => (PyValue.str kv.1, kv.2)).map Prod.fst =
      kvs.map fun kv => .str kv.1 := by rw [List.map_map]; rfl
  constructor
  · rintro ⟨w, hw, henc⟩
    obtain ⟨entries, hs, rfl⟩ := normalizedDict_ok.1 hw
    obtain ⟨hall, hnodup⟩ := (encodes_dict py).1 henc
    have hmap := sequence_ok hs
    refine ⟨fun e he => ?_, ?_⟩
    · obtain ⟨kv, hkv, rfl⟩ := List.mem_map.1 he
      have hmem : normalizedEntry kv ∈ entries.map .ok := by
        rw [hmap]
        exact List.mem_map_of_mem (hperm.mem_iff.2 hkv)
      obtain ⟨e, he, hek⟩ := List.mem_map.1 hmem
      obtain ⟨hv, hk⟩ := normalizedEntry_ok hek.symm
      obtain ⟨key, hkey, hok⟩ := hall e he
      exact ⟨key, hk ▸ hkey, e.2, hv, hok⟩
    · rw [hfst, ← (hperm.map _).nodup_iff, ← normalizedEntry_keys hmap]
      exact hnodup
  · rintro ⟨hall, hnodup⟩
    have hsub {kv : Text × Except Failure PyValue} (h : kv ∈ sortKeys kvs) :
        ∃ key, PyValue.str kv.1 = .str (.valid key) ∧
          ∃ w, kv.2 = .ok w ∧ Encodes py (keyHint key) w :=
      hall _ (List.mem_map_of_mem (hperm.mem_iff.1 h))
    have hok : ∀ r ∈ (sortKeys kvs).map normalizedEntry, ∃ e, r = .ok e := fun r hr => by
      obtain ⟨kv, hkv, rfl⟩ := List.mem_map.1 hr
      obtain ⟨-, -, w, hw, -⟩ := hsub hkv
      exact ⟨(.str kv.1, w), by rw [normalizedEntry, hw]; rfl⟩
    obtain ⟨entries, hs⟩ := sequence_ok_iff.2 hok
    have hmap := sequence_ok hs
    refine ⟨_, normalizedDict_ok.2 ⟨entries, hs, rfl⟩, (encodes_dict py).2 ⟨fun e he => ?_, ?_⟩⟩
    · have hmem : Except.ok e ∈ (sortKeys kvs).map normalizedEntry := by
        rw [← hmap]
        exact List.mem_map_of_mem he
      obtain ⟨kv, hkv, hkve⟩ := List.mem_map.1 hmem
      obtain ⟨hv, hk⟩ := normalizedEntry_ok hkve
      obtain ⟨key, hkey, w, hw, henc⟩ := hsub hkv
      cases hw.symm.trans hv
      exact ⟨key, hk.trans hkey, henc⟩
    · rw [normalizedEntry_keys hmap, (hperm.map _).nodup_iff, ← hfst]
      exact hnodup

theorem normalizeItems_eq (items : List PyValue) : normalizeItems py items = items.map (normalize py) := by
  induction items with
  | nil => rfl
  | cons v vs ih => rw [normalizeItems, ih, List.map_cons]

theorem normalizeEntries_eq (entries : List (PyValue × PyValue)) :
    normalizeEntries py entries = entries.map fun e => (e.1, normalize py e.2) := by
  induction entries with
  | nil => rfl
  | cons e rest ih => rw [normalizeEntries, ih, List.map_cons]

theorem normalizeFields_eq (fields : List (String × PyValue)) :
    (normalizeFields py fields).map (fun kv => (PyValue.str kv.1, kv.2)) =
      (fieldEntries fields).map fun e => (e.1, normalize py e.2) := by
  induction fields with
  | nil => rfl
  | cons f rest ih =>
    simp only [normalizeFields, List.map_cons, ih]
    rfl

theorem stringKeys_map (kvs : List (Text × α)) :
    stringKeys (kvs.map fun kv => (PyValue.str kv.1, kv.2)) = some kvs := by
  induction kvs with
  | nil => rfl
  | cons kv kvs ih => simp only [List.map_cons, stringKeys, PyValue.keyText, ih]

theorem exists_stringKeys {entries : List (PyValue × α)} (h : ∀ e ∈ entries, ∃ t, e.1 = .str t) :
    ∃ kvs : List (Text × α), entries = kvs.map fun kv => (PyValue.str kv.1, kv.2) := by
  induction entries with
  | nil => exact ⟨[], rfl⟩
  | cons e rest ih =>
    obtain ⟨t, ht⟩ := h e List.mem_cons_self
    obtain ⟨kvs, rfl⟩ := ih fun e he => h e (List.mem_cons_of_mem _ he)
    obtain ⟨k, v⟩ := e
    cases ht
    exact ⟨(t, v) :: kvs, rfl⟩

theorem stringKeys_some {entries : List (PyValue × α)} {kvs : List (Text × α)}
    (h : stringKeys entries = some kvs) : ∀ e ∈ entries, ∃ t, e.1 = .str t := by
  induction entries generalizing kvs with
  | nil => exact fun _ he => nomatch he
  | cons e rest ih =>
    obtain ⟨k, v⟩ := e
    rw [stringKeys] at h
    split at h
    · rename_i t ts ht hts
      intro e he
      rcases List.mem_cons.1 he with rfl | he
      · cases k with
        | str t => exact ⟨t, rfl⟩
        | _ => cases ht
      · exact ih hts e he
    · cases h

theorem entriesOk_normalize :
    EntriesOk (fun hint r => ∃ w, r = .ok w ∧ Encodes py hint w)
        (entries.map fun e => (e.1, normalize py e.2)) ↔ EntriesOk (Digests py) entries := by
  simp only [EntriesOk, List.forall_mem_map, List.map_map, Digests]
  rfl

theorem digests_mapping : Digests py hint (.dict entries) ↔ EntriesOk (Digests py) entries := by
  rw [Digests, normalize, normalizeEntries_eq, ← entriesOk_normalize]
  by_cases hkeys : ∀ e ∈ entries.map fun e => (e.1, normalize py e.2), ∃ t, e.1 = .str t
  · obtain ⟨kvs, hkvs⟩ := exists_stringKeys hkeys
    rw [hkvs, stringKeys_map, ← digests_dict]
  · have hnone : stringKeys (entries.map fun e => (e.1, normalize py e.2)) = none :=
      Option.eq_none_iff_forall_ne_some.2 fun kvs h => hkeys (stringKeys_some h)
    rw [hnone]
    refine iff_of_false (fun ⟨w, hw, _⟩ => nomatch hw) fun ⟨hall, _⟩ => hkeys fun e he => ?_
    obtain ⟨key, hkey, -⟩ := hall e he
    exact ⟨_, hkey⟩

theorem digests_dataclass {copies : Bool} {fields : List (String × PyValue)} :
    Digests py hint (.dataclass copies fields) ↔
      copies = true ∧ EntriesOk (Digests py) (fieldEntries fields) := by
  rw [Digests, normalize]
  cases copies with
  | false => simp
  | true =>
    simp only [if_true, true_and]
    rw [digests_dict, normalizeFields_eq, entriesOk_normalize]

theorem normalizeValues_ok_iff :
    (∃ js, normalizeValues py items = .ok js) ↔ ∀ v ∈ items, Encodes py .plain v := by
  induction items with
  | nil => simp [normalizeValues]
  | cons v vs ih =>
    rw [List.forall_mem_cons, ← ih]
    simp only [normalizeValues, bind_eq_ok]
    constructor
    · rintro ⟨_, j, hj, js, hjs, -⟩
      exact ⟨⟨j, hj⟩, js, hjs⟩
    · rintro ⟨⟨j, hj⟩, js, hjs⟩
      exact ⟨_, j, hj, js, hjs, rfl⟩

/-- A collection is taken when its items are, in whatever order they are put. -/
theorem digests_items {order : List PyValue → List PyValue}
    (ho : ∀ vs, (order vs).Perm vs) :
    (∃ w, (sequence (normalizeItems py items)).map (fun vs => .list (order vs)) = .ok w ∧
        Encodes py hint w) ↔ ∀ v ∈ items, Digests py .plain v := by
  have hlist (vs : List PyValue) : Encodes py hint (.list (order vs)) ↔
      ∀ v ∈ vs, Encodes py .plain v := by
    rw [← forall_congr' fun v => imp_congr_left (ho vs).mem_iff, ← normalizeValues_ok_iff]
    simp only [Encodes, normalizeValue, map_eq_ok]
    exact ⟨fun ⟨_, js, hjs, _⟩ => ⟨js, hjs⟩, fun ⟨js, hjs⟩ => ⟨_, js, hjs, rfl⟩⟩
  simp only [map_eq_ok, normalizeItems_eq]
  constructor
  · rintro ⟨_, ⟨vs, hvs, rfl⟩, henc⟩ v hv
    have hmem : normalize py v ∈ vs.map .ok := by
      rw [sequence_ok hvs]
      exact List.mem_map_of_mem hv
    obtain ⟨w, hw, hwv⟩ := List.mem_map.1 hmem
    exact ⟨w, hwv.symm, (hlist vs).1 henc w hw⟩
  · intro h
    have hok : ∀ r ∈ items.map (normalize py), ∃ w, r = .ok w := fun r hr => by
      obtain ⟨v, hv, rfl⟩ := List.mem_map.1 hr
      obtain ⟨w, hw, -⟩ := h v hv
      exact ⟨w, hw⟩
    obtain ⟨vs, hvs⟩ := sequence_ok_iff.2 hok
    refine ⟨_, ⟨vs, hvs, rfl⟩, (hlist vs).2 fun w hw => ?_⟩
    have hmem : Except.ok w ∈ items.map (normalize py) := by
      rw [← sequence_ok hvs]
      exact List.mem_map_of_mem hw
    obtain ⟨v, hv, hvw⟩ := List.mem_map.1 hmem
    obtain ⟨w', hw', henc⟩ := h v hv
    cases hw'.symm.trans hvw
    exact henc

/-! ## The characterisation -/

theorem EntriesOk.congr {P Q : KeyHint → α → Prop} {entries : List (PyValue × α)}
    (h : ∀ e ∈ entries, ∀ hint, P hint e.2 ↔ Q hint e.2) :
    EntriesOk P entries ↔ EntriesOk Q entries :=
  and_congr_left fun _ => forall₂_congr fun e he => exists_congr fun _ =>
    and_congr_right fun _ => h e he _

theorem digestibleItems_iff :
    PyValue.digestibleItems py items = true ↔
      ∀ v ∈ items, PyValue.digestible py .plain v = true := by
  induction items with
  | nil => simp [PyValue.digestibleItems]
  | cons v vs ih => simp [PyValue.digestibleItems, ih]

theorem digests_of_normalize {v w : PyValue} (h : normalize py v = .ok w) :
    Digests py hint v ↔ Encodes py hint w := by
  simp only [Digests, h, Except.ok.injEq, exists_eq_left']

theorem encodes_str {t : Text} :
    Encodes py hint (.str t) ↔ (normalizeString py hint t).toBool = true := by
  simp only [Encodes, normalizeValue, map_eq_ok, toBool_iff]
  exact ⟨fun ⟨_, s, hs, _⟩ => ⟨s, hs⟩, fun ⟨s, hs⟩ => ⟨_, s, hs, rfl⟩⟩

theorem encodes_bytes (digest : String) : Encodes py hint
    (.dict [(.str (.valid "bytes_sha256"), .str (.valid digest))]) := by
  refine (encodes_dict py).2 ⟨fun e he => ?_, by simp⟩
  obtain rfl := List.mem_singleton.1 he
  have hplain : keyHint "bytes_sha256" = .plain := by decide +kernel
  refine ⟨_, rfl, (encodes_str py).2 ?_⟩
  rw [hplain]
  rfl

mutual

theorem digests_iff : ∀ (v : PyValue) (hint : KeyHint),
    Digests py hint v ↔ PyValue.digestible py hint v = true
  | .none, hint => by
    rw [digests_of_normalize py (v := .none) rfl, PyValue.digestible]
    exact iff_of_true ⟨_, rfl⟩ rfl
  | .bool b, hint => by
    rw [digests_of_normalize py (v := .bool b) rfl, PyValue.digestible]
    exact iff_of_true ⟨_, rfl⟩ rfl
  | .int i, hint => by
    rw [digests_of_normalize py rfl, Encodes, normalizeValue, PyValue.digestible, decide_eq_true_eq]
    split <;> simp <;> omega
  | .float v, hint => by
    rw [digests_of_normalize py (v := .float v) rfl, PyValue.digestible]
    refine iff_of_false (fun ⟨j, hj⟩ => ?_) Bool.false_ne_true
    cases v <;> cases hj
  | .other name, hint => by simp [Digests, normalize, PyValue.digestible]
  | .str t, hint => by rw [digests_of_normalize py rfl, encodes_str, PyValue.digestible]
  | .path t, hint => by rw [digests_of_normalize py rfl, encodes_str, PyValue.digestible]
  | .bytes data, hint => by
    rw [digests_of_normalize py rfl, PyValue.digestible]
    exact iff_of_true (encodes_bytes py _) rfl
  | .enum v, hint => by
    rw [Digests, normalize, PyValue.digestible, ← digests_iff v hint, Digests]
  | .list items, hint => by
    rw [Digests, normalize, PyValue.digestible, digestibleItems_iff]
    exact (digests_items py fun _ => .refl _).trans
      (forall₂_congr fun v hv => digestsItems_iff items v hv .plain)
  | .tuple items, hint => by
    rw [Digests, normalize, PyValue.digestible, digestibleItems_iff]
    exact (digests_items py fun _ => .refl _).trans
      (forall₂_congr fun v hv => digestsItems_iff items v hv .plain)
  | .set items, hint => by
    rw [Digests, normalize, PyValue.digestible, digestibleItems_iff]
    exact (digests_items py fun _ => List.perm_insertionSort _ _).trans
      (forall₂_congr fun v hv => digestsItems_iff items v hv .plain)
  | .dict entries, hint => by
    rw [digests_mapping, EntriesOk.congr (Q := fun hint v => PyValue.digestible py hint v = true)
      (digestsEntries_iff entries), PyValue.digestible,
      digestibleEntries_iff]
    simp
  | .dataclass copies fields, hint => by
    rw [digests_dataclass, EntriesOk.congr (Q := fun hint v => PyValue.digestible py hint v = true)
      (digestsFields_iff fields), PyValue.digestible, Bool.and_eq_true,
      digestibleFields_eq, digestibleEntries_iff]
    simp

theorem digestsItems_iff : ∀ (items : List PyValue), ∀ v ∈ items, ∀ hint,
    Digests py hint v ↔ PyValue.digestible py hint v = true
  | [], _, h, _ => nomatch h
  | v :: vs, w, h, hint => by
    rcases List.mem_cons.1 h with h | h
    · exact h ▸ digests_iff v hint
    · exact digestsItems_iff vs w h hint

theorem digestsEntries_iff : ∀ (entries : List (PyValue × PyValue)), ∀ e ∈ entries, ∀ hint,
    Digests py hint e.2 ↔ PyValue.digestible py hint e.2 = true
  | [], _, h, _ => nomatch h
  | (k, v) :: rest, e, h, hint => by
    rcases List.mem_cons.1 h with h | h
    · exact h ▸ digests_iff v hint
    · exact digestsEntries_iff rest e h hint

theorem digestsFields_iff : ∀ (fields : List (String × PyValue)), ∀ e ∈ fieldEntries fields, ∀ hint,
    Digests py hint e.2 ↔ PyValue.digestible py hint e.2 = true
  | [], _, h, _ => nomatch h
  | (k, v) :: rest, e, h, hint => by
    rcases List.mem_cons.1 h with h | h
    · exact h ▸ digests_iff v hint
    · exact digestsFields_iff rest e h hint

end

/-- A value bound to an action is accepted exactly when its shape is digestible. -/
theorem actionValue_ok_iff {v : PyValue} :
    (∃ j, actionValue py v = .ok j) ↔ PyValue.digestible py .plain v = true := by
  rw [← digests_iff]
  simp only [actionValue, bind_eq_ok, Digests, Encodes]
  exact exists_comm.trans (exists_congr fun w => exists_and_left)

end VeraMono

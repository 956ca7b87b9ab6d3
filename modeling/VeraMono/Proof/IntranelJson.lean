import VeraMono.Proof.CanonicalJson
import VeraMono.Model.IntranelJson

/-!
# Intranel JSON values: what freezing keeps

A frozen value says what the value said, and freezes to itself (`freezeValue_ok`). Two frozen
documents have the same canonical text just when they say the same (`sortKeys_inj`).
-/

namespace VeraMono

open Framework

namespace Intranel

variable {field : String} {depth count n : Nat}

/-! ## What a value says -/

mutual

/-- What a value says as JSON. -/
def pyMeaning : PyValue → Datum Unit
  | .none => .null
  | .bool b => .bool b
  | .int i => .int i
  | .float (some r) => if r.den = 1 then .int r.num else .unsupported
  | .str (.valid s) => .text s
  | .list items => .arr (pyItemsMeaning items)
  | .tuple items => .arr (pyItemsMeaning items)
  | .dict entries => .obj (pyEntriesMeaning entries)
  | _ => .unsupported

def pyItemsMeaning : List PyValue → List (Datum Unit)
  | [] => []
  | v :: vs => pyMeaning v :: pyItemsMeaning vs

def pyEntriesMeaning : List (PyValue × PyValue) → String → Option (Datum Unit)
  | [], _ => none
  | (k, v) :: rest, key =>
    if k.keyText = some (.valid key) then some (pyMeaning v) else pyEntriesMeaning rest key

end

mutual

/-- What a document says. -/
def meaning : Json → Datum Unit
  | .null => .null
  | .bool b => .bool b
  | .int i => .int i
  | .str s => .text s
  | .arr items => .arr (itemsMeaning items)
  | .obj entries => .obj (entriesMeaning entries)

def itemsMeaning : List Json → List (Datum Unit)
  | [] => []
  | j :: js => meaning j :: itemsMeaning js

def entriesMeaning : List (String × Json) → String → Option (Datum Unit)
  | [], _ => none
  | (k, j) :: rest, key => if k = key then some (meaning j) else entriesMeaning rest key

end

/-! ## Freezing -/

theorem encodes_ok {maximum : Nat} {t : Text} {s : String} (h : encodes field maximum t = .ok s) : t = .valid s := by
  cases t with
  | surrogates cs => cases h
  | valid s' =>
    rw [encodes, ite_error_ok, Except.ok.injEq] at h
    rw [h.2]

theorem checkKey_ok {t : Text} {s : String} (h : checkKey field t = .ok s) : t = .valid s := by
  simp only [checkKey, bind_eq_ok, ite_error_ok, ↓throw_bind, pure_ok] at h
  obtain ⟨s', hs', -, rfl⟩ := h
  exact encodes_ok hs'

theorem toPyItems_length (js : List Json) : (Json.toPyItems js).length = js.length := by
  induction js with
  | nil => rfl
  | cons j js ih => rw [Json.toPyItems, List.length_cons, List.length_cons, ih]

theorem toPyEntries_length (es : List (String × Json)) : (Json.toPyEntries es).length = es.length := by
  induction es with
  | nil => rfl
  | cons e es ih => rw [Json.toPyEntries, List.length_cons, List.length_cons, ih]

mutual

/-- A frozen value says the same, is read back from its text, and freezes to itself. -/
theorem freezeValue_ok : ∀ (v : PyValue) {depth count n : Nat} {j : Json},
    freezeValue field depth count v = .ok (j, n) →
    pyMeaning v = meaning j ∧ j.Readable ∧ freezeValue field depth count j.toPy = .ok (j, n)
  | .none, _, _, _, _, h => by
    have h' := h
    simp only [freezeValue, bind_eq_ok, pure_ok, Prod.mk.injEq] at h
    obtain ⟨_, -, rfl, rfl⟩ := h
    exact ⟨rfl, trivial, h'⟩
  | .bool b, _, _, _, _, h => by
    have h' := h
    simp only [freezeValue, bind_eq_ok, pure_ok, Prod.mk.injEq] at h
    obtain ⟨_, -, rfl, rfl⟩ := h
    exact ⟨rfl, trivial, h'⟩
  | .int i, _, _, _, _, h => by
    have h' := h
    simp only [freezeValue, bind_eq_ok, ite_error_ok, ↓throw_bind, pure_ok, Prod.mk.injEq, not_lt] at h
    obtain ⟨_, -, hle, rfl, rfl⟩ := h
    exact ⟨rfl, hle, h'⟩
  | .float Option.none, _, _, _, _, h => by
    simp only [freezeValue, bind_eq_ok, throw_ok, and_false, exists_false] at h
  | .float (some r), _, _, _, _, h => by
    simp only [freezeValue, bind_eq_ok, ite_error_ok, ↓throw_bind, pure_ok, Prod.mk.injEq, not_or, not_not,
      not_lt] at h
    obtain ⟨u, hnode, ⟨hden, hle⟩, rfl, rfl⟩ := h
    refine ⟨if_pos hden, hle, ?_⟩
    simp only [Json.toPy, freezeValue, hnode, ok_bind, if_neg (not_lt.2 hle)]
    rfl
  | .str t, _, _, _, _, h => by
    have h' := h
    simp only [freezeValue, bind_eq_ok, pure_ok, Prod.mk.injEq] at h
    obtain ⟨_, -, s, hs, rfl, rfl⟩ := h
    obtain rfl := encodes_ok hs
    exact ⟨rfl, trivial, h'⟩
  | .list items, _, _, _, _, h => by
    simp only [freezeValue, bind_eq_ok, pure_ok, Prod.mk.injEq, Prod.exists] at h
    obtain ⟨_, hnode, _, hlength, js, _, hitems, rfl, rfl⟩ := h
    obtain ⟨hmean, hread, hlen, hagain⟩ := freezeItems_ok items hitems
    refine ⟨congrArg Datum.arr hmean, hread, ?_⟩
    simp only [Json.toPy, freezeValue, hnode, ok_bind, toPyItems_length, hlen, hlength, hagain]
    rfl
  | .tuple items, _, _, _, _, h => by
    simp only [freezeValue, bind_eq_ok, pure_ok, Prod.mk.injEq, Prod.exists] at h
    obtain ⟨_, hnode, _, hlength, js, _, hitems, rfl, rfl⟩ := h
    obtain ⟨hmean, hread, hlen, hagain⟩ := freezeItems_ok items hitems
    refine ⟨congrArg Datum.arr hmean, hread, ?_⟩
    simp only [Json.toPy, freezeValue, hnode, ok_bind, toPyItems_length, hlen, hlength, hagain]
    rfl
  | .dict entries, _, _, _, _, h => by
    simp only [freezeValue, bind_eq_ok, pure_ok, Prod.mk.injEq, Prod.exists] at h
    obtain ⟨_, hnode, _, hlength, es, _, hentries, rfl, rfl⟩ := h
    obtain ⟨hmean, hnodup, -, hread, hlen, hagain⟩ := freezeEntries_ok entries hentries
    refine ⟨congrArg Datum.obj hmean, ⟨hnodup, hread⟩, ?_⟩
    simp only [Json.toPy, freezeValue, hnode, ok_bind, toPyEntries_length, hlen, hlength, hagain]
    rfl
  | .bytes _, _, _, _, _, h | .set _, _, _, _, _, h | .enum _, _, _, _, _, h | .path _, _, _, _, _, h
  | .dataclass _ _, _, _, _, _, h | .other _, _, _, _, _, h => by
    simp only [freezeValue, bind_eq_ok, throw_ok, and_false, exists_false] at h

theorem freezeItems_ok : ∀ (items : List PyValue) {depth count n : Nat} {js : List Json},
    freezeItems field depth count items = .ok (js, n) →
    pyItemsMeaning items = itemsMeaning js ∧ Json.ReadableItems js ∧ js.length = items.length ∧
      freezeItems field depth count (Json.toPyItems js) = .ok (js, n)
  | [], _, _, _, _, h => by
    have h' := h
    simp only [freezeItems, pure_ok, Prod.mk.injEq] at h
    obtain ⟨rfl, rfl⟩ := h
    exact ⟨rfl, trivial, rfl, h'⟩
  | v :: vs, _, _, _, _, h => by
    simp only [freezeItems, bind_eq_ok, pure_ok, Prod.mk.injEq, Prod.exists] at h
    obtain ⟨j, _, hv, js, _, hvs, rfl, rfl⟩ := h
    obtain ⟨hmean, hread, hagain⟩ := freezeValue_ok v hv
    obtain ⟨hmean', hread', hlen, hagain'⟩ := freezeItems_ok vs hvs
    refine ⟨?_, ⟨hread, hread'⟩, congrArg Nat.succ hlen, ?_⟩
    · rw [pyItemsMeaning, itemsMeaning, hmean, hmean']
    · simp only [Json.toPyItems, freezeItems, hagain, hagain', ok_bind]
      rfl

theorem freezeEntries_ok : ∀ (entries : List (PyValue × PyValue)) {depth count n : Nat} {seen : List String}
    {es : List (String × Json)}, freezeEntries field depth count seen entries = .ok (es, n) →
    pyEntriesMeaning entries = entriesMeaning es ∧ (es.map Prod.fst).Nodup ∧
      (∀ k ∈ es.map Prod.fst, k ∉ seen) ∧ Json.ReadableEntries es ∧ es.length = entries.length ∧
      freezeEntries field depth count seen (Json.toPyEntries es) = .ok (es, n)
  | [], _, _, _, _, _, h => by
    have h' := h
    simp only [freezeEntries, pure_ok, Prod.mk.injEq] at h
    obtain ⟨rfl, rfl⟩ := h
    exact ⟨rfl, List.nodup_nil, by simp, trivial, rfl, h'⟩
  | (k, v) :: rest, _, _, _, _, _, h => by
    rw [freezeEntries] at h
    split at h
    · simp only [throw_ok] at h
    · rename_i t hkey
      simp only [bind_eq_ok, ite_error_ok, ↓throw_bind, pure_ok, Prod.mk.injEq, Prod.exists] at h
      obtain ⟨key, hcheck, hfresh, j, _, hv, es, _, hrest, rfl, rfl⟩ := h
      obtain rfl := checkKey_ok hcheck
      obtain ⟨hmean, hread, hagain⟩ := freezeValue_ok v hv
      obtain ⟨hmean', hnodup, hnew, hread', hlen, hagain'⟩ := freezeEntries_ok rest hrest
      refine ⟨?_, ?_, ?_, ⟨hread, hread'⟩, congrArg Nat.succ hlen, ?_⟩
      · funext key'
        rw [pyEntriesMeaning, entriesMeaning, hkey, hmean, hmean']
        simp
      · exact List.nodup_cons.2 ⟨fun hm => hnew key hm List.mem_cons_self, hnodup⟩
      · intro k' hk'
        rcases List.mem_cons.1 hk' with rfl | hk'
        · exact hfresh
        · exact fun hm => hnew k' hk' (List.mem_cons_of_mem _ hm)
      · simp only [Json.toPyEntries, freezeEntries, PyValue.keyText, hcheck, ok_bind, if_neg hfresh, hagain, hagain']
        rfl

end

theorem freezeJson_ok {v : PyValue} {j : Json} (h : freezeJson v field = .ok j) :
    pyMeaning v = meaning j ∧ j.Readable ∧ freezeJson (thawJson j) field = .ok j := by
  obtain ⟨⟨_, n⟩, hv, rfl⟩ := map_eq_ok.1 h
  obtain ⟨hmean, hread, hagain⟩ := freezeValue_ok v hv
  exact ⟨hmean, hread, map_eq_ok.2 ⟨_, hagain, rfl⟩⟩

/-! ## Sorted documents -/

theorem entriesMeaning_eq_some {es : List (String × Json)} (hn : (es.map Prod.fst).Nodup) {key : String}
    {d : Datum Unit} : entriesMeaning es key = some d ↔ ∃ j, (key, j) ∈ es ∧ meaning j = d := by
  induction es with
  | nil => simp [entriesMeaning]
  | cons e es ih =>
    obtain ⟨k, j⟩ := e
    obtain ⟨hk, hn⟩ := List.nodup_cons.1 hn
    rw [entriesMeaning]
    split_ifs with hkey
    · subst hkey
      constructor
      · intro h
        exact ⟨j, by simp, Option.some.inj h⟩
      · rintro ⟨j', hj', rfl⟩
        rcases List.mem_cons.1 hj' with h | h
        · rw [(Prod.mk.inj h).2]
        · exact absurd (List.mem_map_of_mem h) hk
    · rw [ih hn]
      simp [Ne.symm hkey]

theorem entriesMeaning_perm {es fs : List (String × Json)} (h : es.Perm fs) (hn : (es.map Prod.fst).Nodup) :
    entriesMeaning es = entriesMeaning fs := by
  have hf : (fs.map Prod.fst).Nodup := (h.map _).nodup_iff.1 hn
  funext key
  refine Option.ext fun d => ?_
  simp only [entriesMeaning_eq_some hn, entriesMeaning_eq_some hf, h.mem_iff]

theorem sortEntries_keys (es : List (String × Json)) : (sortEntries es).map Prod.fst = es.map Prod.fst := by
  induction es with
  | nil => rfl
  | cons e es ih => rw [sortEntries, List.map_cons, List.map_cons, ih]

theorem sortByKey_perm (es : List (String × Json)) : (sortByKey es).Perm es := List.perm_insertionSort _ _

theorem sortByKey_sorted (es : List (String × Json)) : (sortByKey es).Pairwise fun a b => a.1 ≤ b.1 :=
  List.pairwise_insertionSort _ _

mutual

/-- The keys of every object are in their order. -/
def Sorted : Json → Prop
  | .arr items => SortedItems items
  | .obj entries => (entries.map Prod.fst).Nodup ∧ (entries.Pairwise fun a b => a.1 ≤ b.1) ∧ SortedEntries entries
  | _ => True

def SortedItems : List Json → Prop
  | [] => True
  | j :: js => Sorted j ∧ SortedItems js

def SortedEntries : List (String × Json) → Prop
  | [] => True
  | (_, j) :: es => Sorted j ∧ SortedEntries es

end

theorem sortedEntries_iff {es : List (String × Json)} : SortedEntries es ↔ ∀ e ∈ es, Sorted e.2 := by
  induction es with
  | nil => simp [SortedEntries]
  | cons e es ih => rw [SortedEntries, List.forall_mem_cons, ih]

theorem readableEntries_iff {es : List (String × Json)} : Json.ReadableEntries es ↔ ∀ e ∈ es, e.2.Readable := by
  induction es with
  | nil => simp [Json.ReadableEntries]
  | cons e es ih => rw [Json.ReadableEntries, List.forall_mem_cons, ih]

mutual

theorem sortKeys_ok : ∀ j : Json, j.Readable →
    meaning (sortKeys j) = meaning j ∧ Sorted (sortKeys j) ∧ (sortKeys j).Readable
  | .null, _ | .bool _, _ | .str _, _ => ⟨rfl, trivial, trivial⟩
  | .int _, h => ⟨rfl, trivial, h⟩
  | .arr items, h => by
    obtain ⟨hmean, hsorted, hread⟩ := sortItems_ok items h
    exact ⟨congrArg Datum.arr hmean, hsorted, hread⟩
  | .obj es, ⟨hnodup, h⟩ => by
    obtain ⟨hmean, hsorted, hread⟩ := sortEntries_ok es h
    have hperm := sortByKey_perm (sortEntries es)
    have hnodup' : ((sortEntries es).map Prod.fst).Nodup := sortEntries_keys es ▸ hnodup
    have hkeys : ((sortByKey (sortEntries es)).map Prod.fst).Nodup := (hperm.map _).nodup_iff.2 hnodup'
    refine ⟨?_, ⟨hkeys, sortByKey_sorted _, ?_⟩, hkeys, ?_⟩
    · rw [sortKeys, meaning, meaning, entriesMeaning_perm hperm hkeys, hmean]
    · rw [sortedEntries_iff] at hsorted ⊢
      exact fun e he => hsorted e (hperm.mem_iff.1 he)
    · rw [readableEntries_iff] at hread ⊢
      exact fun e he => hread e (hperm.mem_iff.1 he)

theorem sortItems_ok : ∀ js : List Json, Json.ReadableItems js →
    itemsMeaning (sortItems js) = itemsMeaning js ∧ SortedItems (sortItems js) ∧ Json.ReadableItems (sortItems js)
  | [], _ => ⟨rfl, trivial, trivial⟩
  | j :: js, ⟨hj, hjs⟩ => by
    obtain ⟨hmean, hsorted, hread⟩ := sortKeys_ok j hj
    obtain ⟨hmean', hsorted', hread'⟩ := sortItems_ok js hjs
    refine ⟨?_, ⟨hsorted, hsorted'⟩, hread, hread'⟩
    rw [sortItems, itemsMeaning, itemsMeaning, hmean, hmean']

theorem sortEntries_ok : ∀ es : List (String × Json), Json.ReadableEntries es →
    entriesMeaning (sortEntries es) = entriesMeaning es ∧ SortedEntries (sortEntries es) ∧
      Json.ReadableEntries (sortEntries es)
  | [], _ => ⟨rfl, trivial, trivial⟩
  | (k, j) :: es, ⟨hj, hes⟩ => by
    obtain ⟨hmean, hsorted, hread⟩ := sortKeys_ok j hj
    obtain ⟨hmean', hsorted', hread'⟩ := sortEntries_ok es hes
    refine ⟨?_, ⟨hsorted, hsorted'⟩, hread, hread'⟩
    funext key
    rw [sortEntries, entriesMeaning, entriesMeaning, hmean, hmean']

end

theorem sorted_ext {es fs : List (String × Json)} (hen : (es.map Prod.fst).Nodup) (hfn : (fs.map Prod.fst).Nodup)
    (hes : es.Pairwise fun a b => a.1 ≤ b.1) (hfs : fs.Pairwise fun a b => a.1 ≤ b.1)
    (h : ∀ e, e ∈ es ↔ e ∈ fs) : es = fs := by
  have hperm : es.Perm fs := (List.perm_ext_iff_of_nodup (List.Nodup.of_map _ hen) (List.Nodup.of_map _ hfn)).2 h
  refine hperm.eq_of_pairwise (fun a b ha hb hab hba => ?_) hes hfs
  exact List.inj_on_of_nodup_map hen ha ((h b).2 hb) (le_antisymm hab hba)

mutual

theorem meaning_inj : ∀ j k : Json, Sorted j → Sorted k → meaning j = meaning k → j = k
  | .null, k, _, _, h => by cases k <;> grind [meaning]
  | .bool a, k, _, _, h => by cases k <;> grind [meaning]
  | .int a, k, _, _, h => by cases k <;> grind [meaning]
  | .str s, k, _, _, h => by cases k <;> grind [meaning]
  | .arr js, k, hj, hk, h => by
    cases k with
    | arr ks => rw [itemsMeaning_inj js ks hj hk (Datum.arr.inj h)]
    | _ => grind [meaning]
  | .obj es, k, hj, hk, h => by
    cases k with
    | obj fs =>
      obtain ⟨hen, hes, hse⟩ := hj
      obtain ⟨hfn, hfs, hsf⟩ := hk
      rw [sortedEntries_iff] at hse hsf
      have hmap := Datum.obj.inj h
      have hinj := entriesMeaning_inj es
      refine congrArg _ (sorted_ext hen hfn hes hfs fun ⟨key, j⟩ => ⟨fun hm => ?_, fun hm => ?_⟩)
      · have hd : entriesMeaning es key = some (meaning j) := (entriesMeaning_eq_some hen).2 ⟨j, hm, rfl⟩
        rw [hmap] at hd
        obtain ⟨k, hk, hjk⟩ := (entriesMeaning_eq_some hfn).1 hd
        obtain rfl : j = k := hinj _ hm k (hse _ hm) (hsf _ hk) hjk.symm
        exact hk
      · have hd : entriesMeaning fs key = some (meaning j) := (entriesMeaning_eq_some hfn).2 ⟨j, hm, rfl⟩
        rw [← hmap] at hd
        obtain ⟨k, hk, hjk⟩ := (entriesMeaning_eq_some hen).1 hd
        obtain rfl : k = j := hinj _ hk j (hse _ hk) (hsf _ hm) hjk
        exact hk
    | _ => grind [meaning]

theorem itemsMeaning_inj : ∀ js ks : List Json, SortedItems js → SortedItems ks →
    itemsMeaning js = itemsMeaning ks → js = ks
  | [], [], _, _, _ => rfl
  | [], _ :: _, _, _, h | _ :: _, [], _, _, h => by simp [itemsMeaning] at h
  | j :: js, k :: ks, hj, hk, h => by
    obtain ⟨hd, htail⟩ := List.cons.inj h
    rw [meaning_inj j k hj.1 hk.1 hd, itemsMeaning_inj js ks hj.2 hk.2 htail]

theorem entriesMeaning_inj : ∀ es : List (String × Json), ∀ e ∈ es, ∀ k : Json, Sorted e.2 → Sorted k →
    meaning e.2 = meaning k → e.2 = k
  | [] => by simp
  | (key, j) :: es => by
    have hj := meaning_inj j
    have ih := entriesMeaning_inj es
    intro e he
    rcases List.mem_cons.1 he with rfl | he
    · exact fun k hs hk h => hj k hs hk h
    · exact ih e he

end

/-! ## Canonical bytes -/

theorem canonicalJsonBytes_eq_iff {v w : PyValue} {b c : ByteArray} (hv : canonicalJsonBytes v = .ok b)
    (hw : canonicalJsonBytes w = .ok c) : b = c ↔ pyMeaning v = pyMeaning w := by
  obtain ⟨j, hj, rfl⟩ := map_eq_ok.1 hv
  obtain ⟨k, hk, rfl⟩ := map_eq_ok.1 hw
  obtain ⟨hmeanj, hreadj, -⟩ := freezeJson_ok hj
  obtain ⟨hmeank, hreadk, -⟩ := freezeJson_ok hk
  obtain ⟨hmj, hsj, hrj⟩ := sortKeys_ok j hreadj
  obtain ⟨hmk, hsk, hrk⟩ := sortKeys_ok k hreadk
  rw [String.toByteArray_inj, String.ofList_inj, hmeanj, hmeank, ← hmj, ← hmk]
  constructor
  · intro h
    rw [dumps_injective hrj hrk h]
  · intro h
    rw [meaning_inj _ _ hsj hsk h]

end Intranel

end VeraMono

import VeraMono.Model.StoredLedgers
import VeraMono.Proof.CanonicalJson
import VeraMono.Proof.TaskFold

/-!
# A head commits to its whole history

The body of an event determines its canonical bytes and, field by field, the other way round
(`bodyDigest_injective`), when no two canonical texts share a digest. A verified table is a chain
of such digests (`scan_eq_ok`), so two tables of one length that end in one head hold the same
events (`Linked.same`).
-/

namespace VeraMono

open Framework

/-! ## The fields of a normalised object -/

variable {py : Stdlib}

/-- A field and what `normalize_value` makes of it. -/
def FieldNormalizes (py : Stdlib) (f : String × PyValue) (kv : String × Json) : Prop :=
  kv.1 = f.1 ∧ normalizeValue py (keyHint f.1) f.2 = .ok kv.2

variable {fields : List (String × PyValue)} {kvs : List (String × Json)}

theorem FieldNormalizes.keys
    (h : List.Forall₂ (FieldNormalizes py) fields kvs) : kvs.map Prod.fst = fields.map Prod.fst := by
  induction h with
  | nil => rfl
  | cons hd _ ih => rw [List.map_cons, List.map_cons, ih, hd.1]

theorem normalizeObject_fields {seen : List String} (hn : (fields.map Prod.fst).Nodup)
    (hs : ∀ k ∈ fields.map Prod.fst, k ∉ seen) (h : List.Forall₂ (FieldNormalizes py) fields kvs) :
    normalizeObject py seen (fields.map fun f => (.str (.valid f.1), f.2)) = .ok kvs := by
  induction h generalizing seen with
  | nil => rfl
  | @cons f kv fields kvs hd _ ih =>
    obtain ⟨hk, hn⟩ := List.nodup_cons.mp hn
    have hrest : ∀ k ∈ fields.map Prod.fst, k ∉ f.1 :: seen := by
      intro k hkm hm
      rcases List.mem_cons.mp hm with rfl | hm
      · exact hk hkm
      · exact hs k (List.mem_cons_of_mem _ hkm) hm
    have hfresh : f.1 ∉ seen := hs f.1 (by simp)
    have hkv : kv = (f.1, kv.2) := by rw [← hd.1]
    rw [List.map_cons, hkv]
    simp [normalizeObject, PyValue.keyText, validateString, hfresh, hd.2, ih hn hrest, bind,
      Except.bind, pure, Except.pure]

theorem normalizeObject_fields_ok {seen : List String}
    (h : normalizeObject py seen (fields.map fun f => (.str (.valid f.1), f.2)) = .ok kvs) :
    List.Forall₂ (FieldNormalizes py) fields kvs := by
  have hall := (normalizeObject_ok h).1
  rw [List.forall₂_map_left_iff] at hall
  refine hall.imp fun f kv hf => ?_
  obtain ⟨hk, hv⟩ := hf
  have hk : f.1 = kv.1 := by simpa using hk
  exact ⟨hk.symm, hk ▸ hv⟩

/-- A dictionary of fields is normalised field by field, then sorted. -/
theorem normalizeValue_dictOf (hn : (fields.map Prod.fst).Nodup)
    {j : Json} : normalizeValue py .plain (StoredLedger.dictOf fields) = .ok j ↔
      ∃ kvs, List.Forall₂ (FieldNormalizes py) fields kvs ∧ .obj (sortEntries kvs) = j := by
  rw [StoredLedger.dictOf, normalizeValue, map_eq_ok]
  constructor
  · rintro ⟨kvs, h, rfl⟩
    exact ⟨kvs, normalizeObject_fields_ok h, rfl⟩
  · rintro ⟨kvs, h, rfl⟩
    exact ⟨kvs, normalizeObject_fields hn (by simp) h, rfl⟩

/-- Entries with the same distinct keys in the same places are determined by the set of them. -/
theorem entries_eq_of_perm {es fs : List (String × Json)} (hk : es.map Prod.fst = fs.map Prod.fst)
    (hn : (es.map Prod.fst).Nodup) (hp : es.Perm fs) : es = fs := by
  induction es generalizing fs with
  | nil => exact hp.nil_eq
  | cons e es ih =>
    rcases fs with _ | ⟨f, fs⟩
    · exact absurd hp.length_eq (by simp)
    · obtain ⟨hkey, hkeys⟩ := List.cons.inj hk
      have hmem : e ∈ f :: fs := hp.mem_iff.mp List.mem_cons_self
      have hfn : ((f :: fs).map Prod.fst).Nodup := hk ▸ hn
      have hef : e = f := List.inj_on_of_nodup_map hfn hmem List.mem_cons_self hkey
      subst hef
      rw [ih hkeys (List.nodup_cons.mp hn).2 hp.cons_inv]

/-- Two dictionaries with the same keys and the same normal form agree on every field. -/
theorem dictOf_fields_eq {fields fields' : List (String × PyValue)} {j : Json}
    (hk : fields.map Prod.fst = fields'.map Prod.fst) (hn : (fields.map Prod.fst).Nodup)
    (h : normalizeValue py .plain (StoredLedger.dictOf fields) = .ok j)
    (h' : normalizeValue py .plain (StoredLedger.dictOf fields') = .ok j) :
    ∃ kvs, List.Forall₂ (FieldNormalizes py) fields kvs ∧
      List.Forall₂ (FieldNormalizes py) fields' kvs := by
  obtain ⟨kvs, hf, hj⟩ := (normalizeValue_dictOf hn).mp h
  obtain ⟨kvs', hf', hj'⟩ := (normalizeValue_dictOf (hk ▸ hn)).mp h'
  have hsort : sortEntries kvs = sortEntries kvs' := Json.obj.inj (hj.trans hj'.symm)
  have hperm : kvs.Perm kvs' :=
    (sortEntries_perm kvs).symm.trans (hsort ▸ sortEntries_perm kvs')
  have hkeys := FieldNormalizes.keys hf
  have hkeys' := FieldNormalizes.keys hf'
  have heq := entries_eq_of_perm (by rw [hkeys, hkeys', hk]) (hkeys ▸ hn) hperm
  exact ⟨kvs, hf, heq ▸ hf'⟩

/-! ## The digest of a body -/

/-- No two canonical texts share a digest. -/
def PyRuntime.DigestsApart (R : PyRuntime) : Prop :=
  ∀ {x y : PyValue} {a b : ByteArray}, canonicalJsonBytes R.py x = .ok a →
    canonicalJsonBytes R.py y = .ok b → R.sha256 a = R.sha256 b → a = b

theorem forall₂_split {α β : Type} {r : α → β → Prop} {l₁ l₂ : List α} {m₁ m₂ : List β}
    (hl : l₁.length = m₁.length) (h : List.Forall₂ r (l₁ ++ l₂) (m₁ ++ m₂)) :
    List.Forall₂ r l₁ m₁ ∧ List.Forall₂ r l₂ m₂ := by
  induction l₁ generalizing m₁ with
  | nil =>
    obtain rfl := List.length_eq_zero_iff.mp hl.symm
    exact ⟨.nil, h⟩
  | cons a l₁ ih =>
    rcases m₁ with _ | ⟨b, m₁⟩
    · cases hl
    · obtain ⟨hab, htail⟩ := List.forall₂_cons.mp h
      obtain ⟨h₁, h₂⟩ := ih (Nat.succ.inj hl) htail
      exact ⟨.cons hab h₁, h₂⟩

/-- Two fields with one normal form. -/
def SameField (py : Stdlib) (f g : String × PyValue) : Prop :=
  ∃ kv, FieldNormalizes py f kv ∧ FieldNormalizes py g kv

theorem sameFields {fields fields' : List (String × PyValue)}
    (h : List.Forall₂ (FieldNormalizes py) fields kvs)
    (h' : List.Forall₂ (FieldNormalizes py) fields' kvs) :
    List.Forall₂ (SameField py) fields fields' := by
  induction h generalizing fields' with
  | nil =>
    cases h'
    exact .nil
  | cons hd _ ih =>
    cases h' with
    | cons hd' htail => exact .cons ⟨_, hd, hd'⟩ (ih htail)

theorem SameField.text {k s t : String} (hk : keyHint k = .plain)
    (h : SameField py (k, .str (.valid s)) (k, .str (.valid t))) : s = t := by
  obtain ⟨kv, ⟨-, hs⟩, -, ht⟩ := h
  have hst := hs.trans ht.symm
  simp only [hk, normalizeValue, normalizeString, validateString, Except.map, Except.ok.injEq,
    Json.str.injEq] at hst
  exact hst

theorem SameField.int {k : String} {m n : Int} (h : SameField py (k, .int m) (k, .int n)) :
    m = n := by
  obtain ⟨kv, ⟨-, hm⟩, -, hn⟩ := h
  simp only [normalizeValue] at hm hn
  split_ifs at hm hn
  exact Json.int.inj (Except.ok.inj (hm.trans hn.symm))

theorem sameField_texts {keys values values' : List String} (hp : ∀ k ∈ keys, keyHint k = .plain)
    (hv : values.length = keys.length) (hv' : values'.length = keys.length)
    (h : List.Forall₂ (SameField py) (keys.zip (values.map fun v => .str (.valid v)))
      (keys.zip (values'.map fun v => .str (.valid v)))) : values = values' := by
  induction keys generalizing values values' with
  | nil => rw [List.length_eq_zero_iff.mp hv, List.length_eq_zero_iff.mp hv']
  | cons k keys ih =>
    rcases values with _ | ⟨v, values⟩
    · cases hv
    · rcases values' with _ | ⟨v', values'⟩
      · cases hv'
      · simp only [List.map_cons, List.zip_cons_cons, List.forall₂_cons] at h
        rw [h.1.text (hp k List.mem_cons_self),
          ih (fun k hk => hp k (List.mem_cons_of_mem _ hk)) (Nat.succ.inj hv) (Nat.succ.inj hv') h.2]

namespace StoredLedger

variable {L A : Type} {R : PyRuntime} {S : StoredLedger L A}

theorem bodyFields_keys (n : Int) (l : L) (d : String) (v : PyValue) :
    (S.bodyFields n l d v).map Prod.fst =
      "schema" :: "sequence" :: (S.labelKeys ++ [S.predecessorKey, "payload"]) := by
  have hlen : S.labelKeys.length ≤ ((S.labelValues l).map fun v => PyValue.str (.valid v)).length := by
    rw [List.length_map, S.labelValues_length]
  simp [bodyFields, List.map_fst_zip hlen]

theorem bodyDigest_ok {n : Int} {l : L} {d digest : String} {v : PyValue} :
    S.bodyDigest R n l d v = .ok digest ↔
      ∃ j, normalizeValue R.py .plain (dictOf (S.bodyFields n l d v)) = .ok j ∧
        R.sha256 (String.ofList j.dumps).toByteArray = digest := by
  simp only [bodyDigest, canonicalJsonBytes, canonicalJson, map_eq_ok]
  constructor
  · rintro ⟨_, ⟨_, ⟨j, hj, rfl⟩, rfl⟩, rfl⟩
    exact ⟨j, hj, rfl⟩
  · rintro ⟨j, hj, rfl⟩
    exact ⟨_, ⟨_, ⟨j, hj, rfl⟩, rfl⟩, rfl⟩

variable {T U : StoredTable L} {n n' : Int} {d d' : String}

/-- A digest determines the body it was computed from, its payload up to its normal form. -/
theorem bodyDigest_injective (hR : R.DigestsApart) {l l' : L} {d d' digest : String}
    {v v' : PyValue} (h : S.bodyDigest R n l d v = .ok digest)
    (h' : S.bodyDigest R n' l' d' v' = .ok digest) :
    n = n' ∧ l = l' ∧ d = d' ∧
      ∃ j, normalizeValue R.py .plain v = .ok j ∧ normalizeValue R.py .plain v' = .ok j := by
  obtain ⟨j, hj, hdigest⟩ := bodyDigest_ok.mp h
  obtain ⟨j', hj', hdigest'⟩ := bodyDigest_ok.mp h'
  have hbytes := hR (canonicalJsonBytes_ok hj) (canonicalJsonBytes_ok hj') (hdigest.trans hdigest'.symm)
  rw [String.toByteArray_inj, String.ofList_inj] at hbytes
  obtain rfl : j = j' := dumps_injective ((normalizeValue_canonical _ hj).readable R.py j)
    ((normalizeValue_canonical _ hj').readable R.py j') hbytes
  have hkeys := bodyFields_keys (S := S) n l d v
  obtain ⟨kvs, hf, hf'⟩ := dictOf_fields_eq (hkeys.trans (bodyFields_keys n' l' d' v').symm)
    (hkeys ▸ S.keys_nodup) hj hj'
  have hsame := sameFields hf hf'
  simp only [bodyFields, List.forall₂_cons] at hsame
  obtain ⟨-, hseq, hrest⟩ := hsame
  obtain ⟨hlabels, htail⟩ := forall₂_split (by simp [S.labelValues_length]) hrest
  simp only [List.forall₂_cons] at htail
  obtain ⟨hpred, ⟨kv, ⟨-, hv⟩, -, hv'⟩, -⟩ := htail
  have hplain := S.keys_plain
  have hpayload : keyHint "payload" = .plain := by decide +kernel
  refine ⟨hseq.int, S.labelValues_injective ?_, hpred.text (hplain _ List.mem_cons_self), kv.2, ?_, ?_⟩
  · exact sameField_texts (fun k hk => hplain k (List.mem_cons_of_mem _ hk))
      (S.labelValues_length l) (S.labelValues_length l') hlabels
  · rwa [hpayload] at hv
  · rwa [hpayload] at hv'

/-! ## Verified tables -/

variable (R S) in
/-- Events that continue a chain of `n` events ending in `d` to one of `n'` ending in `d'`. -/
def Linked : Int → String → List (StoredEvent L) → Int → String → Prop
  | n, d, [], n', d' => n' = n ∧ d' = d
  | n, d, e :: es, n', d' => e.sequence = n + 1 ∧ e.predecessorDigest = d ∧
    S.observedDigest R e = .ok e.eventDigest ∧ Linked (n + 1) e.eventDigest es n' d'

/-- The loop accepts the rows that read as a chain whose events pass the checks. -/
theorem scan_eq_ok {rows : List (StoredRow L)} {a a' : A} :
    S.scan R n d a rows = .ok (n', d', a') ↔
      ∃ es, rows.mapM (S.row R) = .ok es ∧ S.Linked R n d es n' d' ∧ es.foldlM S.check a = .ok a' := by
  induction rows generalizing n d a with
  | nil =>
    simp only [scan, List.mapM_nil, pure, Except.pure, Except.ok.injEq, Prod.mk.injEq]
    constructor
    · rintro ⟨rfl, rfl, rfl⟩
      exact ⟨[], rfl, ⟨rfl, rfl⟩, rfl⟩
    · rintro ⟨_, rfl, ⟨rfl, rfl⟩, ha⟩
      exact ⟨rfl, rfl, Except.ok.inj ha⟩
  | cons r rows ih =>
    have hmap : ∀ es : List (StoredEvent L), (r :: rows).mapM (S.row R) = .ok es ↔
        ∃ e, S.row R r = .ok e ∧ ∃ es', rows.mapM (S.row R) = .ok es' ∧ es = e :: es' := by
      intro es
      simp only [List.mapM_cons, bind_eq_ok, pure_ok]
    simp only [scan, hmap, bind_eq_ok, ite_error_ok, ↓throw_bind, not_not]
    constructor
    · rintro ⟨e, he, hseq, hpred, a₁, ha, observed, hobs, hdigest, hrest⟩
      obtain ⟨es, hes, hl, hfold⟩ := ih.mp hrest
      subst hdigest
      exact ⟨e :: es, ⟨e, he, es, hes, rfl⟩, ⟨hseq, hpred, hobs, hl⟩, by
        simpa only [List.foldlM_cons, bind_eq_ok] using ⟨a₁, ha, hfold⟩⟩
    · rintro ⟨_, ⟨e, he, es, hes, rfl⟩, ⟨hseq, hpred, hobs, hl⟩, hfold⟩
      obtain ⟨a₁, ha, hfold⟩ := by simpa only [List.foldlM_cons, bind_eq_ok] using hfold
      exact ⟨e, he, hseq, hpred, a₁, ha, _, hobs, rfl, ih.mpr ⟨es, hes, hl, hfold⟩⟩

theorem Linked.length {es : List (StoredEvent L)}
    (h : S.Linked R n d es n' d') : n' = n + es.length := by
  induction es generalizing n d with
  | nil => simpa using h.1
  | cons e es ih =>
    rw [ih h.2.2.2, List.length_cons]
    omega

/-- A table is verified when it reads as one chain whose events pass the checks. -/
theorem verifyChain_eq_ok {T : StoredTable L} {h : String} :
    S.verifyChain R T = .ok h ↔ h = T.head ∧ ∃ es, S.events R T = .ok es ∧
      S.Linked R 0 (S.genesisHead R) es T.sequence T.head ∧ ∃ a, es.foldlM S.check S.start = .ok a := by
  simp only [verifyChain, bind_eq_ok, ite_error_ok, ↓throw_bind, pure_ok, not_not, Prod.exists,
    scan_eq_ok, events]
  constructor
  · rintro ⟨n, d, a, ⟨es, hes, hl, ha⟩, rfl, rfl, rfl⟩
    exact ⟨rfl, es, hes, hl, a, ha⟩
  · rintro ⟨rfl, es, hes, hl, a, ha⟩
    exact ⟨_, _, a, ⟨es, hes, hl, ha⟩, rfl, rfl, rfl⟩

variable (R) in
/-- Two events that differ at most in how their payloads are written. -/
def SameEvent (e f : StoredEvent L) : Prop :=
  e.sequence = f.sequence ∧ e.labels = f.labels ∧ e.predecessorDigest = f.predecessorDigest ∧
    e.eventDigest = f.eventDigest ∧
    ∃ text, canonicalJson R.py e.payload = .ok text ∧ canonicalJson R.py f.payload = .ok text

/-- The payload of an event is a JSON object. -/
def HoldsObject (e : StoredEvent L) : Prop := ∃ entries, e.payload = .dict entries

theorem observedDigest_object {e : StoredEvent L} (h : HoldsObject e) :
    S.observedDigest R e =
      S.bodyDigest R e.sequence e.labels e.predecessorDigest e.payload := by
  obtain ⟨entries, he⟩ := h
  simp [observedDigest, he, pyDict, bind, Except.bind]

/-- Chains of one length that end in one digest hold the same events. -/
theorem Linked.same (hR : R.DigestsApart) {es fs : List (StoredEvent L)} {n k m : Int}
    {d dk h : String} (hes : ∀ e ∈ es, HoldsObject e) (hfs : ∀ f ∈ fs, HoldsObject f)
    (hl : S.Linked R n d es m h) (hl' : S.Linked R k dk fs m h) (hlen : es.length = fs.length) :
    n = k ∧ d = dk ∧ List.Forall₂ (SameEvent R) es fs := by
  induction es generalizing fs n k d dk with
  | nil =>
    obtain rfl := List.length_eq_zero_iff.mp hlen.symm
    exact ⟨hl.1.symm.trans hl'.1, hl.2.symm.trans hl'.2, .nil⟩
  | cons e es ih =>
    rcases fs with _ | ⟨f, fs⟩
    · cases hlen
    · obtain ⟨heseq, hepred, hedigest, hetail⟩ := hl
      obtain ⟨hfseq, hfpred, hfdigest, hftail⟩ := hl'
      obtain ⟨hn, hdigest, hsame⟩ := ih (fun e he => hes e (List.mem_cons_of_mem _ he))
        (fun f hf => hfs f (List.mem_cons_of_mem _ hf)) hetail hftail (Nat.succ.inj hlen)
      rw [observedDigest_object (hes e List.mem_cons_self)] at hedigest
      rw [observedDigest_object (hfs f List.mem_cons_self), ← hdigest] at hfdigest
      obtain ⟨hseq, hlabels, hpred, j, hj, hj'⟩ := bodyDigest_injective hR hedigest hfdigest
      refine ⟨by omega, by rw [← hepred, ← hfpred, hpred], .cons ⟨hseq, hlabels, hpred, hdigest, ?_⟩ hsame⟩
      exact ⟨_, canonicalJson_ok hj, canonicalJson_ok hj'⟩

/-- Two verified tables of JSON objects with one head and sequence hold the same events. -/
theorem events_of_head (hR : R.DigestsApart) {h k : String}
    (hT : S.verifyChain R T = .ok h) (hU : S.verifyChain R U = .ok k) (hhead : T.head = U.head)
    (hseq : T.sequence = U.sequence) (hTo : ∀ es, S.events R T = .ok es → ∀ e ∈ es, HoldsObject e)
    (hUo : ∀ es, S.events R U = .ok es → ∀ e ∈ es, HoldsObject e) :
    ∃ es fs, S.events R T = .ok es ∧ S.events R U = .ok fs ∧ List.Forall₂ (SameEvent R) es fs := by
  obtain ⟨-, es, hes, hlT, -⟩ := verifyChain_eq_ok.mp hT
  obtain ⟨-, fs, hfs, hlU, -⟩ := verifyChain_eq_ok.mp hU
  have hlen := hlT.length
  have hlen' := hlU.length
  rw [hhead, hseq] at hlT
  exact ⟨es, fs, hes, hfs, (hlT.same hR (hTo es hes) (hUo fs hfs) hlU (by omega)).2.2⟩

/-! ## Tables made by `append` -/

theorem forall₂_of_field {f g : PyValue} {pre : List (String × PyValue)} {k : String}
    {kvs : List (String × Json)}
    (hfg : ∀ kv, FieldNormalizes py (k, f) kv → FieldNormalizes py (k, g) kv)
    (h : List.Forall₂ (FieldNormalizes py) (pre ++ [(k, f)]) kvs) :
    List.Forall₂ (FieldNormalizes py) (pre ++ [(k, g)]) kvs := by
  induction pre generalizing kvs with
  | nil =>
    rcases kvs with _ | ⟨kv, kvs⟩
    · cases h
    · obtain ⟨hkv, htail⟩ := List.forall₂_cons.mp h
      exact .cons (hfg kv hkv) htail
  | cons p pre ih =>
    rcases kvs with _ | ⟨kv, kvs⟩
    · cases h
    · obtain ⟨hkv, htail⟩ := List.forall₂_cons.mp h
      exact .cons hkv (ih htail)

theorem bodyDigest_congr {n : Int} {l : L} {d digest : String} {v w : PyValue} {j : Json}
    (hv : normalizeValue R.py .plain v = .ok j) (hw : normalizeValue R.py .plain w = .ok j)
    (h : S.bodyDigest R n l d v = .ok digest) : S.bodyDigest R n l d w = .ok digest := by
  obtain ⟨k, hk, rfl⟩ := bodyDigest_ok.mp h
  have hnodup : ∀ v, ((S.bodyFields n l d v).map Prod.fst).Nodup := fun v =>
    bodyFields_keys (S := S) n l d v ▸ S.keys_nodup
  obtain ⟨kvs, hf, rfl⟩ := (normalizeValue_dictOf (hnodup v)).mp hk
  refine bodyDigest_ok.mpr ⟨_, (normalizeValue_dictOf (hnodup w)).mpr ⟨kvs, ?_, rfl⟩, rfl⟩
  have hsplit : ∀ v, S.bodyFields n l d v =
      (("schema", .str (.valid S.schema)) :: ("sequence", .int n) ::
        (S.labelKeys.zip ((S.labelValues l).map fun v => .str (.valid v)) ++
          [(S.predecessorKey, .str (.valid d))])) ++ [("payload", v)] := by
    intro v
    simp [bodyFields]
  rw [hsplit] at hf ⊢
  have hplain : keyHint "payload" = .plain := by decide +kernel
  have hfield : ∀ kv, FieldNormalizes R.py ("payload", v) kv → FieldNormalizes R.py ("payload", w) kv := by
    rintro kv ⟨hkey, hval⟩
    refine ⟨hkey, ?_⟩
    simp only [hplain] at hval ⊢
    rw [hw, ← hval, hv]
  exact forall₂_of_field hfield hf

variable (R S) in
/-- The rows of a ledger read as a chain that ends in its head. -/
def Kept (T : StoredTable L) : Prop :=
  ∃ es, S.events R T = .ok es ∧ S.Linked R 0 (S.genesisHead R) es T.sequence T.head

variable (R S) in
/-- The payload of an event reads back from the text `append` stores. -/
def ReadsPayloads : Prop := ∀ kvs : List (String × Json), (Json.obj kvs).Readable →
  S.readPayload R (String.ofList (Json.obj kvs).dumps) = .ok (Json.obj kvs).toPy

theorem Linked.snoc {es : List (StoredEvent L)} {e : StoredEvent L}
    (h : S.Linked R n d es n' d') (hseq : e.sequence = n' + 1) (hpred : e.predecessorDigest = d')
    (hdigest : S.observedDigest R e = .ok e.eventDigest) :
    S.Linked R n d (es ++ [e]) (n' + 1) e.eventDigest := by
  induction es generalizing n d with
  | nil =>
    obtain ⟨rfl, rfl⟩ := h
    exact ⟨hseq, hpred, hdigest, rfl, rfl⟩
  | cons f es ih => exact ⟨h.1, h.2.1, h.2.2.1, ih h.2.2.2⟩

/-- What `append` adds reads back as it was hashed. -/
theorem append_kept (hback : ReadsBack R.py) (hread : S.ReadsPayloads R) {l : L} {v : PyValue}
    (hT : S.Kept R T) (h : S.append R l v T = .ok U) : S.Kept R U := by
  simp only [append, bind_eq_ok] at h
  obtain ⟨_, -, h⟩ := h
  split at h
  · rename_i entries
    simp only [bind_eq_ok] at h
    obtain ⟨text, htext, h⟩ := h
    split at h
    · simp only [bind_eq_ok, ite_error_ok, ↓throw_bind, pure_ok] at h
      obtain ⟨_, -, -, _, -, _, -, -, rfl⟩ := h
      exact hT
    · simp only [bind_eq_ok, ite_error_ok, ↓throw_bind, pure_ok] at h
      obtain ⟨digest, hdigest, -, -, rfl⟩ := h
      obtain ⟨j, hj, rfl⟩ := map_eq_ok.mp htext
      obtain ⟨kvs, hkvs, rfl⟩ := map_eq_ok.mp hj
      obtain ⟨es, hes, hl⟩ := hT
      have hcanonical := normalizeValue_canonical _ hj
      have hrow : S.row R ⟨T.sequence + 1, l, T.head, digest, String.ofList (Json.obj (sortEntries kvs)).dumps⟩ =
          .ok ⟨T.sequence + 1, l, T.head, digest, (Json.obj (sortEntries kvs)).toPy⟩ := by
        rw [row, hread _ (hcanonical.readable R.py _), Except.map]
      refine ⟨es ++ [⟨T.sequence + 1, l, T.head, digest, (Json.obj (sortEntries kvs)).toPy⟩], ?_, ?_⟩
      · rw [events] at hes
        simp [events, List.mapM_append, hes, hrow, bind, Except.bind, pure, Except.pure]
      · refine hl.snoc rfl rfl ?_
        rw [observedDigest_object ⟨_, rfl⟩]
        exact bodyDigest_congr hj (normalizeValue_toPy hback _ hcanonical) hdigest
  · cases h

theorem appendAll_kept (hback : ReadsBack R.py) (hread : S.ReadsPayloads R)
    {calls : List (L × PyValue)} (hT : S.Kept R T)
    (h : S.appendAll R calls T = .ok U) : S.Kept R U := by
  induction calls generalizing T with
  | nil =>
    cases h
    exact hT
  | cons c calls ih =>
    simp only [appendAll, List.foldlM_cons, bind_eq_ok] at h ih
    obtain ⟨V, hV, h⟩ := h
    exact ih (append_kept hback hread hT hV) h

theorem kept_empty : S.Kept R (S.empty R) := ⟨[], rfl, rfl, rfl⟩

/-- A table of appended events is verified when the events pass the checks of the ledger. -/
theorem verifyChain_appendAll (hback : ReadsBack R.py) (hread : S.ReadsPayloads R)
    {calls : List (L × PyValue)} {T : StoredTable L} (h : S.appendAll R calls (S.empty R) = .ok T) :
    S.verifyChain R T = .ok T.head ↔
      ∃ es a, S.events R T = .ok es ∧ es.foldlM S.check S.start = .ok a := by
  obtain ⟨es, hes, hl⟩ := appendAll_kept hback hread kept_empty h
  rw [verifyChain_eq_ok]
  constructor
  · rintro ⟨-, fs, hfs, -, a, ha⟩
    exact ⟨fs, a, hfs, ha⟩
  · rintro ⟨fs, a, hfs, ha⟩
    obtain rfl := Except.ok.inj (hes.symm.trans hfs)
    exact ⟨rfl, es, hes, hl, a, ha⟩

end StoredLedger

/-! ## The three ledgers -/

variable {R : PyRuntime}

theorem readJson_dumps {j : Json} (hj : j.Readable) : readJson R (String.ofList j.dumps) = .ok j.toPy := by
  rw [readJson, jsonLoads_dumps (defaultHooks_keepsEntries R.pyFloat) hj, Except.mapError]

theorem readJsonObject_dumps {error : String → Failure} {label : String} {kvs : List (String × Json)}
    (hj : (Json.obj kvs).Readable) :
    readJsonObject error label R (String.ofList (Json.obj kvs).dumps) = .ok (Json.obj kvs).toPy := by
  rw [readJsonObject, jsonLoads_dumps (defaultHooks_keepsEntries R.pyFloat) hj]
  rfl

theorem storedJournal_reads : storedJournal.ReadsPayloads R := fun _ => readJson_dumps

theorem storedAudit_reads : storedAudit.ReadsPayloads R := fun _ => readJsonObject_dumps

theorem storedTasks_reads : storedTasks.ReadsPayloads R := fun _ => readJsonObject_dumps

theorem readJsonObject_holds {error : String → Failure} {label text : String} {v : PyValue}
    (h : readJsonObject error label R text = .ok v) : ∃ entries, v = .dict entries := by
  unfold readJsonObject at h
  split at h
  · cases h
  · cases h
  · exact ⟨_, (Except.ok.inj h).symm⟩
  · cases h

namespace StoredLedger

variable {L A : Type} (R) (S : StoredLedger L A)

/-- Verified tables with one head and sequence hold the same events. -/
def CommitsTo (T U : StoredTable L) : Prop := ∀ h k, S.verifyChain R T = .ok h →
  S.verifyChain R U = .ok k → T.head = U.head → T.sequence = U.sequence →
  ∃ es fs, S.events R T = .ok es ∧ S.events R U = .ok fs ∧ List.Forall₂ (SameEvent R) es fs

/-- Every payload of a table is a JSON object. -/
def HoldsObjects (T : StoredTable L) : Prop :=
  ∀ es, S.events R T = .ok es → ∀ e ∈ es, HoldsObject e

/-- The events of a table, in order, pass the checks of the ledger. -/
def InOrder (T : StoredTable L) : Prop :=
  ∃ es a, S.events R T = .ok es ∧ es.foldlM S.check S.start = .ok a

end StoredLedger

theorem mapM_ok_mem {α β : Type} {f : α → Except Failure β} {as : List α} {bs : List β}
    (h : as.mapM f = .ok bs) {b : β} (hb : b ∈ bs) : ∃ a ∈ as, f a = .ok b := by
  induction as generalizing bs with
  | nil =>
    cases h
    cases hb
  | cons a as ih =>
    simp only [List.mapM_cons, bind_eq_ok, pure_ok] at h
    obtain ⟨c, hc, cs, hcs, rfl⟩ := h
    rcases List.mem_cons.mp hb with rfl | hb
    · exact ⟨a, List.mem_cons_self, hc⟩
    · obtain ⟨a', ha', h'⟩ := ih hcs hb
      exact ⟨a', List.mem_cons_of_mem _ ha', h'⟩

theorem holdsObjects_of_reads {L A : Type} {S : StoredLedger L A}
    (hS : ∀ {text v}, S.readPayload R text = .ok v → ∃ entries, v = .dict entries)
    (T : StoredTable L) : S.HoldsObjects R T := by
  intro es hes e he
  obtain ⟨r, -, hr⟩ := mapM_ok_mem hes he
  obtain ⟨v, hv, rfl⟩ := map_eq_ok.mp hr
  exact hS hv

/-- The head of a ledger commits to its whole history, and what `append` wrote is verified as
far as the chain goes. -/
theorem ledger_heads_commit {reading : String → TimeText} (hR : R.DigestsApart)
    (clock : FromIsoformat R.py reading) :
    (∀ T U, storedJournal.HoldsObjects R T → storedJournal.HoldsObjects R U →
      storedJournal.CommitsTo R T U) ∧
    (∀ T U, storedAudit.CommitsTo R T U) ∧ (∀ T U, storedTasks.CommitsTo R T U) ∧
    (∀ calls T, storedJournal.appendAll R calls (storedJournal.empty R) = .ok T →
      storedJournal.verifyChain R T = .ok T.head) ∧
    (∀ calls T, storedAudit.appendAll R calls (storedAudit.empty R) = .ok T →
      (storedAudit.verifyChain R T = .ok T.head ↔ storedAudit.InOrder R T)) ∧
    (∀ calls T, storedTasks.appendAll R calls (storedTasks.empty R) = .ok T →
      (storedTasks.verifyChain R T = .ok T.head ↔ storedTasks.InOrder R T)) := by
  have hback : ReadsBack R.py := clock.reads_back
  refine ⟨fun T U hT hU h k hv hv' hh hs => ?_, fun T U h k hv hv' hh hs => ?_,
    fun T U h k hv hv' hh hs => ?_, fun calls T h => ?_, fun calls T h => ?_, fun calls T h => ?_⟩
  · exact StoredLedger.events_of_head hR hv hv' hh hs hT hU
  · exact StoredLedger.events_of_head hR hv hv' hh hs (holdsObjects_of_reads readJsonObject_holds T)
      (holdsObjects_of_reads readJsonObject_holds U)
  · exact StoredLedger.events_of_head hR hv hv' hh hs (holdsObjects_of_reads readJsonObject_holds T)
      (holdsObjects_of_reads readJsonObject_holds U)
  · -- the journal makes no check of its own
    rw [StoredLedger.verifyChain_appendAll hback storedJournal_reads h]
    obtain ⟨es, hes, -⟩ :=
      StoredLedger.appendAll_kept hback storedJournal_reads StoredLedger.kept_empty h
    have hcheck : ∀ es : List (StoredEvent JournalLabels),
        es.foldlM storedJournal.check storedJournal.start = .ok () := by
      intro es
      induction es with
      | nil => rfl
      | cons e es ih => exact ih
    exact ⟨es, (), hes, hcheck es⟩
  · exact StoredLedger.verifyChain_appendAll hback storedAudit_reads h
  · exact StoredLedger.verifyChain_appendAll hback storedTasks_reads h

/-! ### Tables at a runtime that computes -/

/-- A digest that is the text it was given, byte by byte. -/
def plainDigest (data : ByteArray) : String :=
  String.ofList (data.data.toList.map fun byte => Char.ofNat byte.toNat)

def plainRuntime : PyRuntime := ⟨newYearClock, fun _ => none, plainDigest⟩

theorem plainDigest_injective : Function.Injective plainDigest := by
  intro a b h
  have hbyte : Function.Injective fun byte : UInt8 => Char.ofNat byte.toNat := by
    intro x y hxy
    have hvalid : ∀ byte : UInt8, (Char.ofNat byte.toNat).toNat = byte.toNat := fun byte => by
      have hlt := byte.toNat_lt
      have hv : byte.toNat.isValidChar := Or.inl (by omega)
      rw [Char.ofNat, dif_pos hv]
      rfl
    have hnat := congrArg Char.toNat hxy
    rw [hvalid, hvalid] at hnat
    exact UInt8.toNat_inj.mp hnat
  have hlist := hbyte.list_map (String.ofList_inj.mp h)
  exact ByteArray.ext (Array.toList_inj.mp hlist)

theorem plainRuntime_digestsApart : plainRuntime.DigestsApart := fun _ _ h => plainDigest_injective h

/-- A journal of one event, with a payload that says `a` is 1 in the digest. -/
def journalOf (payload : Json) : StoredTable JournalLabels :=
  let labels : JournalLabels := ⟨"t", "OPENED"⟩
  let genesis := storedJournal.genesisHead plainRuntime
  let digest := ((storedJournal.bodyDigest plainRuntime 1 labels genesis
    (Json.obj [("a", .int 1)]).toPy).toOption).getD ""
  ⟨[⟨1, labels, genesis, digest, String.ofList payload.dumps⟩], 1, digest⟩

theorem sampleEvent_facts : storedJournal.checkLabels ⟨"t", "OPENED"⟩ = .ok () ∧
    canonicalJson plainRuntime.py (Json.obj [("a", .int 1)]).toPy = .ok (String.ofList (Json.obj [("a", .int 1)]).dumps) ∧
    (storedJournal.bodyDigest plainRuntime 1 ⟨"t", "OPENED"⟩ (storedJournal.genesisHead plainRuntime)
      (Json.obj [("a", .int 1)]).toPy).toBool = true := by
  decide +kernel

/-- The row of the sample event, with a payload. -/
theorem journalOf_eq (payload : Json) : ∃ digest,
    storedJournal.bodyDigest plainRuntime 1 ⟨"t", "OPENED"⟩ (storedJournal.genesisHead plainRuntime)
      (Json.obj [("a", .int 1)]).toPy = .ok digest ∧
    journalOf payload = ⟨[⟨1, ⟨"t", "OPENED"⟩, storedJournal.genesisHead plainRuntime, digest,
      String.ofList payload.dumps⟩], 1, digest⟩ := by
  obtain ⟨digest, hdigest⟩ := toBool_iff.1 sampleEvent_facts.2.2
  refine ⟨digest, hdigest, ?_⟩
  simp only [journalOf, hdigest]
  rfl

theorem journalOf_appended :
    storedJournal.appendAll plainRuntime [(⟨"t", "OPENED"⟩, (Json.obj [("a", .int 1)]).toPy)]
      (storedJournal.empty plainRuntime) = .ok (journalOf (.obj [("a", .int 1)])) := by
  obtain ⟨hlabels, htext, -⟩ := sampleEvent_facts
  obtain ⟨digest, hdigest, heq⟩ := journalOf_eq (.obj [("a", .int 1)])
  have hdict : (Json.obj [("a", .int 1)]).toPy = .dict [(.str (.valid "a"), .int 1)] := rfl
  rw [hdict] at htext hdigest
  have hempty : storedJournal.empty plainRuntime = ⟨[], 0, storedJournal.genesisHead plainRuntime⟩ := rfl
  rw [StoredLedger.appendAll, List.foldlM_cons, hdict, heq, hempty, StoredLedger.append, hlabels, ok_bind]
  simp only [htext, ok_bind, List.find?_nil, Int.zero_add, hdigest, List.any_nil, Bool.false_eq_true, if_false]
  rfl

/-- The journal is verified whatever it stores for its event, when `dict` of that is the payload. -/
theorem journalOf_verified {payload : Json} (hread : payload.Readable)
    (hdict : pyDict payload.toPy = .ok (Json.obj [("a", .int 1)]).toPy) :
    storedJournal.verifyChain plainRuntime (journalOf payload) = .ok (journalOf payload).head := by
  obtain ⟨digest, hdigest, heq⟩ := journalOf_eq payload
  have hrow : storedJournal.readPayload plainRuntime (String.ofList payload.dumps) = .ok payload.toPy :=
    readJson_dumps hread
  have hcheck : ∀ e, storedJournal.check storedJournal.start e = .ok () := fun _ => rfl
  rw [heq]
  simp only [StoredLedger.verifyChain, StoredLedger.scan, StoredLedger.row, hrow, Except.map, ok_bind,
    StoredLedger.observedDigest, hdict, hdigest, Int.zero_add, ne_eq, not_true_eq_false, if_false, hcheck]
  rfl

/-- The journal that appended its one event is verified. -/
theorem ledger_heads_commit_plain :
    storedJournal.verifyChain plainRuntime (journalOf (.obj [("a", .int 1)])) =
      .ok (journalOf (.obj [("a", .int 1)])).head :=
  (ledger_heads_commit plainRuntime_digestsApart newYearClock_fromIsoformat).2.2.2.1
    [(⟨"t", "OPENED"⟩, (Json.obj [("a", .int 1)]).toPy)] _ journalOf_appended

/-- The calls are appended to a new ledger that is not verified then. -/
def appendedUnverified {L A : Type} (S : StoredLedger L A) (calls : List (L × PyValue)) : Bool :=
  match S.appendAll plainRuntime calls (S.empty plainRuntime) with
  | .ok T => !(S.verifyChain plainRuntime T).toBool
  | .error _ => false

theorem not_verified {L A : Type} {S : StoredLedger L A} {calls : List (L × PyValue)}
    (h : appendedUnverified S calls = true) :
    ¬ ∀ calls T, S.appendAll plainRuntime calls (S.empty plainRuntime) = .ok T →
      ∃ h, S.verifyChain plainRuntime T = .ok h := by
  intro hall
  unfold appendedUnverified at h
  split at h
  · rename_i T hT
    obtain ⟨k, hk⟩ := hall calls T hT
    rw [hk] at h
    cases h
  · cases h

def firstPayload (T : StoredTable JournalLabels) : Option String :=
  match storedJournal.events plainRuntime T with
  | .ok (e :: _) => (canonicalJson plainRuntime.py e.payload).toOption
  | _ => none

theorem firstPayload_eq {T U : StoredTable JournalLabels} {es fs : List (StoredEvent JournalLabels)}
    (hT : storedJournal.events plainRuntime T = .ok es)
    (hU : storedJournal.events plainRuntime U = .ok fs)
    (h : List.Forall₂ (StoredLedger.SameEvent plainRuntime) es fs) : firstPayload T = firstPayload U := by
  cases h with
  | nil => simp [firstPayload, hT, hU]
  | cons he _ =>
    obtain ⟨-, -, -, -, text, hs, ht⟩ := he
    simp [firstPayload, hT, hU, hs, ht]

/-- An audit that begins with a reservation and a task that begins with a checkpoint are
appended and not verified; a journal that stores pairs in place of an object is verified. -/
theorem appended_not_verified :
    (¬ ∀ calls T, storedAudit.appendAll plainRuntime calls (storedAudit.empty plainRuntime) = .ok T →
      ∃ h, storedAudit.verifyChain plainRuntime T = .ok h) ∧
    (¬ ∀ calls T, storedTasks.appendAll plainRuntime calls (storedTasks.empty plainRuntime) = .ok T →
      ∃ h, storedTasks.verifyChain plainRuntime T = .ok h) ∧
    ¬ ∀ T U, storedJournal.CommitsTo plainRuntime T U := by
  refine ⟨?_, ?_, fun h => ?_⟩
  · have hcalls : appendedUnverified storedAudit [(⟨"e", "k", "RESERVED"⟩, .dict [])] = true := by
      decide +kernel
    exact not_verified hcalls
  · have hcalls : appendedUnverified storedTasks [(⟨"t:1", "t", "TASK_CHECKPOINT"⟩, .dict [])] = true := by
      decide +kernel
    exact not_verified hcalls
  · have hobject : (Json.obj [("a", .int 1)]).Readable := by
      simp [Json.Readable, Json.ReadableEntries, maxSafeInteger]
    have hpairs : (Json.arr [.arr [.str "a", .int 1]]).Readable := by
      simp [Json.Readable, Json.ReadableItems, maxSafeInteger]
    obtain ⟨es, fs, hes, hfs, hsame⟩ :=
      h _ _ _ _ (journalOf_verified hobject rfl) (journalOf_verified hpairs rfl) rfl rfl
    have hpayload := firstPayload_eq hes hfs hsame
    revert hpayload
    decide +kernel

end VeraMono

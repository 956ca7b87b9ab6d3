import VeraMono.Proof.Digestible
import VeraMono.Proof.JsonRoundTrip

/-!
# What canonical JSON tells apart

A value says something beyond its spelling: an object is a map from keys, a list and a tuple are
the same sequence, and a text under a key ending in `_at` is an instant (`Datum`,
`PyValue.denote`). Two accepted values have the same canonical bytes exactly when they say the
same once every instant is cut to microseconds (`canonicalJsonBytes_eq_iff`). What
`normalize_timestamp` writes it reads as itself (`FromIsoformat.reads_back`), and it writes an
instant in one way (`FromIsoformat.renders_once`).
-/

namespace VeraMono

open Framework

/-! ## What a value says -/

/-- What a value says, instants being of type `α`. -/
inductive Datum (α : Type)
  | null
  | bool (b : Bool)
  | int (i : Int)
  | text (s : String)
  | instant (t : α)
  | arr (items : List (Datum α))
  | obj (fields : String → Option (Datum α))
  /-- A value `normalize_value` has no form for. -/
  | unsupported

section denote

variable {α : Type} (read : String → α)

def denoteText (hint : KeyHint) (s : String) : Datum α :=
  if hint = .timestamp then .instant (read s) else .text s

mutual

def PyValue.denote (hint : KeyHint) : PyValue → Datum α
  | .none => .null
  | .bool b => .bool b
  | .int i => .int i
  | .str (.valid s) => denoteText read hint s
  | .list items => .arr (PyValue.denoteItems items)
  | .tuple items => .arr (PyValue.denoteItems items)
  | .dict entries => .obj (PyValue.denoteEntries entries)
  | _ => .unsupported

def PyValue.denoteItems : List PyValue → List (Datum α)
  | [] => []
  | v :: vs => PyValue.denote .plain v :: PyValue.denoteItems vs

def PyValue.denoteEntries : List (PyValue × PyValue) → String → Option (Datum α)
  | [], _ => Option.none
  | (k, v) :: rest, key =>
    if k.keyText = some (.valid key) then some (PyValue.denote (keyHint key) v)
    else PyValue.denoteEntries rest key

end

mutual

def Json.denote (hint : KeyHint) : Json → Datum α
  | .null => .null
  | .bool b => .bool b
  | .int i => .int i
  | .str s => denoteText read hint s
  | .arr items => .arr (Json.denoteItems items)
  | .obj entries => .obj (Json.denoteEntries entries)

def Json.denoteItems : List Json → List (Datum α)
  | [] => []
  | j :: js => Json.denote .plain j :: Json.denoteItems js

def Json.denoteEntries : List (String × Json) → String → Option (Datum α)
  | [], _ => none
  | (k, j) :: rest, key =>
    if k = key then some (Json.denote (keyHint key) j) else Json.denoteEntries rest key

end

end denote

/-! ## Keys in UTF-16 order -/

/-- The code units of one character. -/
def utf16Char (c : Char) : List Nat :=
  if c.toNat < 0x10000 then [c.toNat]
  else [0xD800 + (c.toNat - 0x10000) / 0x400, 0xDC00 + (c.toNat - 0x10000) % 0x400]

theorem utf16_eq (s : String) : utf16 s = s.toList.flatMap utf16Char := rfl

theorem toNat_valid (c : Char) : c.toNat < 0xD800 ∨ 0xDFFF < c.toNat ∧ c.toNat < 0x110000 := by
  have hv := c.valid
  have hn : c.toNat = c.val.toNat := rfl
  simp only [UInt32.isValidChar, Nat.isValidChar] at hv
  omega

theorem utf16Char_prefix {c d : Char} {s t : List Nat} (h : utf16Char c ++ s = utf16Char d ++ t) :
    c = d ∧ s = t := by
  have hc := toNat_valid c
  have hd := toNat_valid d
  suffices c.toNat = d.toNat ∧ s = t from ⟨Char.toNat_inj.mp this.1, this.2⟩
  unfold utf16Char at h
  -- a character past 0xFFFF starts with a unit no other character starts with
  split_ifs at h <;> simp only [List.cons_append, List.nil_append, List.cons.injEq] at h
  · exact h
  · omega
  · omega
  · exact ⟨by omega, h.2.2⟩

theorem utf16_injective {s t : String} (h : utf16 s = utf16 t) : s = t := by
  have key : ∀ l m : List Char, l.flatMap utf16Char = m.flatMap utf16Char → l = m := by
    have hne : ∀ c, utf16Char c ≠ [] := fun c => by unfold utf16Char; split_ifs <;> simp
    intro l
    induction l with
    | nil =>
      rintro (_ | ⟨d, m⟩) h
      · rfl
      · exact absurd (List.append_eq_nil_iff.mp h.symm).1 (hne d)
    | cons c l ih =>
      rintro (_ | ⟨d, m⟩) h
      · exact absurd (List.append_eq_nil_iff.mp h).1 (hne c)
      · rw [List.flatMap_cons, List.flatMap_cons] at h
        obtain ⟨rfl, htail⟩ := utf16Char_prefix h
        rw [ih m htail]
  rw [utf16_eq, utf16_eq] at h
  exact String.toList_inj.mp (key _ _ h)

/-- The order `sortEntries` sorts by. -/
def KeyLE (a b : String × Json) : Prop := utf16 a.1 ≤ utf16 b.1

theorem sortEntries_sorted (es : List (String × Json)) : (sortEntries es).Pairwise KeyLE := by
  have : Std.Total KeyLE := ⟨fun a b => le_total (utf16 a.1) (utf16 b.1)⟩
  have : IsTrans (String × Json) KeyLE := ⟨fun _ _ _ => le_trans⟩
  exact List.pairwise_insertionSort (fun a b => utf16 a.1 ≤ utf16 b.1) es

theorem sortEntries_perm (es : List (String × Json)) : (sortEntries es).Perm es :=
  List.perm_insertionSort _ es

theorem sortEntries_of_sorted {es : List (String × Json)} (h : es.Pairwise KeyLE) :
    sortEntries es = es :=
  List.Pairwise.insertionSort_eq h

/-! ## Canonical documents -/

variable (py : Stdlib)

mutual

/-- The documents `normalize_value` returns for a value under a key. -/
def Json.Canonical (hint : KeyHint) : Json → Prop
  | .null | .bool _ => True
  | .int i => i.natAbs ≤ maxSafeInteger
  | .str s => ∃ t, normalizeString py hint t = .ok s
  | .arr items => Json.CanonicalItems items
  | .obj entries =>
    (entries.map Prod.fst).Nodup ∧ entries.Pairwise KeyLE ∧ Json.CanonicalEntries entries

def Json.CanonicalItems : List Json → Prop
  | [] => True
  | j :: js => Json.Canonical .plain j ∧ Json.CanonicalItems js

def Json.CanonicalEntries : List (String × Json) → Prop
  | [] => True
  | (k, j) :: rest => Json.Canonical (keyHint k) j ∧ Json.CanonicalEntries rest

end

theorem canonicalEntries_iff {es : List (String × Json)} :
    Json.CanonicalEntries py es ↔ ∀ e ∈ es, e.2.Canonical py (keyHint e.1) := by
  induction es with
  | nil => simp [Json.CanonicalEntries]
  | cons e es ih => simp [Json.CanonicalEntries, ih]

mutual

theorem Json.Canonical.readable : ∀ (j : Json) {hint : KeyHint}, j.Canonical py hint → j.Readable
  | .null, _, _ | .bool _, _, _ | .str _, _, _ => trivial
  | .int _, _, h => h
  | .arr items, _, h => Json.CanonicalItems.readable items h
  | .obj entries, _, h => ⟨h.1, Json.CanonicalEntries.readable entries h.2.2⟩

theorem Json.CanonicalItems.readable :
    ∀ js : List Json, Json.CanonicalItems py js → Json.ReadableItems js
  | [], _ => trivial
  | j :: js, h => ⟨Json.Canonical.readable j h.1, Json.CanonicalItems.readable js h.2⟩

theorem Json.CanonicalEntries.readable :
    ∀ es : List (String × Json), Json.CanonicalEntries py es → Json.ReadableEntries es
  | [], _ => trivial
  | (_, j) :: es, h => ⟨Json.Canonical.readable j h.1, Json.CanonicalEntries.readable es h.2⟩

end

/-- `normalize_timestamp` reads a text it wrote as itself. -/
def ReadsBack : Prop :=
  ∀ {s r : String}, py.parseTimestamp s = .utc r → py.parseTimestamp r = .utc r

/-- A time as a text gives it, in seconds since the year 1 began: what the clock shows, and
its offset from UTC. -/
structure TimeText where
  clock : ℚ
  offset : ℚ

/-- The exact instant, to every digit the text gives. -/
def TimeText.instant (t : TimeText) : ℚ := t.clock - t.offset

/-- The microseconds of a number of seconds, further digits dropped. -/
def microsecondsOf (seconds : ℚ) : Int := (seconds.num * 1000000).tdiv seconds.den

/-- The instant with clock and offset cut to microseconds. -/
def TimeText.kept (t : TimeText) : Int := microsecondsOf t.clock - microsecondsOf t.offset

/-- What `datetime` documents: `fromisoformat` drops what is below the microsecond, a `Z` is
the offset `+00:00`, `fromisoformat` is the inverse of `isoformat`, and `isoformat` ends a time
in UTC with its offset. -/
structure FromIsoformat (reading : String → TimeText) : Prop where
  cuts : ∀ {text t}, py.fromisoformat text = .aware t → t = (reading text).kept
  reads_z : ∀ {text t}, py.fromisoformat (isoText text) = .aware t →
    reading (isoText text) = reading text
  inverse : ∀ {text t}, py.fromisoformat text = .aware t →
    py.fromisoformat (py.isoformat (timespecOf t) t) = .aware t
  writes_utc : ∀ spec t, ∃ body : List Char,
    py.isoformat spec t = .ofList (body ++ "+00:00".toList) ∧
      ∀ c ∈ body, c ≠ '+' ∧ isWhitespace c = false

/-- The exact instants of texts. -/
def exactInstant (reading : String → TimeText) (s : String) : ℚ := (reading s).instant

/-- The instants of texts cut to microseconds, in microseconds. -/
def keptInstant (reading : String → TimeText) (s : String) : ℚ := (reading s).kept

variable {py} {reading : String → TimeText}

/-! ## Timestamps -/

theorem strip_solid {cs : List Char} (h : ∀ c ∈ cs, isWhitespace c = false) : strip cs = cs := by
  have hdrop : ∀ l : List Char, (∀ c ∈ l, isWhitespace c = false) →
      l.dropWhile isWhitespace = l := by
    rintro (_ | ⟨c, l⟩) hl
    · rfl
    · rw [List.dropWhile_cons_of_neg (by simp [hl c List.mem_cons_self])]
  rw [strip, hdrop cs h, hdrop cs.reverse (by simpa using h), List.reverse_reverse]

theorem replaceUtc_append {body : List Char} (h : ∀ c ∈ body, c ≠ '+') :
    replaceUtc (body ++ "+00:00".toList) = body ++ ['Z'] := by
  induction body with
  | nil => decide +kernel
  | cons c body ih =>
    obtain ⟨hc, hbody⟩ := List.forall_mem_cons.mp h
    rw [List.cons_append, replaceUtc, ih hbody, List.cons_append]
    exact fun _ hplus => absurd hplus hc

theorem parseTimestamp_utc {s r : String} : py.parseTimestamp s = .utc r ↔
    ∃ t, py.fromisoformat (isoText s) = .aware t ∧ py.rendered t = r := by
  unfold Stdlib.parseTimestamp
  split <;> simp_all

namespace FromIsoformat

/-- The text that is read back is the one `isoformat` wrote. -/
theorem isoText_rendered (clock : FromIsoformat py reading) (t : Int) :
    isoText (py.rendered t) = py.isoformat (timespecOf t) t := by
  obtain ⟨body, hbody, hsolid⟩ := clock.writes_utc (timespecOf t) t
  have hz : ∀ c ∈ body ++ ['Z'], isWhitespace c = false := by
    intro c hc
    rcases List.mem_append.mp hc with hc | hc
    · exact (hsolid c hc).2
    · rw [List.mem_singleton.mp hc]
      decide
  have hrendered : py.rendered t = .ofList (body ++ ['Z']) := by
    rw [Stdlib.rendered, hbody, String.toList_ofList, replaceUtc_append fun c hc => (hsolid c hc).1]
  rw [hrendered, isoText, String.toList_ofList, strip_solid hz, hbody]
  simp

theorem reads_back (clock : FromIsoformat py reading) : ReadsBack py := by
  intro s r h
  obtain ⟨t, ht, rfl⟩ := parseTimestamp_utc.mp h
  exact parseTimestamp_utc.mpr ⟨t, by rw [clock.isoText_rendered]; exact clock.inverse ht, rfl⟩

/-- What is read of a text is its instant, cut to microseconds. -/
theorem kept_of_read (clock : FromIsoformat py reading) {s : String} {t : Int}
    (h : py.fromisoformat (isoText s) = .aware t) :
    t = (reading s).kept := by
  rw [← clock.reads_z h]
  exact clock.cuts h

/-- A text and the one written for it have one instant, in microseconds. -/
theorem kept_rendered (clock : FromIsoformat py reading) {s r : String}
    (h : py.parseTimestamp s = .utc r) :
    keptInstant reading r = keptInstant reading s := by
  obtain ⟨t, ht, rfl⟩ := parseTimestamp_utc.mp h
  have hagain : py.fromisoformat (isoText (py.rendered t)) = .aware t := by
    rw [clock.isoText_rendered]
    exact clock.inverse ht
  rw [keptInstant, keptInstant, ← clock.kept_of_read ht, ← clock.kept_of_read hagain]

/-- An instant is written in one way. -/
theorem renders_once (clock : FromIsoformat py reading) {s s' r q : String}
    (hr : py.parseTimestamp s = .utc r) (hq : py.parseTimestamp s' = .utc q)
    (h : keptInstant reading r = keptInstant reading q) : r = q := by
  rw [clock.kept_rendered hr, clock.kept_rendered hq] at h
  obtain ⟨t, ht, rfl⟩ := parseTimestamp_utc.mp hr
  obtain ⟨t', ht', rfl⟩ := parseTimestamp_utc.mp hq
  have hkept : (reading s).kept = (reading s').kept := Rat.intCast_injective h
  rw [clock.kept_of_read ht, clock.kept_of_read ht', hkept]

end FromIsoformat

theorem normalizeTimestamp_ok {s r : String} :
    normalizeTimestamp py s = .ok r ↔ py.parseTimestamp s = .utc r := by
  unfold normalizeTimestamp
  split <;> simp_all

theorem normalizeRelativePosixPath_ok {s r : String} (h : normalizeRelativePosixPath s = .ok r) :
    r = s := by
  unfold normalizeRelativePosixPath at h
  split_ifs at h
  exact (Except.ok.inj h).symm

theorem normalizeObject_ok {entries : List (PyValue × PyValue)} {seen : List String}
    {kvs : List (String × Json)} (h : normalizeObject py seen entries = .ok kvs) :
    List.Forall₂ (fun e kv => e.1 = .str (.valid kv.1) ∧
        normalizeValue py (keyHint kv.1) e.2 = .ok kv.2) entries kvs ∧
      (kvs.map Prod.fst).Nodup ∧ ∀ k ∈ kvs.map Prod.fst, k ∉ seen := by
  induction entries generalizing seen kvs with
  | nil =>
    cases h
    simp
  | cons e rest ih =>
    obtain ⟨k, v⟩ := e
    rw [normalizeObject] at h
    split at h
    · cases h
    · rename_i t ht
      obtain rfl : k = .str t := by cases k <;> simp_all [PyValue.keyText]
      simp only [bind_eq_ok] at h
      obtain ⟨key, hkey, h⟩ := h
      split at h
      · cases h
      · rename_i hseen
        obtain ⟨j, hj, js, hjs, h⟩ := by simpa only [bind_eq_ok] using h
        cases h
        cases t with
        | surrogates => cases hkey
        | valid s =>
          cases hkey
          obtain ⟨hall, hnodup, hfresh⟩ := ih hjs
          refine ⟨.cons ⟨rfl, hj⟩ hall, List.nodup_cons.mpr ⟨fun hm => ?_, hnodup⟩, ?_⟩
          · exact hfresh _ hm List.mem_cons_self
          · intro k hk hm
            rcases List.mem_cons.mp hk with rfl | hk
            · exact hseen hm
            · exact hfresh k hk (List.mem_cons_of_mem _ hm)

theorem normalizeValues_ok {items : List PyValue} {js : List Json}
    (h : normalizeValues py items = .ok js) :
    List.Forall₂ (fun v j => normalizeValue py .plain v = .ok j) items js := by
  induction items generalizing js with
  | nil =>
    cases h
    exact .nil
  | cons v vs ih =>
    simp only [normalizeValues, bind_eq_ok] at h
    obtain ⟨j, hj, js, hjs, h⟩ := h
    cases h
    exact .cons hj (ih hjs)

mutual

theorem normalizeValue_canonical :
    ∀ (v : PyValue) {hint : KeyHint} {j : Json}, normalizeValue py hint v = .ok j → j.Canonical py hint
  | .none, _, _, h | .bool _, _, _, h => by cases h; trivial
  | .int i, _, _, h => by
    rw [normalizeValue] at h
    split_ifs at h with hi
    cases h
    exact not_lt.mp hi
  | .float Option.none, _, _, h | .float (some _), _, _, h => by cases h
  | .str t, _, _, h => by
    obtain ⟨s, hs, rfl⟩ := map_eq_ok.mp h
    exact ⟨t, hs⟩
  | .list items, _, _, h => by
    obtain ⟨js, hjs, rfl⟩ := map_eq_ok.mp h
    exact normalizeValues_canonical items (normalizeValues_ok hjs)
  | .tuple items, _, _, h => by
    obtain ⟨js, hjs, rfl⟩ := map_eq_ok.mp h
    exact normalizeValues_canonical items (normalizeValues_ok hjs)
  | .dict entries, _, _, h => by
    obtain ⟨kvs, hkvs, rfl⟩ := map_eq_ok.mp h
    obtain ⟨hall, hnodup, -⟩ := normalizeObject_ok hkvs
    have hperm := sortEntries_perm kvs
    refine ⟨(hperm.map _).nodup_iff.mpr hnodup, sortEntries_sorted kvs, ?_⟩
    rw [canonicalEntries_iff]
    exact fun e he => normalizeEntries_canonical entries hall e (hperm.mem_iff.mp he)
  | .set _, _, _, h | .bytes _, _, _, h | .enum _, _, _, h | .path _, _, _, h
  | .dataclass _ _, _, _, h | .other _, _, _, h => by cases h

theorem normalizeValues_canonical :
    ∀ (items : List PyValue) {js : List Json},
    List.Forall₂ (fun v j => normalizeValue py .plain v = .ok j) items js →
    Json.CanonicalItems py js
  | [], _, .nil => trivial
  | v :: vs, _, .cons h hs => ⟨normalizeValue_canonical v h, normalizeValues_canonical vs hs⟩

theorem normalizeEntries_canonical :
    ∀ (entries : List (PyValue × PyValue)) {kvs : List (String × Json)},
    List.Forall₂ (fun e kv => e.1 = .str (.valid kv.1) ∧
      normalizeValue py (keyHint kv.1) e.2 = .ok kv.2) entries kvs →
    ∀ e ∈ kvs, e.2.Canonical py (keyHint e.1)
  | [], _, .nil => by simp
  | (k, v) :: rest, _, .cons h hs => by
    have hv := normalizeValue_canonical v h.2
    have ih := normalizeEntries_canonical rest hs
    intro e he
    rcases List.mem_cons.mp he with rfl | he
    · exact hv
    · exact ih e he

end

/-! ## Encoding again -/

theorem normalizeString_canonical (hback : ReadsBack py) {hint : KeyHint} {t : Text}
    {r : String} (h : normalizeString py hint t = .ok r) : normalizeString py hint (.valid r) = .ok r := by
  cases t with
  | surrogates cs => cases h
  | valid s =>
    cases hint with
    | plain => rfl
    | path =>
      obtain rfl := normalizeRelativePosixPath_ok h
      exact h
    | timestamp => exact normalizeTimestamp_ok.mpr (hback (normalizeTimestamp_ok.mp h))

mutual

theorem normalizeValue_toPy (hback : ReadsBack py) : ∀ (j : Json) {hint : KeyHint}, j.Canonical py hint →
    normalizeValue py hint j.toPy = .ok j
  | .null, _, _ | .bool _, _, _ => rfl
  | .int i, _, h => by rw [Json.toPy, normalizeValue, if_neg (not_lt.mpr h)]
  | .str s, _, ⟨t, h⟩ => by
    rw [Json.toPy, normalizeValue, normalizeString_canonical hback h, Except.map]
  | .arr items, _, h => by
    rw [Json.toPy, normalizeValue, normalizeValues_toPy hback items h, Except.map]
  | .obj entries, _, h => by
    have hentries := normalizeObject_toPy hback entries [] h.1 (by simp) h.2.2
    rw [Json.toPy, normalizeValue, hentries, Except.map, sortEntries_of_sorted h.2.1]

theorem normalizeValues_toPy (hback : ReadsBack py) : ∀ js : List Json, Json.CanonicalItems py js →
    normalizeValues py (Json.toPyItems js) = .ok js
  | [], _ => rfl
  | j :: js, h => by
    simp [Json.toPyItems, normalizeValues, normalizeValue_toPy hback j h.1, normalizeValues_toPy hback js h.2,
      bind, Except.bind, pure, Except.pure]

theorem normalizeObject_toPy (hback : ReadsBack py) : ∀ (es : List (String × Json)) (seen : List String),
    (es.map Prod.fst).Nodup → (∀ k ∈ es.map Prod.fst, k ∉ seen) → Json.CanonicalEntries py es →
    normalizeObject py seen (Json.toPyEntries es) = .ok es
  | [], _, _, _, _ => rfl
  | (k, j) :: es, seen, hn, hs, h => by
    obtain ⟨hk, hn⟩ := List.nodup_cons.mp hn
    have hrest : ∀ l ∈ es.map Prod.fst, l ∉ k :: seen := by
      intro l hl hm
      rcases List.mem_cons.mp hm with rfl | hm
      · exact hk hl
      · exact hs l (List.mem_cons_of_mem _ hl) hm
    have hks : k ∉ seen := hs k (by simp)
    simp [Json.toPyEntries, normalizeObject, PyValue.keyText, validateString, hks,
      normalizeValue_toPy hback j h.1, normalizeObject_toPy hback es (k :: seen) hn hrest h.2,
      bind, Except.bind, pure, Except.pure]

end

/-! ## A canonical document says what its value says -/

theorem denoteEntries_eq_some {read : String → ℚ} {es : List (String × Json)}
    (hn : (es.map Prod.fst).Nodup) {key : String} {d : Datum ℚ} :
    Json.denoteEntries read es key = some d ↔
      ∃ j, (key, j) ∈ es ∧ j.denote read (keyHint key) = d := by
  induction es with
  | nil => simp [Json.denoteEntries]
  | cons e es ih =>
    obtain ⟨k, j⟩ := e
    obtain ⟨hk, hn⟩ := List.nodup_cons.mp hn
    rw [Json.denoteEntries]
    split_ifs with hkey
    · subst hkey
      constructor
      · intro h
        exact ⟨j, by simp, Option.some.inj h⟩
      · rintro ⟨j', hj', rfl⟩
        rcases List.mem_cons.mp hj' with h | h
        · rw [(Prod.mk.inj h).2]
        · exact absurd (List.mem_map_of_mem h) hk
    · rw [ih hn]
      simp [Ne.symm hkey]

theorem denoteEntries_perm {r : String → ℚ} {es fs : List (String × Json)} (h : es.Perm fs)
    (hn : (es.map Prod.fst).Nodup) : Json.denoteEntries r es = Json.denoteEntries r fs := by
  have hf : (fs.map Prod.fst).Nodup := (h.map _).nodup_iff.mp hn
  funext key
  refine Option.ext fun d => ?_
  simp only [denoteEntries_eq_some hn, denoteEntries_eq_some hf, h.mem_iff]

theorem denoteText_normalized (clock : FromIsoformat py reading) {hint : KeyHint} {t : Text} {s : String}
    (h : normalizeString py hint t = .ok s) :
    PyValue.denote (keptInstant reading) hint (.str t) = denoteText (keptInstant reading) hint s := by
  cases t with
  | surrogates cs => cases h
  | valid u =>
    cases hint with
    | plain => cases h; rfl
    | path =>
      obtain rfl := normalizeRelativePosixPath_ok h
      rfl
    | timestamp =>
      have hu := clock.kept_rendered (normalizeTimestamp_ok.mp h)
      simp [PyValue.denote, denoteText, hu]

mutual

theorem denote_normalizeValue (clock : FromIsoformat py reading) :
    ∀ (v : PyValue) {hint : KeyHint} {j : Json},
    normalizeValue py hint v = .ok j →
    v.denote (keptInstant reading) hint = j.denote (keptInstant reading) hint
  | .none, _, _, h | .bool _, _, _, h => by cases h; rfl
  | .int i, _, _, h => by
    rw [normalizeValue] at h
    split_ifs at h
    cases h
    rfl
  | .float Option.none, _, _, h | .float (some _), _, _, h => by cases h
  | .str t, _, _, h => by
    obtain ⟨s, hs, rfl⟩ := map_eq_ok.mp h
    exact denoteText_normalized clock hs
  | .list items, _, _, h => by
    obtain ⟨js, hjs, rfl⟩ := map_eq_ok.mp h
    simp only [PyValue.denote, Json.denote, denote_normalizeValues clock items (normalizeValues_ok hjs)]
  | .tuple items, _, _, h => by
    obtain ⟨js, hjs, rfl⟩ := map_eq_ok.mp h
    simp only [PyValue.denote, Json.denote, denote_normalizeValues clock items (normalizeValues_ok hjs)]
  | .dict entries, _, _, h => by
    obtain ⟨kvs, hkvs, rfl⟩ := map_eq_ok.mp h
    obtain ⟨hall, hnodup, -⟩ := normalizeObject_ok hkvs
    have hsort := denoteEntries_perm (r := keptInstant reading) (sortEntries_perm kvs).symm hnodup
    simp only [PyValue.denote, Json.denote, denote_normalizeEntries clock entries hall, hsort]
  | .set _, _, _, h | .bytes _, _, _, h | .enum _, _, _, h | .path _, _, _, h
  | .dataclass _ _, _, _, h | .other _, _, _, h => by cases h

theorem denote_normalizeValues (clock : FromIsoformat py reading) :
    ∀ (items : List PyValue) {js : List Json},
    List.Forall₂ (fun v j => normalizeValue py .plain v = .ok j) items js →
    PyValue.denoteItems (keptInstant reading) items = Json.denoteItems (keptInstant reading) js
  | [], _, .nil => rfl
  | v :: vs, _, .cons h hs => by
    rw [PyValue.denoteItems, Json.denoteItems, denote_normalizeValue clock v h,
      denote_normalizeValues clock vs hs]

theorem denote_normalizeEntries (clock : FromIsoformat py reading) :
    ∀ (entries : List (PyValue × PyValue))
    {kvs : List (String × Json)},
    List.Forall₂ (fun e kv => e.1 = .str (.valid kv.1) ∧
      normalizeValue py (keyHint kv.1) e.2 = .ok kv.2) entries kvs →
    PyValue.denoteEntries (keptInstant reading) entries = Json.denoteEntries (keptInstant reading) kvs
  | [], _, .nil => rfl
  | (k, v) :: rest, (key, j) :: kvs, .cons h hs => by
    obtain ⟨hk, hj⟩ := h
    have hv := denote_normalizeValue clock v hj
    have ih := denote_normalizeEntries clock rest hs
    funext l
    rw [PyValue.denoteEntries, Json.denoteEntries, ih, show k = _ from hk]
    by_cases hl : key = l
    · subst hl
      simp [PyValue.keyText, hv]
    · simp [PyValue.keyText, hl]

end

/-! ## Canonical documents that say the same are the same -/

theorem denoteText_injective (clock : FromIsoformat py reading) {hint : KeyHint} {s t : String}
    (hs : ∃ u, normalizeString py hint u = .ok s) (ht : ∃ u, normalizeString py hint u = .ok t)
    (h : denoteText (keptInstant reading) hint s = denoteText (keptInstant reading) hint t) : s = t := by
  unfold denoteText at h
  split_ifs at h with hhint
  · subst hhint
    obtain ⟨_ | cs, hu⟩ := hs
    · obtain ⟨_ | cs, hv⟩ := ht
      · exact clock.renders_once (normalizeTimestamp_ok.mp hu) (normalizeTimestamp_ok.mp hv)
          (Datum.instant.inj h)
      · cases hv
    · cases hu
  · exact Datum.text.inj h

theorem sorted_entries_ext {es fs : List (String × Json)} (hen : (es.map Prod.fst).Nodup)
    (hfn : (fs.map Prod.fst).Nodup) (hes : es.Pairwise KeyLE) (hfs : fs.Pairwise KeyLE)
    (h : ∀ e, e ∈ es ↔ e ∈ fs) : es = fs := by
  have hperm : es.Perm fs :=
    (List.perm_ext_iff_of_nodup (List.Nodup.of_map _ hen) (List.Nodup.of_map _ hfn)).mpr h
  refine hperm.eq_of_pairwise (fun a b ha hb hab hba => ?_) hes hfs
  have hkey : a.1 = b.1 := utf16_injective (le_antisymm hab hba)
  exact List.inj_on_of_nodup_map hen ha ((h b).mpr hb) hkey

mutual

theorem denote_injective (clock : FromIsoformat py reading) :
    ∀ (j k : Json) {hint : KeyHint}, j.Canonical py hint → k.Canonical py hint →
      j.denote (keptInstant reading) hint = k.denote (keptInstant reading) hint → j = k
  | .null, k, hint, _, _, h => by
    cases k <;> grind [Json.denote, denoteText]
  | .bool a, k, hint, _, _, h => by
    cases k <;> grind [Json.denote, denoteText]
  | .int a, k, hint, _, _, h => by
    cases k <;> grind [Json.denote, denoteText]
  | .str s, k, hint, hj, hk, h => by
    cases k with
    | str t => rw [denoteText_injective clock hj hk h]
    | _ => grind [Json.denote, denoteText]
  | .arr items, k, hint, hj, hk, h => by
    cases k with
    | arr js => rw [denoteItems_injective clock items js hj hk (Datum.arr.inj h)]
    | _ => grind [Json.denote, denoteText]
  | .obj es, k, hint, hj, hk, h => by
    cases k with
    | obj fs =>
      obtain ⟨hen, hes, hce⟩ := hj
      obtain ⟨hfn, hfs, hcf⟩ := hk
      rw [canonicalEntries_iff] at hce hcf
      have hmap := Datum.obj.inj h
      have hinj := denoteEntries_injective clock es
      refine congrArg _ (sorted_entries_ext hen hfn hes hfs fun ⟨key, j⟩ => ⟨fun hm => ?_, fun hm => ?_⟩)
      · have hd : Json.denoteEntries (keptInstant reading) es key =
            some (j.denote (keptInstant reading) (keyHint key)) :=
          (denoteEntries_eq_some hen).mpr ⟨j, hm, rfl⟩
        rw [hmap] at hd
        obtain ⟨k, hk, hjk⟩ := (denoteEntries_eq_some hfn).mp hd
        have heq : j = k := hinj _ hm k (hce _ hm) (hcf _ hk) hjk.symm
        exact heq ▸ hk
      · have hd : Json.denoteEntries (keptInstant reading) fs key =
            some (j.denote (keptInstant reading) (keyHint key)) :=
          (denoteEntries_eq_some hfn).mpr ⟨j, hm, rfl⟩
        rw [← hmap] at hd
        obtain ⟨k, hk, hjk⟩ := (denoteEntries_eq_some hen).mp hd
        have heq : k = j := hinj _ hk j (hce _ hk) (hcf _ hm) hjk
        exact heq ▸ hk
    | _ => grind [Json.denote, denoteText]

theorem denoteItems_injective (clock : FromIsoformat py reading) :
    ∀ js ks : List Json, Json.CanonicalItems py js → Json.CanonicalItems py ks →
      Json.denoteItems (keptInstant reading) js = Json.denoteItems (keptInstant reading) ks → js = ks
  | [], [], _, _, _ => rfl
  | [], _ :: _, _, _, h | _ :: _, [], _, _, h => by simp [Json.denoteItems] at h
  | j :: js, k :: ks, hj, hk, h => by
    obtain ⟨hd, htail⟩ := List.cons.inj h
    rw [denote_injective clock j k hj.1 hk.1 hd, denoteItems_injective clock js ks hj.2 hk.2 htail]

theorem denoteEntries_injective (clock : FromIsoformat py reading) :
    ∀ es : List (String × Json), ∀ e ∈ es, ∀ k : Json, e.2.Canonical py (keyHint e.1) →
      k.Canonical py (keyHint e.1) →
      e.2.denote (keptInstant reading) (keyHint e.1) = k.denote (keptInstant reading) (keyHint e.1) → e.2 = k
  | [] => by simp
  | (key, j) :: es => by
    have hj := denote_injective clock j
    have ih := denoteEntries_injective clock es
    intro e he
    rcases List.mem_cons.mp he with rfl | he
    · intro k hc hk h
      exact hj k hc hk h
    · exact ih e he

end

/-! ## Bytes -/

/-- Two values say the same: they differ at most in the order of the keys of their objects,
in lists and tuples, and in how they spell the instants `read` reads. -/
def SameAs (read : String → ℚ) (x y : PyValue) : Prop := x.denote read .plain = y.denote read .plain

theorem canonicalJson_ok {x : PyValue} {j : Json} (h : normalizeValue py .plain x = .ok j) :
    canonicalJson py x = .ok (String.ofList j.dumps) := by
  rw [canonicalJson, h, Except.map]

theorem canonicalJsonBytes_ok {x : PyValue} {j : Json} (h : normalizeValue py .plain x = .ok j) :
    canonicalJsonBytes py x = .ok (String.ofList j.dumps).toByteArray := by
  rw [canonicalJsonBytes, canonicalJson_ok h, Except.map]

/-- Accepted values have the same bytes when they say the same at the precision
`datetime.fromisoformat` keeps. -/
theorem canonicalJsonBytes_eq_iff (clock : FromIsoformat py reading) {x y : PyValue} {j k : Json}
    (hx : normalizeValue py .plain x = .ok j) (hy : normalizeValue py .plain y = .ok k) :
    canonicalJsonBytes py x = canonicalJsonBytes py y ↔ SameAs (keptInstant reading) x y := by
  have hj := normalizeValue_canonical x hx
  have hk := normalizeValue_canonical y hy
  rw [SameAs, denote_normalizeValue clock x hx, denote_normalizeValue clock y hy, canonicalJsonBytes_ok hx,
    canonicalJsonBytes_ok hy, Except.ok.injEq, String.toByteArray_inj, String.ofList_inj]
  constructor
  · intro h
    rw [dumps_injective (hj.readable py j) (hk.readable py k) h]
  · intro h
    rw [denote_injective clock j k hj hk h]

/-- The canonical text of a value reads back as its normal form, whose bytes are the same. -/
theorem canonicalJson_roundTrip (clock : FromIsoformat py reading) (pyFloat : String → Option ℚ)
    {x : PyValue} {j : Json} (hx : normalizeValue py .plain x = .ok j) :
    strictJsonLoads pyFloat (String.ofList j.dumps) = .ok j.toPy ∧
      canonicalJsonBytes py j.toPy = canonicalJsonBytes py x := by
  have hj := normalizeValue_canonical x hx
  refine ⟨strictJsonLoads_dumps pyFloat (hj.readable py j), ?_⟩
  rw [canonicalJsonBytes_ok hx, canonicalJsonBytes_ok (normalizeValue_toPy clock.reads_back j hj)]

variable (py)

/-- Canonical JSON is a faithful encoding of `x`, and tells it from `y` exactly when the
two say something different. -/
def FaithfullyEncoded (instant : String → ℚ) (pyFloat : String → Option ℚ) (x y : PyValue) : Prop :=
  (∀ j text, normalizeValue py .plain x = .ok j → canonicalJson py x = .ok text →
    strictJsonLoads pyFloat text = .ok j.toPy ∧
      canonicalJsonBytes py j.toPy = canonicalJsonBytes py x) ∧
  (canonicalJsonBytes py x = canonicalJsonBytes py y ↔ SameAs instant x y)

variable {py}

/-- Accepted values are encoded faithfully exactly when cutting their instants to microseconds
makes no difference between them. -/
theorem faithfullyEncoded_iff (clock : FromIsoformat py reading) (pyFloat : String → Option ℚ)
    {x y : PyValue} (hx : ∃ j, normalizeValue py .plain x = .ok j)
    (hy : ∃ k, normalizeValue py .plain y = .ok k) :
    FaithfullyEncoded py (exactInstant reading) pyFloat x y ↔
      (SameAs (keptInstant reading) x y ↔ SameAs (exactInstant reading) x y) := by
  obtain ⟨j, hx⟩ := hx
  obtain ⟨k, hy⟩ := hy
  rw [FaithfullyEncoded, canonicalJsonBytes_eq_iff clock hx hy]
  refine and_iff_right fun j' text hj' htext => ?_
  rw [hx] at hj'
  rw [canonicalJson_ok hx] at htext
  cases hj'
  cases htext
  exact canonicalJson_roundTrip clock pyFloat hx

/-! ### A clock of four texts -/

def newYear : String := "2026-01-01T00:00:00Z"

def newYearBerlin : String := "2026-01-01T01:00:00+01:00"

def tenthMicrosecond : String := "2026-01-01T00:00:00.0000001Z"

def fifthMicrosecond : String := "2026-01-01T00:00:00.0000002Z"

/-- The four texts as `normalize_timestamp` reads them, in seconds since the year 1 began. -/
def newYearTexts : List (String × TimeText) :=
  [("2026-01-01T00:00:00+00:00", ⟨63902822400, 0⟩), (newYearBerlin, ⟨63902826000, 3600⟩),
    ("2026-01-01T00:00:00.0000001+00:00", ⟨63902822400 + 1 / 10000000, 0⟩),
    ("2026-01-01T00:00:00.0000002+00:00", ⟨63902822400 + 2 / 10000000, 0⟩)]

/-- `datetime` on four texts within a microsecond of one new year. -/
def newYearClock : Stdlib where
  repr _ := ""
  fromisoformat s := if s ∈ newYearTexts.map Prod.fst then .aware 63902822400000000 else .invalid
  isoformat _ _ := "2026-01-01T00:00:00+00:00"
  bytesDigest _ := ""

def newYearReading (s : String) : TimeText := (newYearTexts.lookup (isoText s)).getD ⟨0, 0⟩

theorem newYearClock_aware {s : String} {t : Int} (h : newYearClock.fromisoformat s = .aware t) :
    s ∈ newYearTexts.map Prod.fst ∧ t = 63902822400000000 := by
  simp only [newYearClock] at h
  split_ifs at h with hs
  exact ⟨hs, (IsoTime.aware.inj h).symm⟩

/-- What the clock computes on its texts. -/
theorem newYearClock_facts :
    (∀ s ∈ newYearTexts.map Prod.fst, isoText s = s ∧ (newYearReading s).kept = 63902822400000000) ∧
      (∀ time ∈ [newYear, newYearBerlin, tenthMicrosecond, fifthMicrosecond],
        isoText time ∈ newYearTexts.map Prod.fst) ∧
      newYearClock.rendered 63902822400000000 = newYear ∧
      "2026-01-01T00:00:00+00:00" ∈ newYearTexts.map Prod.fst ∧
      "2026-01-01T00:00:00+00:00" =
        String.ofList ("2026-01-01T00:00:00".toList ++ "+00:00".toList) ∧
      ("2026-01-01T00:00:00".toList.all fun c => c ≠ '+' && !isWhitespace c) = true ∧
      keyHint "observed_at" = .timestamp ∧
      keptInstant newYearReading newYear = keptInstant newYearReading newYearBerlin ∧
      exactInstant newYearReading newYear = exactInstant newYearReading newYearBerlin ∧
      exactInstant newYearReading tenthMicrosecond ≠ exactInstant newYearReading fifthMicrosecond := by
  decide +kernel

theorem newYearClock_fromIsoformat : FromIsoformat newYearClock newYearReading where
  cuts h := by
    obtain ⟨hs, rfl⟩ := newYearClock_aware h
    exact (newYearClock_facts.1 _ hs).2.symm
  reads_z h := by
    rw [newYearReading, (newYearClock_facts.1 _ (newYearClock_aware h).1).1, newYearReading]
  inverse h := by
    obtain ⟨-, rfl⟩ := newYearClock_aware h
    simp only [newYearClock, if_pos newYearClock_facts.2.2.2.1]
  writes_utc _ _ := by
    obtain ⟨-, -, -, -, hsplit, hplain, -⟩ := newYearClock_facts
    exact ⟨_, hsplit, fun c hc => by simpa using List.all_eq_true.mp hplain c hc⟩

theorem newYearClock_parses (time : String)
    (h : time ∈ [newYear, newYearBerlin, tenthMicrosecond, fifthMicrosecond]) :
    newYearClock.parseTimestamp time = .utc newYear :=
  parseTimestamp_utc.mpr
    ⟨_, if_pos (newYearClock_facts.2.1 time h), newYearClock_facts.2.2.1⟩

def observedAt (time : String) : PyValue := .dict [(.str (.valid "observed_at"), .str (.valid time))]

theorem observedAt_normalizes (time : String) (h : newYearClock.parseTimestamp time = .utc newYear) :
    normalizeValue newYearClock .plain (observedAt time) =
      .ok (.obj [("observed_at", .str newYear)]) := by
  have hhint : keyHint "observed_at" = .timestamp := newYearClock_facts.2.2.2.2.2.2.1
  have htime : normalizeString newYearClock .timestamp (.valid time) = .ok newYear :=
    normalizeTimestamp_ok.mpr h
  simp [observedAt, normalizeValue, normalizeObject, PyValue.keyText, validateString, hhint, htime,
    bind, Except.bind, pure, Except.pure, Except.map, sortEntries]

theorem denote_observedAt (read : String → ℚ) (time : String) :
    (observedAt time).denote read .plain =
      .obj fun key => if key = "observed_at" then some (.instant (read time)) else none := by
  have hhint : keyHint "observed_at" = .timestamp := newYearClock_facts.2.2.2.2.2.2.1
  simp only [observedAt, PyValue.denote, Datum.obj.injEq]
  funext key
  by_cases h : key = "observed_at"
  · subst h
    simp [PyValue.denoteEntries, PyValue.keyText, hhint, PyValue.denote, denoteText]
  · simp [PyValue.denoteEntries, PyValue.keyText, h, Ne.symm h]

/-- Two spellings of one instant, in the same record. -/
theorem faithfullyEncoded_newYear :
    FaithfullyEncoded newYearClock (exactInstant newYearReading) (fun _ => none)
      (observedAt newYear) (observedAt newYearBerlin) := by
  have hx := observedAt_normalizes newYear (newYearClock_parses _ (by simp))
  have hy := observedAt_normalizes newYearBerlin (newYearClock_parses _ (by simp))
  obtain ⟨-, -, -, -, -, -, -, hkept, hexact, -⟩ := newYearClock_facts
  refine (faithfullyEncoded_iff newYearClock_fromIsoformat _ ⟨_, hx⟩ ⟨_, hy⟩).mpr ?_
  simp only [SameAs, denote_observedAt, hkept, hexact]

/-- A tenth and a fifth of a microsecond past the new year share their canonical bytes. -/
theorem microseconds_collide :
    (∃ j, normalizeValue newYearClock .plain (observedAt tenthMicrosecond) = .ok j) ∧
    (∃ j, normalizeValue newYearClock .plain (observedAt fifthMicrosecond) = .ok j) ∧
    ¬ FaithfullyEncoded newYearClock (exactInstant newYearReading) (fun _ => none)
      (observedAt tenthMicrosecond) (observedAt fifthMicrosecond) := by
  have htenth := observedAt_normalizes tenthMicrosecond (newYearClock_parses _ (by simp))
  have hfifth := observedAt_normalizes fifthMicrosecond (newYearClock_parses _ (by simp))
  refine ⟨⟨_, htenth⟩, ⟨_, hfifth⟩, fun h => ?_⟩
  have hbytes : canonicalJsonBytes newYearClock (observedAt tenthMicrosecond) =
      canonicalJsonBytes newYearClock (observedAt fifthMicrosecond) := by
    rw [canonicalJsonBytes_ok htenth, canonicalJsonBytes_ok hfifth]
  have hsame := h.2.mp hbytes
  simp only [SameAs, denote_observedAt, Datum.obj.injEq] at hsame
  have hinstant := congrFun hsame "observed_at"
  simp only [if_true, Option.some.injEq, Datum.instant.injEq] at hinstant
  exact newYearClock_facts.2.2.2.2.2.2.2.2.2 hinstant

end VeraMono

import VeraMono.Model.CanonicalJson

/-!
# A document reads back from its text

What `json.dumps` writes, the scanner of `json.loads` reads back: first a string
literal, one character at a time (`scanUnits_escapeChar`), then an integer and the
delimiter that ends it, then a document by induction on its tree (`scanOnce_dumps`),
with as much fuel as `decodeJson` gives. The converse is not claimed: many texts read as
the same value, and `canonical_json` writes one of them.
-/

namespace VeraMono

/-! ## Strings -/

theorem scanUnits_plain (start : Nat) {c : Char} (rest : List Char) (hq : c ≠ '"') (hb : c ≠ '\\')
    (hc : 0x20 ≤ c.toNat) :
    scanUnits start (c :: rest) = (scanUnits start rest).map fun r => (c.toNat :: r.1, r.2) := by
  rw [scanUnits]
  · simp [hc]
  all_goals simp_all

theorem hexValue_hexDigit : ∀ n < 16, hexValue (hexDigit n) = some n := by decide

theorem scanUnits_escapeChar (start : Nat) (c : Char) {tail : List Char} (h : tail ≠ []) :
    scanUnits start (escapeChar c ++ tail) =
      (scanUnits start tail).map fun r => (c.toNat :: r.1, r.2) := by
  unfold escapeChar
  split_ifs with h1 h2 h3 h4 h5 h6 h7 h8
  · subst h1; simp [scanUnits, unescape]
  · subst h2; simp [scanUnits, unescape]
  · subst h3; simp [scanUnits, unescape]
  · subst h4; simp [scanUnits, unescape]
  · subst h5; simp [scanUnits, unescape]
  · simp [scanUnits, unescape, h6]
  · simp [scanUnits, unescape, h7]
  · have hd := hexValue_hexDigit (c.toNat / 16) (by omega)
    have he := hexValue_hexDigit (c.toNat % 16) (by omega)
    have hu : hexUnit '0' '0' (hexDigit (c.toNat / 16)) (hexDigit (c.toNat % 16)) = some c.toNat := by
      simp [hexUnit, hd, he, show hexValue '0' = some 0 by decide, Nat.div_add_mod']
    have ht : tail.isEmpty = false := by simpa using h
    simp [scanUnits, ht, hu]
  · exact scanUnits_plain start tail h1 h2 (by omega)

theorem scanUnits_escape (start : Nat) (rest : List Char) : ∀ s : List Char,
    scanUnits start (s.flatMap escapeChar ++ '"' :: rest) = .ok (s.map Char.toNat, rest)
  | [] => by simp [scanUnits]
  | c :: s => by
    rw [List.flatMap_cons, List.append_assoc, scanUnits_escapeChar start c (by simp),
      scanUnits_escape start rest s]
    rfl

theorem not_isHighSurrogate (c : Char) : isHighSurrogate c.toNat = false := by
  have := c.valid
  simp only [UInt32.isValidChar, Nat.isValidChar] at this
  have hn : c.toNat = c.val.toNat := rfl
  simp only [isHighSurrogate, Bool.and_eq_false_iff, decide_eq_false_iff_not]
  omega

theorem joinSurrogates_toNat : ∀ s : List Char,
    joinSurrogates (s.map Char.toNat) = s.map Char.toNat
  | [] => rfl
  | [_] => rfl
  | c :: d :: s => by
    simpa [joinSurrogates, not_isHighSurrogate] using joinSurrogates_toNat (d :: s)

theorem ofCodePoints_toNat (s : List Char) :
    Text.ofCodePoints (s.map Char.toNat) = .valid (String.ofList s) := by
  have hv : (s.map Char.toNat).all (fun n => Nat.isValidChar n) = true := by
    simp only [List.all_eq_true, List.mem_map, decide_eq_true_eq]
    rintro n ⟨c, _, rfl⟩
    exact c.valid
  have hm : (s.map Char.toNat).map Char.ofNat = s := by
    simp [List.map_map, Function.comp_def]
  rw [Text.ofCodePoints, if_pos hv, hm]

theorem scanString_dumps (s : String) (rest : List Char) :
    scanString (s.toList.flatMap escapeChar ++ '"' :: rest) = .ok (.valid s, rest) := by
  rw [scanString, scanUnits_escape]
  simp [Except.map, joinSurrogates_toNat, ofCodePoints_toNat]

/-! ## Numbers -/

/-- What may follow a value in a text. -/
def Delimited (rest : List Char) : Prop := ∀ c ∈ rest.head?, c = ',' ∨ c = ']' ∨ c = '}'

theorem span_digits {digits rest : List Char} (hd : ∀ c ∈ digits, c.isDigit)
    (hr : Delimited rest) :
    (digits ++ rest).takeWhile Char.isDigit = digits ∧
      (digits ++ rest).dropWhile Char.isDigit = rest := by
  have ht : rest.takeWhile Char.isDigit = [] ∧ rest.dropWhile Char.isDigit = rest := by
    rcases rest with _ | ⟨c, rest⟩
    · simp
    · rcases hr c (by simp) with rfl | rfl | rfl <;> simp
  refine ⟨?_, ?_⟩
  · rw [List.takeWhile_append_of_pos hd, ht.1, List.append_nil]
  · rw [List.dropWhile_append_of_pos hd, ht.2]

theorem toDigits_head {n : Nat} (hn : 0 < n) : ∃ c cs, Nat.toDigits 10 n = c :: cs ∧ c ≠ '0' := by
  induction n using Nat.strongRecOn with
  | _ n ih =>
    rw [Nat.toDigits_eq_if (by decide)]
    split
    case isTrue h =>
      have hd : ∀ m < 10, 0 < m → m.digitChar ≠ '0' := by decide
      exact ⟨n.digitChar, [], rfl, hd n h hn⟩
    case isFalse h =>
      obtain ⟨c, cs, hc, h0⟩ := ih (n / 10) (by omega) (by omega)
      exact ⟨c, cs ++ [(n % 10).digitChar], by simp [hc], h0⟩

variable {rest : List Char}

theorem integerPart_toDigits (n : Nat) (hr : Delimited rest) :
    integerPart (Nat.toDigits 10 n ++ rest) = some (Nat.toDigits 10 n, rest) := by
  rcases Nat.eq_zero_or_pos n with rfl | hn
  · simp [Nat.toDigits_zero, integerPart]
  · obtain ⟨c, cs, hc, h0⟩ := toDigits_head hn
    have hd : ∀ d ∈ c :: cs, d.isDigit := fun d hm =>
      Nat.isDigit_of_mem_toDigits (by decide) (by decide) (hc ▸ hm)
    obtain ⟨ht, hw⟩ := span_digits (fun d hm => hd d (List.mem_cons_of_mem _ hm)) hr
    simp [hc, integerPart, h0, hd c, ht, hw]

theorem fractionPart_delimited (hr : Delimited rest) : fractionPart rest = ([], rest) := by
  rcases rest with _ | ⟨c, rest⟩
  · rfl
  · rcases hr c (by simp) with rfl | rfl | rfl <;> rfl

theorem exponentPart_delimited (hr : Delimited rest) : exponentPart rest = ([], rest) := by
  rcases rest with _ | ⟨c, rest⟩
  · rfl
  · rcases hr c (by simp) with rfl | rfl | rfl <;> simp [exponentPart]

theorem length_toDigits_le {n : Nat} (hn : n ≤ maxSafeInteger) :
    (Nat.toDigits 10 n).length ≤ maxIntDigits := by
  have h16 : (Nat.toDigits 10 n).length ≤ 16 :=
    (Nat.length_toDigits_le_iff (by decide) (by decide)).mpr (by simp [maxSafeInteger] at hn; omega)
  simp only [maxIntDigits]
  omega

theorem toDigits_isDigit (n : Nat) : ∃ c cs, Nat.toDigits 10 n = c :: cs ∧ c.isDigit = true := by
  rcases h : Nat.toDigits 10 n with _ | ⟨c, cs⟩
  · exact absurd h Nat.toDigits_ne_nil
  · have hm : c ∈ Nat.toDigits 10 n := by simp [h]
    exact ⟨c, cs, rfl, Nat.isDigit_of_mem_toDigits (by decide) (by decide) hm⟩

theorem scanNumber_dumpsInt (hooks : JsonHooks) {i : Int}
    (hi : i.natAbs ≤ maxSafeInteger) (hr : Delimited rest) :
    scanNumber hooks (dumpsInt i ++ rest) = .ok (.int i, rest) := by
  have hp := fun n => integerPart_toDigits n hr
  cases i with
  | ofNat n =>
    have hs : numberSign (Nat.toDigits 10 n ++ rest) = ([], Nat.toDigits 10 n ++ rest) := by
      obtain ⟨c, cs, hc, hd⟩ := toDigits_isDigit n
      have : c ≠ '-' := by rintro rfl; simp at hd
      rw [hc, List.cons_append, numberSign]
      rintro _ h
      exact this (List.cons.inj h).1
    have hl := length_toDigits_le (n := n) (by simpa using hi)
    simp [scanNumber, dumpsInt, hs, hp, fractionPart_delimited hr, exponentPart_delimited hr,
      parseInt, Nat.not_lt.mpr hl, Nat.ofDigitChars_ten_toDigits, Except.map]
  | negSucc n =>
    have hl := length_toDigits_le (n := n + 1) (by simpa using hi)
    simp [scanNumber, dumpsInt, numberSign, hp, fractionPart_delimited hr,
      exponentPart_delimited hr, parseInt, Nat.not_lt.mpr hl, Nat.ofDigitChars_ten_toDigits,
      Except.map, Int.negSucc_eq]

theorem scanAtom_dumpsInt (hooks : JsonHooks) {i : Int}
    (hi : i.natAbs ≤ maxSafeInteger) (hr : Delimited rest) :
    scanAtom hooks (dumpsInt i ++ rest) = .ok (.int i, rest) := by
  rw [← scanNumber_dumpsInt hooks hi hr]
  cases i with
  | ofNat n =>
    obtain ⟨c, cs, hc, hd⟩ := toDigits_isDigit n
    have hne : ∀ d : Char, ¬ d.isDigit → d ≠ c := by rintro _ h rfl; exact h hd
    simp [scanAtom, dumpsInt, hc, hne]
  | negSucc n =>
    obtain ⟨c, cs, hc, hd⟩ := toDigits_isDigit (n + 1)
    have hne : ∀ d : Char, ¬ d.isDigit → d ≠ c := by rintro _ h rfl; exact h hd
    simp [scanAtom, dumpsInt, hc, hne]

/-! ## Documents -/

/-- No character `skipWhitespace` would skip comes first. -/
def Solid (cs : List Char) : Prop := ∀ c ∈ cs.head?, isJsonWhitespace c = false

theorem skipWhitespace_solid {cs : List Char} (h : Solid cs) : skipWhitespace cs = cs := by
  rcases cs with _ | ⟨c, cs⟩
  · rfl
  · simp [skipWhitespace, h c (by simp)]

theorem Delimited.solid (h : Delimited rest) : Solid rest := by
  intro c hc
  rcases h c hc with rfl | rfl | rfl <;> rfl

/-- The first character of a document: never white space, a closing bracket or a byte order mark. -/
theorem dumps_head (j : Json) :
    ∃ c cs, j.dumps = c :: cs ∧ isJsonWhitespace c = false ∧ c ≠ ']' ∧ c.toNat ≠ 0xFEFF := by
  have hdigit : ∀ c : Char, c.isDigit = true →
      isJsonWhitespace c = false ∧ c ≠ ']' ∧ c.toNat ≠ 0xFEFF := by
    intro c hc
    have hne : ∀ d : Char, ¬ d.isDigit → c ≠ d := by rintro _ h rfl; exact h hc
    have hb : c ≠ Char.ofNat 0xFEFF := hne _ (by decide)
    refine ⟨by simp [isJsonWhitespace, hne], hne _ (by decide), fun h => hb ?_⟩
    rw [← h, Char.ofNat_toNat]
  match j with
  | .null => exact ⟨_, _, rfl, by decide⟩
  | .bool true => exact ⟨_, _, rfl, by decide⟩
  | .bool false => exact ⟨_, _, rfl, by decide⟩
  | .int (.ofNat n) =>
    obtain ⟨c, cs, hc, hd⟩ := toDigits_isDigit n
    exact ⟨c, cs, by rw [Json.dumps, dumpsInt, hc], hdigit c hd⟩
  | .int (.negSucc n) => exact ⟨'-', _, by rw [Json.dumps, dumpsInt], by decide⟩
  | .str s => exact ⟨'"', _, by rw [Json.dumps, dumpsString], by decide⟩
  | .arr items => exact ⟨'[', _, by rw [Json.dumps], by decide⟩
  | .obj entries => exact ⟨'{', _, by rw [Json.dumps], by decide⟩

theorem dumps_length_pos (j : Json) : 0 < j.dumps.length := by
  obtain ⟨c, cs, hc, -⟩ := dumps_head j
  simp [hc]

theorem skipWhitespace_dumps (j : Json) (rest : List Char) :
    skipWhitespace (j.dumps ++ rest) = j.dumps ++ rest := by
  obtain ⟨c, cs, hc, hw, -, -⟩ := dumps_head j
  exact skipWhitespace_solid (by simp [Solid, hc, hw])

theorem skipWhitespace_cons {c : Char} (cs : List Char) (h : isJsonWhitespace c = false) :
    skipWhitespace (c :: cs) = c :: cs :=
  skipWhitespace_solid (by simp [Solid, h])

variable (hooks : JsonHooks)

theorem scanOnce_atom (n : Nat) {c : Char} (cs : List Char) (hq : c ≠ '"') (ha : c ≠ '[')
    (ho : c ≠ '{') : scanOnce hooks (n + 1) (c :: cs) = scanAtom hooks (c :: cs) := by
  rw [scanOnce]
  all_goals simp_all

theorem scanOnce_items (n : Nat) {c : Char} (cs : List Char) (hw : isJsonWhitespace c = false)
    (hb : c ≠ ']') :
    scanOnce hooks (n + 1) ('[' :: c :: cs) =
      (scanItems hooks n (c :: cs)).map fun r => (.list r.1, r.2) := by
  have hs : skipWhitespace (c :: cs) = c :: cs := skipWhitespace_solid (by simp [Solid, hw])
  rw [scanOnce, hs]
  split
  · next h => exact absurd (List.cons.inj h).1 hb
  · rfl

theorem scanOnce_pairs (n : Nat) (cs : List Char) :
    scanOnce hooks (n + 1) ('{' :: '"' :: cs) =
      (scanPairs hooks n ('"' :: cs)).bind fun r =>
        (hooks.objectPairs r.1).map fun entries => (.dict entries, r.2) := by
  have hs : skipWhitespace ('"' :: cs) = '"' :: cs := skipWhitespace_solid (by simp [Solid, isJsonWhitespace])
  rw [scanOnce, hs]
  rfl

theorem toPyItems_eq (js : List Json) : Json.toPyItems js = js.map Json.toPy := by
  induction js with
  | nil => rfl
  | cons j js ih => rw [Json.toPyItems, ih, List.map_cons]

theorem toPyEntries_eq (es : List (String × Json)) :
    Json.toPyEntries es = es.map fun e => (.str (.valid e.1), e.2.toPy) := by
  induction es with
  | nil => rfl
  | cons e es ih => rw [Json.toPyEntries, ih, List.map_cons]

/-- The pairs the scanner hands to the hook for an object. -/
def pairsOf (es : List (String × Json)) : List (Text × PyValue) :=
  es.map fun e => (.valid e.1, e.2.toPy)

theorem objectPairs_pairsOf : ∀ (es : List (String × Json)) (seen : List Text),
    (es.map Prod.fst).Nodup → (∀ k ∈ es.map Prod.fst, Text.valid k ∉ seen) →
    objectPairs seen (pairsOf es) = .ok (Json.toPyEntries es)
  | [], _, _, _ => rfl
  | (k, j) :: es, seen, hn, hs => by
    obtain ⟨hk, hn⟩ := List.nodup_cons.mp hn
    have hrest : ∀ l ∈ es.map Prod.fst, Text.valid l ∉ Text.valid k :: seen := by
      intro l hl hm
      rcases List.mem_cons.mp hm with h | h
      · exact hk (Text.valid.inj h ▸ hl)
      · exact hs l (List.mem_cons_of_mem _ hl) h
    have ih := objectPairs_pairsOf es (.valid k :: seen) hn hrest
    have hks : Text.valid k ∉ seen := hs k (by simp)
    rw [pairsOf] at ih ⊢
    simp [objectPairs, hks, ih, Except.map, Json.toPyEntries]

/-- The entries of an object with distinct keys go into the result as they stand. -/
def JsonHooks.KeepsEntries (hooks : JsonHooks) : Prop :=
  ∀ es : List (String × Json), (es.map Prod.fst).Nodup →
    hooks.objectPairs (pairsOf es) = .ok (Json.toPyEntries es)

theorem strictHooks_keepsEntries (pyFloat : String → Option Rat) :
    (strictHooks pyFloat).KeepsEntries := fun es hn => objectPairs_pairsOf es [] hn (by simp)

theorem setKey_fresh {key : Text} {item : PyValue} {entries : List (PyValue × PyValue)}
    (h : ∀ e ∈ entries, e.1.keyText ≠ some key) :
    setKey key item entries = entries ++ [(.str key, item)] := by
  induction entries with
  | nil => rfl
  | cons e entries ih =>
    obtain ⟨k, v⟩ := e
    rw [setKey, if_neg (h (k, v) List.mem_cons_self), ih fun e he => h e (List.mem_cons_of_mem _ he),
      List.cons_append]

theorem dictOfPairs_from : ∀ (es : List (String × Json)) (entries : List (PyValue × PyValue)),
    (es.map Prod.fst).Nodup →
    (∀ e ∈ entries, ∀ k ∈ es.map Prod.fst, e.1.keyText ≠ some (.valid k)) →
    (pairsOf es).foldl (fun entries pair => setKey pair.1 pair.2 entries) entries =
      entries ++ Json.toPyEntries es
  | [], _, _, _ => by simp [pairsOf, Json.toPyEntries]
  | (k, j) :: es, entries, hn, hfresh => by
    obtain ⟨hk, hn⟩ := List.nodup_cons.mp hn
    have hset : setKey (.valid k) j.toPy entries = entries ++ [(.str (.valid k), j.toPy)] :=
      setKey_fresh fun e he => hfresh e he k (by simp)
    have ih := dictOfPairs_from es (entries ++ [(.str (.valid k), j.toPy)]) hn (by
      intro e he l hl
      rcases List.mem_append.mp he with he | he
      · exact hfresh e he l (List.mem_cons_of_mem _ hl)
      · rw [List.mem_singleton] at he
        subst he
        rintro h
        cases h
        exact hk hl)
    simp only [pairsOf, List.map_cons, List.foldl_cons] at ih ⊢
    rw [hset, ih, Json.toPyEntries, List.append_assoc, List.singleton_append]

theorem defaultHooks_keepsEntries (pyFloat : String → Option Rat) :
    (defaultHooks pyFloat).KeepsEntries := fun es hn =>
  congrArg Except.ok ((dictOfPairs_from es [] hn (by simp)).trans (List.nil_append _))

mutual

/-- What the scanner asks of a document: integers it reads at their size, no key twice. -/
def Json.Readable : Json → Prop
  | .int i => i.natAbs ≤ maxSafeInteger
  | .arr items => Json.ReadableItems items
  | .obj entries => (entries.map Prod.fst).Nodup ∧ Json.ReadableEntries entries
  | _ => True

def Json.ReadableItems : List Json → Prop
  | [] => True
  | j :: js => j.Readable ∧ Json.ReadableItems js

def Json.ReadableEntries : List (String × Json) → Prop
  | [] => True
  | (_, j) :: rest => j.Readable ∧ Json.ReadableEntries rest

end

theorem delimited_moreItems (js : List Json) (rest : List Char) :
    Delimited (Json.dumpsMoreItems js ++ rest) := by
  cases js <;> simp [Delimited, Json.dumpsMoreItems]

theorem delimited_moreEntries (es : List (String × Json)) (rest : List Char) :
    Delimited (Json.dumpsMoreEntries es ++ rest) := by
  rcases es with _ | ⟨⟨k, j⟩, es⟩ <;> simp [Delimited, Json.dumpsMoreEntries]

variable {hooks}

mutual

/-- A document reads back from its text, whatever delimiter follows it. -/
theorem scanOnce_dumps (hk : hooks.KeepsEntries) : ∀ (j : Json) (n : Nat) (rest : List Char), j.Readable →
    Delimited rest → 2 * j.dumps.length ≤ n + 1 →
    scanOnce hooks n (j.dumps ++ rest) = .ok (j.toPy, rest)
  | j, 0, _, _, _, hn => absurd hn (by have := dumps_length_pos j; omega)
  | .null, n + 1, rest, _, _, _ => by
    simp [Json.dumps, scanOnce_atom, scanAtom, Json.toPy]
  | .bool true, n + 1, rest, _, _, _ => by
    simp [Json.dumps, scanOnce_atom, scanAtom, Json.toPy]
  | .bool false, n + 1, rest, _, _, _ => by
    simp [Json.dumps, scanOnce_atom, scanAtom, Json.toPy]
  | .int i, n + 1, rest, hj, hr, _ => by
    have h := scanAtom_dumpsInt hooks hj hr
    cases i with
    | ofNat m =>
      obtain ⟨c, cs, hc, hd⟩ := toDigits_isDigit m
      have hne : ∀ d : Char, ¬ d.isDigit → c ≠ d := by rintro _ h rfl; exact h hd
      simp only [dumpsInt, hc, List.cons_append] at h
      simp only [Json.dumps, dumpsInt, hc, List.cons_append]
      rw [scanOnce_atom hooks n _ (hne _ (by decide)) (hne _ (by decide)) (hne _ (by decide)), h,
        Json.toPy]
    | negSucc m =>
      simp only [dumpsInt, List.cons_append] at h
      simp only [Json.dumps, dumpsInt, List.cons_append]
      rw [scanOnce_atom hooks n _ (by decide) (by decide) (by decide), h, Json.toPy]
  | .str s, n + 1, rest, _, _, _ => by
    simp [Json.dumps, dumpsString, scanOnce, scanString_dumps, Except.map, Json.toPy]
  | .arr [], n + 1, rest, _, _, _ => by
    simp [Json.dumps, Json.dumpsItems, scanOnce, skipWhitespace, isJsonWhitespace, Json.toPy,
      Json.toPyItems]
  | .arr (j :: js), n + 1, rest, hj, _, hn => by
    obtain ⟨c, cs, hc, hw, hb, -⟩ := dumps_head j
    have hlen : 2 * (Json.dumpsItems (j :: js)).length ≤ n := by
      simp [Json.dumps] at hn
      omega
    have h := scanItems_dumps hk (j :: js) n rest (by simp) (by simpa [Json.Readable] using hj) hlen
    simp only [Json.dumpsItems, hc, List.cons_append] at h
    simp only [Json.dumps, Json.dumpsItems, hc, List.cons_append]
    rw [scanOnce_items hooks n _ hw hb, h]
    rfl
  | .obj [], n + 1, rest, _, _, _ => by
    simp [Json.dumps, Json.dumpsEntries, scanOnce, skipWhitespace, isJsonWhitespace, Json.toPy,
      Json.toPyEntries]
  | .obj ((k, j) :: es), n + 1, rest, hj, _, hn => by
    obtain ⟨hnodup, hes⟩ := hj
    have hlen : 2 * (Json.dumpsEntries ((k, j) :: es)).length ≤ n := by
      simp [Json.dumps] at hn
      omega
    have h := scanPairs_dumps hk ((k, j) :: es) n rest (by simp) hes hlen
    simp only [Json.dumpsEntries, dumpsString, List.cons_append] at h
    simp only [Json.dumps, Json.dumpsEntries, dumpsString, List.cons_append]
    rw [scanOnce_pairs hooks n, h]
    simp only [Except.bind, hk _ hnodup, Except.map, Json.toPy]

theorem scanItems_dumps (hk : hooks.KeepsEntries) : ∀ (js : List Json) (n : Nat) (rest : List Char), js ≠ [] →
    Json.ReadableItems js → 2 * (Json.dumpsItems js).length ≤ n →
    scanItems hooks n (Json.dumpsItems js ++ rest) = .ok (Json.toPyItems js, rest)
  | [], _, _, h, _, _ => absurd rfl h
  | j :: js, 0, _, _, _, hn => absurd hn (by
      have := dumps_length_pos j
      rw [Json.dumpsItems, List.length_append]
      omega)
  | [j], n + 1, rest, _, hj, hn => by
    have hlen : 2 * j.dumps.length ≤ n + 1 := by
      simp [Json.dumpsItems, Json.dumpsMoreItems] at hn
      omega
    have h := scanOnce_dumps hk j n (']' :: rest) hj.1 (by simp [Delimited]) hlen
    simp [Json.dumpsItems, Json.dumpsMoreItems, scanItems, h, Except.bind, skipWhitespace_cons,
      isJsonWhitespace, Json.toPyItems]
  | j :: k :: js, n + 1, rest, _, hj, hn => by
    have hlen : 2 * j.dumps.length ≤ n + 1 ∧ 2 * (Json.dumpsItems (k :: js)).length ≤ n := by
      have := dumps_length_pos j
      simp [Json.dumpsItems, Json.dumpsMoreItems] at hn ⊢
      omega
    have h := scanOnce_dumps hk j n (',' :: (Json.dumpsItems (k :: js) ++ rest)) hj.1
      (by simp [Delimited]) hlen.1
    have ih := scanItems_dumps hk (k :: js) n rest (by simp) hj.2 hlen.2
    have hs : skipWhitespace (Json.dumpsItems (k :: js) ++ rest) =
        Json.dumpsItems (k :: js) ++ rest := by
      rw [Json.dumpsItems, List.append_assoc, skipWhitespace_dumps]
    have he : Json.dumpsItems (j :: k :: js) ++ rest =
        j.dumps ++ ',' :: (Json.dumpsItems (k :: js) ++ rest) := by
      simp [Json.dumpsItems, Json.dumpsMoreItems]
    rw [he, scanItems, h]
    simp [Except.bind, skipWhitespace_cons, isJsonWhitespace, hs, ih, Except.map, Json.toPyItems]

theorem scanPairs_dumps (hk : hooks.KeepsEntries) : ∀ (es : List (String × Json)) (n : Nat) (rest : List Char), es ≠ [] →
    Json.ReadableEntries es → 2 * (Json.dumpsEntries es).length ≤ n →
    scanPairs hooks n (Json.dumpsEntries es ++ rest) = .ok (pairsOf es, rest)
  | [], _, _, h, _, _ => absurd rfl h
  | (k, j) :: es, 0, _, _, _, hn => absurd hn (by
      have := dumps_length_pos j
      simp [Json.dumpsEntries])
  | [(k, j)], n + 1, rest, _, hj, hn => by
    have hlen : 2 * j.dumps.length ≤ n + 1 := by
      simp [Json.dumpsEntries, Json.dumpsMoreEntries] at hn
      omega
    have h := scanOnce_dumps hk j n ('}' :: rest) hj.1 (by simp [Delimited]) hlen
    have he : Json.dumpsEntries [(k, j)] ++ rest =
        '"' :: (k.toList.flatMap escapeChar ++ '"' :: ':' :: (j.dumps ++ '}' :: rest)) := by
      simp [Json.dumpsEntries, Json.dumpsMoreEntries, dumpsString]
    rw [he, scanPairs, scanString_dumps]
    simp [Except.bind, skipWhitespace_cons, isJsonWhitespace, skipWhitespace_dumps, h, pairsOf]
  | (k, j) :: (l, i) :: es, n + 1, rest, _, hj, hn => by
    have hlen : 2 * j.dumps.length ≤ n + 1 ∧ 2 * (Json.dumpsEntries ((l, i) :: es)).length ≤ n := by
      simp [Json.dumpsEntries, Json.dumpsMoreEntries] at hn ⊢
      omega
    have h := scanOnce_dumps hk j n (',' :: (Json.dumpsEntries ((l, i) :: es) ++ rest)) hj.1
      (by simp [Delimited]) hlen.1
    have ih := scanPairs_dumps hk ((l, i) :: es) n rest (by simp) hj.2 hlen.2
    have hs : skipWhitespace (Json.dumpsEntries ((l, i) :: es) ++ rest) =
        Json.dumpsEntries ((l, i) :: es) ++ rest :=
      skipWhitespace_solid (by simp [Solid, Json.dumpsEntries, dumpsString, isJsonWhitespace])
    have he : Json.dumpsEntries ((k, j) :: (l, i) :: es) ++ rest =
        '"' :: (k.toList.flatMap escapeChar ++ '"' :: ':' ::
          (j.dumps ++ ',' :: (Json.dumpsEntries ((l, i) :: es) ++ rest))) := by
      simp [Json.dumpsEntries, Json.dumpsMoreEntries, dumpsString]
    rw [he, scanPairs, scanString_dumps]
    simp [Except.bind, skipWhitespace_cons, isJsonWhitespace, skipWhitespace_dumps, h, hs, ih,
      Except.map, pairsOf]

end

theorem jsonLoads_dumps (hk : hooks.KeepsEntries) {j : Json} (hj : j.Readable) :
    jsonLoads hooks (String.ofList j.dumps) = .ok j.toPy := by
  have hscan := scanOnce_dumps hk j (2 * j.dumps.length) [] hj (by simp [Delimited]) (by omega)
  have hskip := skipWhitespace_dumps j []
  rw [List.append_nil] at hscan hskip
  have hnil : skipWhitespace [] = [] := rfl
  have hbom : (j.dumps.head?.any fun c => c.toNat = 0xFEFF) = false := by
    obtain ⟨c, cs, hc, -, -, hb⟩ := dumps_head j
    simp [hc, hb]
  simp [jsonLoads, hbom, hskip, hscan, hnil, bind, Except.bind, pure, Except.pure]

theorem strictJsonLoads_dumps (pyFloat : String → Option Rat) {j : Json} (hj : j.Readable) :
    strictJsonLoads pyFloat (String.ofList j.dumps) = .ok j.toPy := by
  rw [strictJsonLoads, jsonLoads_dumps (strictHooks_keepsEntries pyFloat) hj, Except.mapError]

/-! ## A document is determined by its text -/

mutual

theorem toPy_injective : ∀ j k : Json, j.toPy = k.toPy → j = k
  | .arr js, k, h => by
    cases k <;> simp only [Json.toPy, PyValue.list.injEq, reduceCtorEq] at h
    rw [toPyItems_injective js _ h]
  | .obj es, k, h => by
    cases k <;> simp only [Json.toPy, PyValue.dict.injEq, reduceCtorEq] at h
    rw [toPyEntries_injective es _ h]
  | .null, k, h | .bool _, k, h | .int _, k, h | .str _, k, h => by
    cases k <;> simp_all [Json.toPy]

theorem toPyItems_injective : ∀ js ks : List Json, Json.toPyItems js = Json.toPyItems ks → js = ks
  | [], [], _ => rfl
  | [], _ :: _, h | _ :: _, [], h => by cases h
  | j :: js, k :: ks, h => by
    obtain ⟨hj, hjs⟩ := List.cons.inj h
    rw [toPy_injective j k hj, toPyItems_injective js ks hjs]

theorem toPyEntries_injective :
    ∀ es fs : List (String × Json), Json.toPyEntries es = Json.toPyEntries fs → es = fs
  | [], [], _ => rfl
  | [], _ :: _, h | _ :: _, [], h => by cases h
  | (k, j) :: es, (l, i) :: fs, h => by
    obtain ⟨he, hes⟩ := List.cons.inj h
    simp only [Prod.mk.injEq, PyValue.str.injEq, Text.valid.injEq] at he
    rw [he.1, toPy_injective j i he.2, toPyEntries_injective es fs hes]

end

theorem dumps_injective {j k : Json} (hj : j.Readable) (hk : k.Readable) (h : j.dumps = k.dumps) :
    j = k := by
  have hloads := strictJsonLoads_dumps (fun _ => none) hj
  rw [h, strictJsonLoads_dumps _ hk] at hloads
  exact (toPy_injective _ _ (Except.ok.inj hloads)).symm

end VeraMono

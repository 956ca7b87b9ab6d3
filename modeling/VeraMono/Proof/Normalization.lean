import VeraMono.Model.Normalization
import Mathlib.Data.List.Forall2

/-!
# When normalisation keeps what it is given

The JSON and the text branch always keep the meaning and are idempotent. JSON Lines are cut by
`str.splitlines`, which ends lines where JSON does not, and the lines it writes may hold such
characters and lone surrogates; `Lossless` says when neither matters. `normalises_of_lossless` and
`lossless_of_normalises` are the two directions of `normalises_iff`; `shown_cut` and
`shown_ofLines` say what cutting at a line boundary does.
-/

namespace VeraMono.Normalization

variable {V : Type}

/-- The lines that are not blank. -/
def shown (lines : List (List Char)) : List (List Char) := lines.filter fun line => !blank line

/-- What the libraries are documented to do: a canonical text reads as its value, has no newline and
neither begins nor ends with white space; NFC is idempotent and makes no carriage return. -/
structure Libraries.Faithful (lib : Libraries V) : Prop where
  loads_canonical : ∀ v s, lib.canonicalJson v = .ok (.valid s) → lib.loads s = .ok v
  canonical_newline : ∀ v s, lib.canonicalJson v = .ok (.valid s) → '\n' ∉ s.toList
  canonical_head : ∀ v s, lib.canonicalJson v = .ok (.valid s) → ∃ c cs, s.toList = c :: cs ∧ isWhitespace c = false
  canonical_last : ∀ v s, lib.canonicalJson v = .ok (.valid s) → ∃ cs c, s.toList = cs ++ [c] ∧ isWhitespace c = false
  nfc_nfc : ∀ s, lib.nfc (lib.nfc s) = lib.nfc s
  nfc_return : ∀ s, '\r' ∉ s → '\r' ∉ lib.nfc s

/-- A line that is a document, with the canonical text of its value. -/
def Parses (lib : Libraries V) (line : List Char) (t : Text) : Prop :=
  ∃ v, lib.loads (String.ofList line) = .ok v ∧ lib.canonicalJson v = .ok t

/-- The text is a list of documents, separated by newlines, that have these canonical texts. -/
def Documents (lib : Libraries V) (text : String) (texts : List String) : Prop :=
  List.Forall₂ (fun line s => Parses lib line (.valid s)) (shown (text.toList.splitOn '\n')) texts

def ofLines (texts : List String) : String := String.ofList (texts.flatMap fun s => s.toList ++ ['\n'])

/-- It returns or raises its own error, keeps what it accepts, accepts documents, and changes nothing twice. -/
structure Normalises (lib : Libraries V) (data : ByteArray) (mediaType : String) : Prop where
  decides : ∀ e, normalizeBytes lib data mediaType = .error e → ∃ m, e = .normalization m
  json : isJson lib mediaType → ∀ text v s, String.fromUTF8? data = some text → lib.loads text = .ok v →
    lib.canonicalJson v = .ok (.valid s) →
    normalizeBytes lib data mediaType = .ok (some s.toUTF8) ∧ lib.loads s = .ok v
  jsonLines : isJsonLines lib mediaType → ∀ text texts, String.fromUTF8? data = some text →
    Documents lib text texts → normalizeBytes lib data mediaType = .ok (some (ofLines texts).toUTF8) ∧
      List.Forall₂ (fun line s => lib.loads s = lib.loads (String.ofList line))
        (shown (text.toList.splitOn '\n')) texts
  idempotent : ∀ b, normalizeBytes lib data mediaType = .ok (some b) →
    normalizeBytes lib b mediaType = .ok (some b)

/-- Of JSON Lines: cut at every line boundary, a list of documents has the same documents as cut at
newlines, and no canonical text of a line holds a line boundary or a lone surrogate. -/
def Lossless (lib : Libraries V) (data : ByteArray) (mediaType : String) : Prop :=
  isJsonLines lib mediaType → ∀ text, String.fromUTF8? data = some text →
    (∀ texts, Documents lib text texts → List.Forall₂ (Parses lib) (shown (splitlines text.toList)) (texts.map .valid)) ∧
    ∀ texts, List.Forall₂ (Parses lib) (shown (splitlines text.toList)) texts →
      ∀ t ∈ texts, ∃ s, t = .valid s ∧ ∀ c ∈ s.toList, isLineBoundary c = false

section
variable {lib : Libraries V} {data : ByteArray} {mediaType : String}

theorem fromUTF8?_toUTF8 (s : String) : String.fromUTF8? s.toUTF8 = some s := by
  rw [String.toUTF8_eq_toByteArray, String.fromUTF8?, dif_pos s.isValidUTF8]
  rfl

theorem not_isJson (h : isJsonLines lib mediaType) : ¬ isJson lib mediaType := by
  rintro (hj | hj) <;> rcases h with h | h <;> exact absurd (hj.symm.trans h) (by decide)

/-! ## Lines -/

theorem normalizeLines_ok (lines : List (List Char)) (index : Nat) (texts : List Text) :
    normalizeLines lib index lines = .ok texts ↔ List.Forall₂ (Parses lib) (shown lines) texts := by
  induction lines generalizing index texts with
  | nil => simp [normalizeLines, shown, eq_comm]
  | cons line rest ih =>
    rw [normalizeLines]
    cases hblank : blank line with
    | true => simp [shown, hblank, ih]
    | false =>
      have hshown : shown (line :: rest) = line :: shown rest := by simp [shown, hblank]
      rw [hshown, List.forall₂_cons_left_iff, if_neg Bool.false_ne_true]
      constructor
      · intro h
        cases hload : lib.loads (String.ofList line) with
        | error e => rw [hload] at h; cases h
        | ok v =>
          rw [hload] at h
          dsimp only at h
          cases hcanon : lib.canonicalJson v with
          | error e => rw [hcanon] at h; cases h
          | ok t =>
            rw [hcanon] at h
            dsimp only at h
            cases hrest : normalizeLines lib (index + 1) rest with
            | error e => rw [hrest] at h; cases h
            | ok ts =>
              rw [hrest] at h
              cases h
              exact ⟨t, ts, ⟨v, hload, hcanon⟩, (ih _ _).1 hrest, rfl⟩
      · rintro ⟨t, ts, ⟨v, hload, hcanon⟩, hrest, rfl⟩
        simp only [hload, hcanon, (ih (index + 1) ts).2 hrest, Except.map]

variable {chars : List Char} {lines : List (List Char)} {ss : List String} {b : ByteArray}
  {text : String}

theorem normalizeLines_error {index : Nat} {e : NormalizeError}
    (h : normalizeLines lib index lines = .error e) : ∃ m, e = .normalization m := by
  induction lines generalizing index with
  | nil => cases h
  | cons line rest ih =>
    rw [normalizeLines] at h
    split at h
    · exact ih h
    · split at h
      · exact ⟨_, (Except.error.inj h).symm⟩
      · split at h
        · exact ⟨_, (Except.error.inj h).symm⟩
        · cases hrest : normalizeLines lib (index + 1) rest with
          | error e' =>
            rw [hrest] at h
            cases h
            exact ih hrest
          | ok ts => rw [hrest] at h; cases h

theorem joinLines_valid (texts : List String) :
    joinLines (texts.map .valid) = some (texts.flatMap fun s => s.toList ++ ['\n']) := by
  induction texts with
  | nil => rfl
  | cons s texts ih => simp [joinLines, ih]

theorem splitlinesFrom_line (hc : ∀ c ∈ chars, isLineBoundary c = false) (line rest : List Char) :
    splitlinesFrom line (chars ++ '\n' :: rest) = (line.reverse ++ chars) :: splitlinesFrom [] rest := by
  induction chars generalizing line with
  | nil =>
    rw [List.nil_append, splitlinesFrom.eq_3 _ _ _ (by simp), if_pos (by decide), List.append_nil]
  | cons c chars ih =>
    have hnot := hc c List.mem_cons_self
    have hreturn : c ≠ '\r' := by
      rintro rfl
      exact absurd hnot (by decide)
    rw [List.cons_append, splitlinesFrom.eq_3 _ _ _ (by simp [hreturn]), if_neg (by simp [hnot]),
      ih fun d hd => hc d (List.mem_cons_of_mem c hd)]
    simp

theorem splitlines_ofLines {texts : List String} (hc : ∀ s ∈ texts, ∀ c ∈ s.toList, isLineBoundary c = false) :
    splitlines (ofLines texts).toList = texts.map String.toList := by
  induction texts with
  | nil => rfl
  | cons s texts ih =>
    have ih' := ih fun t ht => hc t (List.mem_cons_of_mem s ht)
    simp only [splitlines, ofLines, String.toList_ofList] at ih' ⊢
    rw [List.flatMap_cons, List.append_assoc, List.singleton_append, splitlinesFrom_line (hc s List.mem_cons_self), ih']
    rfl

theorem replaceNewlines_return (text : List Char) : '\r' ∉ replaceNewlines text := by
  fun_induction replaceNewlines text with
  | case1 rest ih => simp [ih]
  | case2 c rest _ ih =>
    rw [List.mem_cons, not_or]
    refine ⟨?_, ih⟩
    split_ifs with hc
    · decide
    · exact Ne.symm hc
  | case3 => simp

theorem replaceNewlines_of_not_mem {text : List Char} (h : '\r' ∉ text) : replaceNewlines text = text := by
  fun_induction replaceNewlines text with
  | case1 rest ih => simp at h
  | case2 c rest _ ih =>
    rw [List.mem_cons, not_or] at h
    rw [ih h.2, if_neg (Ne.symm h.1)]
  | case3 => rfl

theorem parses_written (hlib : lib.Faithful) {texts : List String}
    (h : List.Forall₂ (Parses lib) lines (texts.map .valid)) :
    List.Forall₂ (Parses lib) (shown (texts.map String.toList)) (texts.map .valid) := by
  induction texts generalizing lines with
  | nil => exact .nil
  | cons s texts ih =>
    obtain ⟨line, lines, ⟨v, -, hcanon⟩, hrest, rfl⟩ := List.forall₂_cons_right_iff.1 h
    have hshown : shown ((s :: texts).map String.toList) = s.toList :: shown (texts.map String.toList) := by
      obtain ⟨c, cs, hs, hc⟩ := hlib.canonical_head v s hcanon
      simp [shown, blank, hs, hc]
    rw [hshown]
    exact .cons ⟨v, by rw [String.ofList_toList]; exact hlib.loads_canonical v s hcanon, hcanon⟩ (ih hrest)

/-! ## The branches -/

theorem normalizeJson_ok : normalizeJson lib data = .ok b ↔ ∃ text v s,
    String.fromUTF8? data = some text ∧ lib.loads text = .ok v ∧ lib.canonicalJson v = .ok (.valid s) ∧ s.toUTF8 = b := by
  rw [normalizeJson]
  constructor
  · intro h
    split at h
    · cases h
    case h_2 text htext =>
      split at h
      · cases h
      case h_2 v hv =>
        split at h
        · cases h
        · cases h
        case h_3 s hs => exact ⟨text, v, s, htext, hv, hs, Except.ok.inj h⟩
  · rintro ⟨text, v, s, htext, hv, hs, rfl⟩
    simp only [htext, hv, hs]

theorem normalizeJson_error {e : NormalizeError} (h : normalizeJson lib data = .error e) :
    ∃ m, e = .normalization m := by
  rw [normalizeJson] at h
  split at h
  · exact ⟨_, (Except.error.inj h).symm⟩
  · split at h
    · exact ⟨_, (Except.error.inj h).symm⟩
    · split at h
      · exact ⟨_, (Except.error.inj h).symm⟩
      · exact ⟨_, (Except.error.inj h).symm⟩
      · cases h

theorem normalizeJsonLines_ok {texts : List String} (htext : String.fromUTF8? data = some text)
    (h : List.Forall₂ (Parses lib) (shown (splitlines text.toList)) (texts.map .valid)) :
    normalizeJsonLines lib data = .ok (ofLines texts).toUTF8 := by
  simp only [normalizeJsonLines, htext, (normalizeLines_ok _ 1 _).2 h, joinLines_valid, ofLines]

theorem Lossless.texts (h : Lossless lib data mediaType) (hlines : isJsonLines lib mediaType)
    (htext : String.fromUTF8? data = some text) {texts : List Text}
    (hparses : List.Forall₂ (Parses lib) (shown (splitlines text.toList)) texts) :
    ∃ ss : List String, texts = ss.map .valid ∧ ∀ s ∈ ss, ∀ c ∈ s.toList, isLineBoundary c = false := by
  have hall := (h hlines text htext).2 texts hparses
  clear hparses
  induction texts with
  | nil => exact ⟨[], rfl, by simp⟩
  | cons t texts ih =>
    obtain ⟨s, rfl, hs⟩ := hall t List.mem_cons_self
    obtain ⟨ss, rfl, hss⟩ := ih fun t' ht' => hall t' (List.mem_cons_of_mem _ ht')
    refine ⟨s :: ss, rfl, fun s' hs' => ?_⟩
    rcases List.mem_cons.1 hs' with rfl | hs'
    · exact hs
    · exact hss s' hs'

theorem Lossless.jsonLines (h : Lossless lib data mediaType) (hlines : isJsonLines lib mediaType) :
    (∃ m, normalizeJsonLines lib data = .error (.normalization m)) ∨
      ∃ text ss, String.fromUTF8? data = some text ∧
        List.Forall₂ (Parses lib) (shown (splitlines text.toList)) (ss.map .valid) ∧
        (∀ s ∈ ss, ∀ c ∈ s.toList, isLineBoundary c = false) ∧
        normalizeJsonLines lib data = .ok (ofLines ss).toUTF8 := by
  cases htext : String.fromUTF8? data with
  | none => exact .inl ⟨"JSONL is not valid UTF-8", by simp only [normalizeJsonLines, htext]⟩
  | some text =>
    cases hrun : normalizeLines lib 1 (splitlines text.toList) with
    | error e =>
      obtain ⟨m, rfl⟩ := normalizeLines_error hrun
      exact .inl ⟨m, by simp only [normalizeJsonLines, htext, hrun]⟩
    | ok texts =>
      have hparses := (normalizeLines_ok _ 1 _).1 hrun
      obtain ⟨ss, rfl, hss⟩ := h.texts hlines htext hparses
      exact .inr ⟨text, ss, rfl, hparses, hss, normalizeJsonLines_ok htext hparses⟩

theorem normalizeJsonLines_written (hlib : lib.Faithful)
    (h : List.Forall₂ (Parses lib) lines (ss.map .valid))
    (hss : ∀ s ∈ ss, ∀ c ∈ s.toList, isLineBoundary c = false) :
    normalizeJsonLines lib (ofLines ss).toUTF8 = .ok (ofLines ss).toUTF8 := by
  refine normalizeJsonLines_ok (fromUTF8?_toUTF8 _) ?_
  rw [splitlines_ofLines hss]
  exact parses_written hlib h

theorem normalizeText_twice (hlib : lib.Faithful) (h : normalizeText lib data = .ok b) :
    normalizeText lib b = .ok b := by
  rw [normalizeText] at h
  split at h
  · cases h
  case h_2 text _ =>
    obtain rfl := Except.ok.inj h
    have hreturn := hlib.nfc_return _ (replaceNewlines_return text.toList)
    simp only [normalizeText, fromUTF8?_toUTF8, String.toList_ofList, replaceNewlines_of_not_mem hreturn, hlib.nfc_nfc]

/-- Where nothing is lost, normalisation decides, keeps the meaning and is idempotent. -/
theorem normalises_of_lossless (hlib : lib.Faithful) (h : Lossless lib data mediaType) :
    Normalises lib data mediaType := by
  constructor
  case decides =>
    intro e he
    rw [normalizeBytes] at he
    split_ifs at he with hjson hlines htext
    · cases hrun : normalizeJson lib data with
      | ok b => rw [hrun] at he; cases he
      | error e' =>
        rw [hrun] at he
        cases he
        exact normalizeJson_error hrun
    · obtain ⟨m, hrun⟩ | ⟨text, ss, -, -, -, hrun⟩ := h.jsonLines hlines
      · rw [hrun] at he
        cases he
        exact ⟨m, rfl⟩
      · rw [hrun] at he
        cases he
    · rw [normalizeText] at he
      split at he
      · cases he
        exact ⟨_, rfl⟩
      · cases he
  case json =>
    intro hjson text v s htext hv hs
    refine ⟨?_, hlib.loads_canonical v s hs⟩
    rw [normalizeBytes, if_pos hjson, normalizeJson_ok.2 ⟨text, v, s, htext, hv, hs, rfl⟩]
    rfl
  case jsonLines =>
    intro hlines text texts htext hdocs
    refine ⟨?_, hdocs.imp fun line s hp => ?_⟩
    · rw [normalizeBytes, if_neg (not_isJson hlines), if_pos hlines,
        normalizeJsonLines_ok htext ((h hlines text htext).1 texts hdocs)]
      rfl
    · obtain ⟨v, hv, hs⟩ := hp
      rw [hv, hlib.loads_canonical v s hs]
  case idempotent =>
    intro b hb
    rw [normalizeBytes] at hb ⊢
    split_ifs at hb ⊢ with hjson hlines htext
    · cases hrun : normalizeJson lib data with
      | error e => rw [hrun] at hb; cases hb
      | ok b' =>
        rw [hrun] at hb
        cases hb
        obtain ⟨text, v, s, -, -, hs, rfl⟩ := normalizeJson_ok.1 hrun
        rw [normalizeJson_ok.2 ⟨s, v, s, fromUTF8?_toUTF8 s, hlib.loads_canonical v s hs, hs, rfl⟩]
        rfl
    · obtain ⟨m, hrun⟩ | ⟨text, ss, -, hparses, hss, hrun⟩ := h.jsonLines hlines
      · rw [hrun] at hb
        cases hb
      · rw [hrun] at hb
        cases hb
        rw [normalizeJsonLines_written hlib hparses hss]
        rfl
    · cases hrun : normalizeText lib data with
      | error e => rw [hrun] at hb; cases hb
      | ok b' =>
        rw [hrun] at hb
        cases hb
        rw [normalizeText_twice hlib hrun]
        rfl
    · exact hb

/-! ## What a lossy line breaks -/

theorem toUTF8_injective {s t : String} (h : s.toUTF8 = t.toUTF8) : s = t :=
  Option.some.inj ((fromUTF8?_toUTF8 s).symm.trans (h ▸ fromUTF8?_toUTF8 t))

theorem isWhitespace_of_boundary {c : Char} (h : isLineBoundary c = true) : isWhitespace c = true := by
  simp only [isLineBoundary, isWhitespace, Bool.or_eq_true, Bool.and_eq_true, decide_eq_true_eq, beq_iff_eq] at h ⊢
  omega

theorem append_newline_inj {a b r q : List Char} (ha : '\n' ∉ a) (hb : '\n' ∉ b)
    (h : a ++ '\n' :: r = b ++ '\n' :: q) : a = b ∧ r = q := by
  induction a generalizing b with
  | nil =>
    cases b with
    | nil => exact ⟨rfl, (List.cons.inj h).2⟩
    | cons c b => exact absurd ((List.cons.inj h).1 ▸ List.mem_cons_self) hb
  | cons c a ih =>
    cases b with
    | nil => exact absurd ((List.cons.inj h).1 ▸ List.mem_cons_self) ha
    | cons d b =>
      obtain ⟨rfl, h'⟩ := List.cons.inj h
      obtain ⟨rfl, rfl⟩ := ih (fun hm => ha (List.mem_cons_of_mem _ hm)) (fun hm => hb (List.mem_cons_of_mem _ hm)) h'
      exact ⟨rfl, rfl⟩

theorem ofLines_inj {ss ts : List String} (hs : ∀ s ∈ ss, '\n' ∉ s.toList) (ht : ∀ t ∈ ts, '\n' ∉ t.toList)
    (h : ss.flatMap (fun s => s.toList ++ ['\n']) = ts.flatMap fun s => s.toList ++ ['\n']) : ss = ts := by
  induction ss generalizing ts with
  | nil =>
    cases ts with
    | nil => rfl
    | cons t ts => simp at h
  | cons s ss ih =>
    cases ts with
    | nil => simp at h
    | cons t ts =>
      simp only [List.flatMap_cons, List.append_assoc, List.singleton_append] at h
      obtain ⟨hst, hrest⟩ := append_newline_inj (hs s List.mem_cons_self) (ht t List.mem_cons_self) h
      rw [String.toList_inj.1 hst, ih (fun s hm => hs s (List.mem_cons_of_mem _ hm))
        (fun t hm => ht t (List.mem_cons_of_mem _ hm)) hrest]

/-- What the first character of a line that has no newline does. -/
theorem splitlinesFrom_cons {c : Char} (hn : '\n' ∉ c :: chars) (line rest : List Char) :
    (isLineBoundary c = true ∧ chars = [] ∧
      splitlinesFrom line (c :: chars ++ '\n' :: rest) = line.reverse :: splitlinesFrom [] rest) ∨
    (isLineBoundary c = true ∧
      splitlinesFrom line (c :: chars ++ '\n' :: rest) = line.reverse :: splitlinesFrom [] (chars ++ '\n' :: rest)) ∨
    (isLineBoundary c = false ∧
      splitlinesFrom line (c :: chars ++ '\n' :: rest) = splitlinesFrom (c :: line) (chars ++ '\n' :: rest)) := by
  by_cases hreturn : c = '\r' ∧ chars = []
  · obtain ⟨rfl, rfl⟩ := hreturn
    exact .inl ⟨by decide, rfl, by simp [splitlinesFrom]⟩
  · have hnot : ∀ tail, c = '\r' → chars ++ '\n' :: rest = '\n' :: tail → False := by
      intro tail hc htail
      cases chars with
      | nil => exact hreturn ⟨hc, rfl⟩
      | cons d chars =>
        have hd : d = '\n' := (List.cons.inj htail).1
        exact hn (hd ▸ List.mem_cons_of_mem _ List.mem_cons_self)
    rw [List.cons_append, splitlinesFrom.eq_3 _ _ _ hnot]
    cases hc : isLineBoundary c with
    | true => exact .inr (.inl ⟨rfl, if_pos rfl⟩)
    | false => exact .inr (.inr ⟨rfl, if_neg Bool.false_ne_true⟩)

theorem length_shown_cons (line : List Char) (lines : List (List Char)) :
    (shown (line :: lines)).length = (shown lines).length + if blank line then 0 else 1 := by
  cases h : blank line <;> simp [shown, h]

theorem blank_reverse {line : List Char} (h : ∃ c ∈ line, isWhitespace c = false) : blank line.reverse = false := by
  simpa only [blank, List.all_reverse, List.all_eq_false, Bool.not_eq_true] using h

theorem shown_rest (hn : '\n' ∉ chars) (line rest : List Char) :
    (shown (splitlinesFrom [] rest)).length ≤ (shown (splitlinesFrom line (chars ++ '\n' :: rest))).length := by
  induction chars generalizing line with
  | nil =>
    rw [List.nil_append, splitlinesFrom.eq_3 _ _ _ (by simp), if_pos (by decide), length_shown_cons]
    exact Nat.le_add_right _ _
  | cons c chars ih =>
    have ih' := fun l => ih (fun hm => hn (List.mem_cons_of_mem _ hm)) l
    obtain ⟨-, -, h⟩ | ⟨-, h⟩ | ⟨-, h⟩ := splitlinesFrom_cons hn line rest
    · rw [h, length_shown_cons]
      exact Nat.le_add_right _ _
    · rw [h, length_shown_cons]
      exact (ih' []).trans (Nat.le_add_right _ _)
    · rw [h]
      exact ih' _

theorem shown_line (hn : '\n' ∉ chars) (line rest : List Char)
    (hshown : ∃ c ∈ line ++ chars, isWhitespace c = false) :
    (shown (splitlinesFrom [] rest)).length + 1 ≤ (shown (splitlinesFrom line (chars ++ '\n' :: rest))).length := by
  induction chars generalizing line with
  | nil =>
    rw [List.append_nil] at hshown
    rw [List.nil_append, splitlinesFrom.eq_3 _ _ _ (by simp), if_pos (by decide), length_shown_cons,
      blank_reverse hshown, if_neg Bool.false_ne_true]
  | cons c chars ih =>
    have hn' : '\n' ∉ chars := fun hm => hn (List.mem_cons_of_mem _ hm)
    obtain ⟨d, hd, hwhite⟩ := hshown
    have hplace : isLineBoundary c = true → d ∈ line ∨ d ∈ chars := by
      intro hc
      rcases List.mem_append.1 hd with hd | hd
      · exact .inl hd
      · rcases List.mem_cons.1 hd with rfl | hd
        · exact absurd (isWhitespace_of_boundary hc) (by simp [hwhite])
        · exact .inr hd
    obtain ⟨hc, rfl, h⟩ | ⟨hc, h⟩ | ⟨-, h⟩ := splitlinesFrom_cons hn line rest
    · have hline : d ∈ line := (hplace hc).resolve_right (by simp)
      rw [h, length_shown_cons, blank_reverse ⟨d, hline, hwhite⟩, if_neg Bool.false_ne_true]
    · rw [h, length_shown_cons]
      rcases hplace hc with hline | hchars
      · rw [blank_reverse ⟨d, hline, hwhite⟩, if_neg Bool.false_ne_true]
        exact Nat.succ_le_succ (shown_rest hn' [] rest)
      · exact (ih hn' [] ⟨d, by simpa using hchars, hwhite⟩).trans (Nat.le_add_right _ _)
    · rw [h]
      refine ih hn' _ ⟨d, ?_, hwhite⟩
      simp only [List.mem_append, List.mem_cons] at hd ⊢
      tauto

/-- A line boundary between characters that are not white space makes two such lines. -/
theorem shown_cut (hn : '\n' ∉ chars) (line rest : List Char)
    (hline : ∃ c ∈ line, isWhitespace c = false) (hlast : ∃ cs c, chars = cs ++ [c] ∧ isWhitespace c = false)
    (hcut : ∃ c ∈ chars, isLineBoundary c = true) :
    (shown (splitlinesFrom [] rest)).length + 2 ≤ (shown (splitlinesFrom line (chars ++ '\n' :: rest))).length := by
  induction chars generalizing line with
  | nil =>
    obtain ⟨c, hc, -⟩ := hcut
    cases hc
  | cons c chars ih =>
    have hn' : '\n' ∉ chars := fun hm => hn (List.mem_cons_of_mem _ hm)
    obtain ⟨cs, d, hcs, hwhite⟩ := hlast
    have hend : (cs = [] ∧ c = d ∧ chars = []) ∨ ∃ cs', chars = cs' ++ [d] := by
      cases cs with
      | nil => exact .inl ⟨rfl, List.cons.inj hcs⟩
      | cons e cs' => exact .inr ⟨cs', (List.cons.inj hcs).2⟩
    have hboundary : isLineBoundary c = true → ∃ cs', chars = cs' ++ [d] := by
      intro hc
      refine hend.resolve_left fun hone => ?_
      rw [hone.2.1] at hc
      exact absurd (isWhitespace_of_boundary hc) (by simp [hwhite])
    obtain ⟨hc, rfl, -⟩ | ⟨hc, h⟩ | ⟨hc, h⟩ := splitlinesFrom_cons hn line rest
    · obtain ⟨cs', hcs'⟩ := hboundary hc
      simp at hcs'
    · obtain ⟨cs', rfl⟩ := hboundary hc
      rw [h, length_shown_cons, blank_reverse hline, if_neg Bool.false_ne_true]
      exact Nat.succ_le_succ (shown_line hn' [] rest ⟨d, by simp, hwhite⟩)
    · rw [h]
      obtain ⟨b, hb, hb'⟩ := hcut
      have hmem : b ∈ chars := by
        rcases List.mem_cons.1 hb with rfl | hb
        · rw [hc] at hb'
          cases hb'
        · exact hb
      obtain ⟨cs', hcs'⟩ := hend.resolve_left fun hone => by
        rw [hone.2.2] at hmem
        cases hmem
      exact ih hn' _ (hline.imp fun _ hx => ⟨List.mem_cons_of_mem _ hx.1, hx.2⟩) ⟨cs', d, hcs', hwhite⟩ ⟨b, hmem, hb'⟩

/-- Cut at every line boundary, the lines that were written are as many only if none holds a boundary. -/
theorem shown_ofLines (hlib : lib.Faithful) (hs : ∀ s ∈ ss, ∃ v, lib.canonicalJson v = .ok (.valid s)) :
    ss.length ≤ (shown (splitlines (ofLines ss).toList)).length ∧
      ((∃ s ∈ ss, ∃ c ∈ s.toList, isLineBoundary c = true) →
        ss.length < (shown (splitlines (ofLines ss).toList)).length) := by
  induction ss with
  | nil => exact ⟨Nat.zero_le _, fun ⟨s, hs', _⟩ => by cases hs'⟩
  | cons s ss ih =>
    have ih' := ih fun t ht => hs t (List.mem_cons_of_mem _ ht)
    obtain ⟨v, hv⟩ := hs s List.mem_cons_self
    have hn := hlib.canonical_newline v s hv
    obtain ⟨c, cs, hhead, hwhite⟩ := hlib.canonical_head v s hv
    have hlast := hlib.canonical_last v s hv
    simp only [splitlines, ofLines, String.toList_ofList, List.flatMap_cons, List.append_assoc, List.singleton_append,
      List.length_cons] at ih' ⊢
    rw [hhead] at hn hlast ⊢
    have hone := shown_line hn [] (ss.flatMap fun s => s.toList ++ ['\n']) ⟨c, by simp, hwhite⟩
    refine ⟨by omega, fun hcut => ?_⟩
    obtain ⟨t, ht, b, hb, hb'⟩ := hcut
    rcases List.mem_cons.1 ht with rfl | ht
    · obtain ⟨hc, -⟩ | ⟨hc, -⟩ | ⟨-, h⟩ := splitlinesFrom_cons hn [] (ss.flatMap fun s => s.toList ++ ['\n'])
      · exact absurd (isWhitespace_of_boundary hc) (by simp [hwhite])
      · exact absurd (isWhitespace_of_boundary hc) (by simp [hwhite])
      · have hmem : b ∈ cs := by
          rw [hhead] at hb
          rcases List.mem_cons.1 hb with rfl | hb
          · exact absurd (isWhitespace_of_boundary hb') (by simp [hwhite])
          · exact hb
        obtain ⟨ds, d, hds, hd⟩ := hlast
        have hlast' : ∃ ds d, cs = ds ++ [d] ∧ isWhitespace d = false := by
          cases ds with
          | nil =>
            rw [(List.cons.inj hds).2] at hmem
            cases hmem
          | cons e ds => exact ⟨ds, d, (List.cons.inj hds).2, hd⟩
        have htwo := shown_cut (fun hm => hn (List.mem_cons_of_mem _ hm)) [c]
          (ss.flatMap fun s => s.toList ++ ['\n']) ⟨c, by simp, hwhite⟩ hlast' ⟨b, hmem, hb'⟩
        rw [← h] at htwo
        omega
    · have hmore := ih'.2 ⟨t, ht, b, hb, hb'⟩
      omega

theorem joinLines_some {texts : List Text} (h : joinLines texts = some chars) :
    ∃ ss : List String, texts = ss.map .valid ∧ chars = ss.flatMap fun s => s.toList ++ ['\n'] := by
  induction texts generalizing chars with
  | nil => exact ⟨[], rfl, (Option.some.inj h).symm⟩
  | cons t texts ih =>
    cases t with
    | surrogates cs => cases h
    | valid s =>
      obtain ⟨rest, hrest, rfl⟩ := Option.map_eq_some_iff.1 h
      obtain ⟨ss, rfl, rfl⟩ := ih hrest
      exact ⟨s :: ss, rfl, by simp⟩

theorem normalizeJsonLines_eq_ok (htext : String.fromUTF8? data = some text)
    (h : normalizeJsonLines lib data = .ok b) : ∃ ss : List String,
      List.Forall₂ (Parses lib) (shown (splitlines text.toList)) (ss.map .valid) ∧ b = (ofLines ss).toUTF8 := by
  simp only [normalizeJsonLines, htext] at h
  cases hrun : normalizeLines lib 1 (splitlines text.toList) with
  | error e => rw [hrun] at h; cases h
  | ok texts =>
    rw [hrun] at h
    dsimp only at h
    cases hjoin : joinLines texts with
    | none => rw [hjoin] at h; cases h
    | some chars =>
      rw [hjoin] at h
      obtain ⟨ss, rfl, rfl⟩ := joinLines_some hjoin
      exact ⟨ss, (normalizeLines_ok _ 1 _).1 hrun, (Except.ok.inj h).symm⟩

theorem canonical_of_parses
    (h : List.Forall₂ (Parses lib) lines (ss.map .valid)) : ∀ s ∈ ss, ∃ v, lib.canonicalJson v = .ok (.valid s) := by
  induction ss generalizing lines with
  | nil => exact fun s hs => by cases hs
  | cons t ss ih =>
    obtain ⟨line, lines, ⟨v, -, hv⟩, hrest, rfl⟩ := List.forall₂_cons_right_iff.1 h
    intro s hs
    rcases List.mem_cons.1 hs with rfl | hs
    · exact ⟨v, hv⟩
    · exact ih hrest s hs

theorem canonical_unique (hlib : lib.Faithful) {ss ts : List String}
    (hs : ∀ s ∈ ss, ∃ v, lib.canonicalJson v = .ok (.valid s)) (ht : ∀ s ∈ ts, ∃ v, lib.canonicalJson v = .ok (.valid s))
    (h : (ofLines ss).toUTF8 = (ofLines ts).toUTF8) : ss = ts := by
  have hchars := String.ofList_inj.1 (toUTF8_injective h)
  refine ofLines_inj (fun s hmem => ?_) (fun t hmem => ?_) hchars
  · obtain ⟨v, hv⟩ := hs s hmem
    exact hlib.canonical_newline v s hv
  · obtain ⟨v, hv⟩ := ht t hmem
    exact hlib.canonical_newline v t hv

theorem normalizeBytes_lines (hlines : isJsonLines lib mediaType) (data : ByteArray) :
    normalizeBytes lib data mediaType = (normalizeJsonLines lib data).map some := by
  rw [normalizeBytes, if_neg (not_isJson hlines), if_pos hlines]

/-- Normalisation of lines that are lossy fails, drops documents or changes what it wrote. -/
theorem lossless_of_normalises (hlib : lib.Faithful) (h : Normalises lib data mediaType) :
    Lossless lib data mediaType := by
  intro hlines text htext
  have hbytes := normalizeBytes_lines hlines
  constructor
  · intro texts hdocs
    obtain ⟨hrun, -⟩ := h.jsonLines hlines text texts htext hdocs
    rw [hbytes] at hrun
    obtain ⟨b, hb, hsome⟩ : ∃ b, normalizeJsonLines lib data = .ok b ∧ b = (ofLines texts).toUTF8 := by
      cases hok : normalizeJsonLines lib data with
      | error e => rw [hok] at hrun; cases hrun
      | ok b => rw [hok] at hrun; exact ⟨b, rfl, Option.some.inj (Except.ok.inj hrun)⟩
    obtain ⟨ss, hparses, rfl⟩ := normalizeJsonLines_eq_ok htext hb
    have hvalid : ∀ s ∈ texts, ∃ v, lib.canonicalJson v = .ok (.valid s) :=
      canonical_of_parses (List.forall₂_map_right_iff.2 hdocs)
    obtain rfl := canonical_unique hlib (canonical_of_parses hparses) hvalid hsome
    exact hparses
  · intro texts hparses t ht
    have hlinesOk := (normalizeLines_ok _ 1 _).2 hparses
    cases hjoin : joinLines texts with
    | none =>
      have hfail : normalizeJsonLines lib data = .error .unicodeEncode := by
        simp only [normalizeJsonLines, htext, hlinesOk, hjoin]
      obtain ⟨m, hm⟩ := h.decides .unicodeEncode (by rw [hbytes, hfail]; rfl)
      cases hm
    | some chars =>
      obtain ⟨ss, rfl, -⟩ := joinLines_some hjoin
      obtain ⟨s, hs, rfl⟩ := List.mem_map.1 ht
      refine ⟨s, rfl, fun c hc => ?_⟩
      have hfirst := normalizeJsonLines_ok htext hparses
      have hagain := h.idempotent (ofLines ss).toUTF8 (by rw [hbytes, hfirst]; rfl)
      rw [hbytes] at hagain
      have hsecond : normalizeJsonLines lib (ofLines ss).toUTF8 = .ok (ofLines ss).toUTF8 := by
        cases hok : normalizeJsonLines lib (ofLines ss).toUTF8 with
        | error e => rw [hok] at hagain; cases hagain
        | ok b => rw [hok] at hagain; rw [Option.some.inj (Except.ok.inj hagain)]
      obtain ⟨ts, hts, hsame⟩ := normalizeJsonLines_eq_ok (fromUTF8?_toUTF8 _) hsecond
      have hcanonical := canonical_of_parses hparses
      obtain rfl := canonical_unique hlib hcanonical (canonical_of_parses hts) hsame
      have hlength := hts.length_eq
      rw [List.length_map] at hlength
      rw [← Bool.not_eq_true]
      intro hcut
      have hmore := (shown_ofLines hlib hcanonical).2 ⟨s, hs, c, hc, hcut⟩
      omega

/-- Normalisation does what it should exactly where nothing is lost. -/
theorem normalises_iff (hlib : lib.Faithful) (data : ByteArray) (mediaType : String) :
    Normalises lib data mediaType ↔ Lossless lib data mediaType :=
  ⟨lossless_of_normalises hlib, normalises_of_lossless hlib⟩

end

/-! ## A lone surrogate in a line -/

/-- The document whose only value is a string of one lone surrogate, written as an escape. -/
def surrogateDocument : String := "\"\\ud800\""

def sampleLibraries : Libraries Unit where
  loads s := if s = surrogateDocument then .ok () else .error "Expecting value"
  canonicalJson _ := .ok (.surrogates [34, 0xd800, 34])
  nfc s := s
  lower s := s
  decodeError _ := "invalid start byte"
  encodeError _ := "surrogates not allowed"

theorem sampleLibraries_faithful : sampleLibraries.Faithful where
  loads_canonical _ _ h := by cases h
  canonical_newline _ _ h := by cases h
  canonical_head _ _ h := by cases h
  canonical_last _ _ h := by cases h
  nfc_nfc _ := rfl
  nfc_return _ h := h

theorem sample_isJsonLines : isJsonLines sampleLibraries "application/jsonl" := by decide +kernel

theorem normalises_sample :
    Normalises sampleLibraries surrogateDocument.toUTF8 "application/json" ↔
      Lossless sampleLibraries surrogateDocument.toUTF8 "application/json" :=
  normalises_iff sampleLibraries_faithful surrogateDocument.toUTF8 "application/json"

theorem surrogate_raised :
    normalizeBytes sampleLibraries surrogateDocument.toUTF8 "application/jsonl" = .error .unicodeEncode ∧
      ¬ ∀ (lib : Libraries Unit) (data : ByteArray) (mediaType : String), lib.Faithful → Normalises lib data mediaType := by
  have hlines : splitlines surrogateDocument.toList = [surrogateDocument.toList] := by decide +kernel
  have hrun : normalizeLines sampleLibraries 1 [surrogateDocument.toList] =
      .ok [.surrogates [34, 0xd800, 34]] := by
    decide +kernel
  have hraised : normalizeBytes sampleLibraries surrogateDocument.toUTF8 "application/jsonl" = .error .unicodeEncode := by
    simp only [normalizeBytes_lines sample_isJsonLines, normalizeJsonLines, fromUTF8?_toUTF8, hlines, hrun, joinLines,
      Except.map]
  refine ⟨hraised, fun h => ?_⟩
  obtain ⟨m, hm⟩ := (h sampleLibraries _ "application/jsonl" sampleLibraries_faithful).decides _ hraised
  cases hm

end VeraMono.Normalization

import Std.Data.String.ToNat
import VeraMono.Framework.LengthPrefix
import VeraMono.Model.PcContracts

/-!
# Text tuples

The bytes of `encode_text_tuple` are texts behind their lengths, so that the library's reader reads
every tuple back (`decodeTextTuple_encodeTextTuple`). What `sha256_domain_text_tuple` hashes gives
back the domain too, which has no line feed in it (`domainMaterial_inj`).
-/

namespace VeraMono

open Framework

variable {s t : String} {b : UInt8}

/-! ## UTF-8 -/

theorem toList_loop (bytes : ByteArray) (i : Nat) (r : List UInt8) :
    ByteArray.toList.loop bytes i r = r.reverse ++ bytes.data.toList.drop i := by
  fun_induction ByteArray.toList.loop bytes i r with
  | case1 i r hi ih =>
    have hi' : i < bytes.data.toList.length := by simpa using hi
    rw [ih, List.drop_eq_getElem_cons hi', List.reverse_cons, List.append_assoc]
    congr 2
    simp [ByteArray.get!, hi]
  | case2 i r hi =>
    have hi' : bytes.data.toList.length ≤ i := by simpa using hi
    rw [List.drop_eq_nil_of_le hi', List.append_nil]

/-- The bytes of a text are those of its characters. -/
theorem utf8_eq (s : String) : utf8 s = s.toList.flatMap String.utf8EncodeChar := by
  have hbytes : s.toUTF8 = (s.toList.flatMap String.utf8EncodeChar).toByteArray := by
    rw [String.toUTF8_eq_toByteArray, ← String.ofList_toList (s := s), String.toByteArray_ofList, String.toList_ofList]
    rfl
  rw [utf8, ByteArray.toList, toList_loop, hbytes, List.data_toByteArray]
  simp

theorem utf8_append (s t : String) : utf8 (s ++ t) = utf8 s ++ utf8 t := by
  rw [utf8_eq, utf8_eq, utf8_eq, String.toList_append, List.flatMap_append]

/-- A text from its bytes. -/
def decodeUtf8 (bytes : List UInt8) : Option String := String.fromUTF8? bytes.toByteArray

theorem decodeUtf8_utf8 (s : String) : decodeUtf8 (utf8 s) = some s := by
  have hbytes : (utf8 s).toByteArray = s.toByteArray := by
    rw [utf8_eq, ← String.ofList_toList (s := s), String.toByteArray_ofList, String.toList_ofList]
    rfl
  rw [decodeUtf8, hbytes, String.fromUTF8?, dif_pos s.isValidUTF8]
  rfl

theorem utf8_injective : Function.Injective utf8 := fun s t h =>
  Option.some.inj ((decodeUtf8_utf8 s).symm.trans (h ▸ decodeUtf8_utf8 t))

/-- A byte below 128 stands for its own character. -/
theorem mem_utf8 (hb : b.toNat < 128) (h : b ∈ utf8 s) : ∃ c ∈ s.toList, c.toNat = b.toNat := by
  rw [utf8_eq, List.mem_flatMap] at h
  obtain ⟨c, hc, h⟩ := h
  refine ⟨c, hc, ?_⟩
  have hlt : c.val.toNat < 1114112 := by
    have hvalid := c.valid
    rw [UInt32.isValidChar, Nat.isValidChar] at hvalid
    omega
  unfold String.utf8EncodeChar at h
  dsimp only at h
  split at h
  · obtain rfl := List.mem_singleton.1 h
    rw [UInt8.toNat_ofNat']
    change c.val.toNat = _
    omega
  -- every byte of a longer character is at least 128
  split at h
  · simp only [List.mem_cons, List.not_mem_nil, or_false] at h
    rcases h with rfl | rfl <;> (rw [UInt8.toNat_ofNat'] at hb; omega)
  split at h
  · simp only [List.mem_cons, List.not_mem_nil, or_false] at h
    rcases h with rfl | rfl | rfl <;> (rw [UInt8.toNat_ofNat'] at hb; omega)
  · simp only [List.mem_cons, List.not_mem_nil, or_false] at h
    rcases h with rfl | rfl | rfl | rfl <;> (rw [UInt8.toNat_ofNat'] at hb; omega)

/-! ## Decimal lengths -/

def decimal : Numeral UInt8 where
  digits n := utf8 (toString n)
  value bytes := (decodeUtf8 bytes).elim 0 fun s => Nat.ofDigitChars 10 s.toList 0
  value_digits n := by
    rw [decodeUtf8_utf8]
    change Nat.ofDigitChars 10 n.repr.toList 0 = n
    rw [Nat.toList_repr, Nat.ofDigitChars_toDigits (by decide) (by decide)]

/-- A byte that is no digit is in no decimal numeral. -/
theorem decimal_free (hb : b.toNat < 128) (hdigit : b.toNat < 48 ∨ 57 < b.toNat) : decimal.Free b := by
  intro n h
  obtain ⟨c, hc, hcb⟩ := mem_utf8 hb h
  have hmem : c ∈ Nat.toDigits 10 n := Nat.toList_repr ▸ hc
  have hisDigit := Nat.isDigit_of_mem_toDigits (by decide) (by decide) hmem
  rw [Char.isDigit, Bool.and_eq_true, decide_eq_true_eq, decide_eq_true_eq] at hisDigit
  have hlow : 48 ≤ c.toNat := hisDigit.1
  have hhigh : c.toNat ≤ 57 := hisDigit.2
  omega

/-! ## Tuples -/

/-- The separators after a length and after the number of fields. -/
def colon : UInt8 := 58

def bar : UInt8 := 124

theorem utf8_colon : utf8 ":" = [colon] := by
  rw [utf8_eq]
  rfl

theorem utf8_bar : utf8 "|" = [bar] := by
  rw [utf8_eq]
  rfl

theorem utf8_newline : utf8 "\n" = [10] := by
  rw [utf8_eq]
  rfl

theorem encodeTextTuple_eq (fields : List String) :
    encodeTextTuple fields = utf8 "T1|" ++ frameTuple decimal colon bar (fields.map utf8) := by
  have hcount : utf8 s!"T1|{fields.length}|" = utf8 "T1|" ++ (decimal.digits fields.length ++ [bar]) := by
    change utf8 ("T1|" ++ toString fields.length ++ "|") = _
    rw [utf8_append, utf8_append, utf8_bar, List.append_assoc]
    rfl
  have hfield : ∀ field : String, utf8 s!"{(utf8 field).length}:" ++ utf8 field = frame decimal colon (utf8 field) := by
    intro field
    change utf8 (toString (utf8 field).length ++ ":") ++ utf8 field = _
    rw [utf8_append, utf8_colon, List.append_assoc]
    rfl
  rw [encodeTextTuple, hcount, frameTuple, List.length_map, List.flatMap_map]
  simp only [hfield, List.append_assoc, List.singleton_append]

def decodeTextTuple (bytes : List UInt8) : Option (List String) :=
  (unframeTuple decimal colon bar (bytes.drop 3)).mapM decodeUtf8

theorem mapM_decodeUtf8 (fields : List String) : (fields.map utf8).mapM decodeUtf8 = some fields := by
  induction fields with
  | nil => rfl
  | cons field fields ih =>
    rw [List.map_cons, List.mapM_cons, decodeUtf8_utf8, ih]
    rfl

theorem decodeTextTuple_encodeTextTuple (fields : List String) : decodeTextTuple (encodeTextTuple fields) = some fields := by
  have hhead : (utf8 "T1|").length = 3 := by rw [utf8_eq]; rfl
  have hframes := unframeTuple_frameTuple (decimal_free (b := colon) (by decide) (by decide))
    (decimal_free (b := bar) (by decide) (by decide)) (fields.map utf8) []
  rw [List.append_nil] at hframes
  rw [decodeTextTuple, encodeTextTuple_eq, ← hhead, List.drop_left, hframes, mapM_decodeUtf8]

theorem encodeTextTuple_injective : Function.Injective encodeTextTuple := fun fields fields' h =>
  Option.some.inj ((decodeTextTuple_encodeTextTuple fields).symm.trans (h ▸ decodeTextTuple_encodeTextTuple fields'))

/-! ## Fields of any type -/

variable {fields : List PyValue} {bytes : List UInt8}

theorem fieldTexts_ok (index : Nat) {texts : List Text} :
    fieldTexts index fields = .ok texts ↔ fields = texts.map PyValue.str := by
  induction fields generalizing index texts with
  | nil => cases texts <;> simp [fieldTexts]
  | cons field fields ih =>
    cases field with
    | str t =>
      rw [fieldTexts, map_eq_ok]
      constructor
      · rintro ⟨rest, hrest, rfl⟩
        rw [(ih (index + 1)).1 hrest, List.map_cons]
      · intro h
        cases texts with
        | nil => cases h
        | cons text texts =>
          obtain ⟨htext, hfields⟩ := List.cons.inj h
          cases htext
          exact ⟨texts, (ih (index + 1)).2 hfields, rfl⟩
    | _ => cases texts <;> simp [fieldTexts]

theorem mapM_encodeText {texts : List Text} {ss : List String} :
    texts.mapM encodeText = .ok ss ↔ texts = ss.map Text.valid := by
  induction texts generalizing ss with
  | nil =>
    rw [List.mapM_nil, pure_ok]
    cases ss <;> simp
  | cons text texts ih =>
    simp only [List.mapM_cons, bind_eq_ok, pure_ok]
    constructor
    · rintro ⟨s, hs, ss, hss, rfl⟩
      cases text with
      | surrogates codePoints => cases hs
      | valid u =>
        cases hs
        rw [ih.1 hss, List.map_cons]
    · intro h
      cases ss with
      | nil => cases h
      | cons s ss =>
        obtain ⟨rfl, htexts⟩ := List.cons.inj h
        exact ⟨s, rfl, ss, ih.2 htexts, rfl⟩

/-- `encode_text_tuple` succeeds on the tuples of texts that have an encoding. -/
theorem encodeFields_ok :
    encodeFields fields = .ok bytes ↔ ∃ ss : List String, fields = ss.map pyStr ∧ bytes = encodeTextTuple ss := by
  simp only [encodeFields, bind_eq_ok, pure_ok, fieldTexts_ok, mapM_encodeText]
  constructor
  · rintro ⟨texts, rfl, ss, rfl, rfl⟩
    exact ⟨ss, List.map_map, rfl⟩
  · rintro ⟨ss, rfl, rfl⟩
    exact ⟨ss.map Text.valid, List.map_map.symm, ss, rfl, rfl⟩

/-! ## Domains -/

theorem domainMaterial_ok {domain : PyValue} :
    domainMaterial domain fields = .ok bytes ↔ ∃ (name : String) (ss : List String),
      domain = pyStr name ∧ name ≠ "" ∧ '\n' ∉ name.toList ∧ '\r' ∉ name.toList ∧ fields = ss.map pyStr ∧
        bytes = utf8 name ++ (10 : UInt8) :: encodeTextTuple ss := by
  have hpoint : ∀ {c : Char} {s : String}, c.toNat ∈ (Text.valid s).codePoints ↔ c ∈ s.toList := by
    intro c s
    rw [Text.codePoints, List.mem_map]
    constructor
    · rintro ⟨d, hd, hcode⟩
      exact Char.toNat_inj.1 hcode ▸ hd
    · exact fun h => ⟨c, h, rfl⟩
  cases domain with
  | str t =>
    simp only [domainMaterial, ite_error_ok, ↓throw_bind, bind_eq_ok, pure_ok, encodeFields_ok, not_or]
    constructor
    · rintro ⟨⟨hne, hlf, hcr⟩, name, hname, tuple, ⟨ss, rfl, rfl⟩, rfl⟩
      cases t with
      | surrogates codePoints => cases hname
      | valid s =>
        cases hname
        refine ⟨name, ss, rfl, ?_, mt hpoint.2 hlf, mt hpoint.2 hcr, rfl, ?_⟩
        · rintro rfl
          exact hne rfl
        · rw [utf8_append, List.append_assoc, utf8_newline]
          rfl
    · rintro ⟨name, ss, htext, hne, hlf, hcr, rfl, rfl⟩
      cases htext
      refine ⟨⟨?_, mt hpoint.1 hlf, mt hpoint.1 hcr⟩, name, rfl, _, ⟨ss, rfl, rfl⟩, ?_⟩
      · rw [Text.codePoints, List.map_eq_nil_iff, String.toList_eq_nil_iff]
        exact hne
      · rw [utf8_append, List.append_assoc, utf8_newline]
        rfl
  | _ =>
    constructor
    · exact fun h => by cases h
    · rintro ⟨name, ss, h, -⟩
      cases h

theorem domainMaterial_inj {domain domain' : PyValue} {fields fields' : List PyValue}
    (h : domainMaterial domain fields = .ok bytes) (h' : domainMaterial domain' fields' = .ok bytes) :
    domain = domain' ∧ fields = fields' := by
  obtain ⟨name, ss, rfl, -, hline, -, rfl, rfl⟩ := domainMaterial_ok.1 h
  obtain ⟨name', ss', rfl, -, hline', -, rfl, heq⟩ := domainMaterial_ok.1 h'
  have hfree : ∀ {name : String}, '\n' ∉ name.toList → (10 : UInt8) ∉ utf8 name := by
    intro name hline hmem
    obtain ⟨c, hc, hcode⟩ := mem_utf8 (by decide) hmem
    have hchar : c = '\n' := Char.toNat_inj.1 (hcode.trans (by decide : UInt8.toNat 10 = '\n'.toNat))
    exact hline (hchar ▸ hc)
  obtain ⟨hname, htuple⟩ := until_inj (hfree hline) (hfree hline') heq
  rw [utf8_injective hname, encodeTextTuple_injective htuple]
  exact ⟨rfl, rfl⟩

end VeraMono

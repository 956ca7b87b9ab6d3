import VeraMono.Model.Intranel
import VeraMono.Proof.IntranelJson
import VeraMono.Proof.StoredLedgers

/-!
# Intranel messages: the codec

A message that the constructor accepts is read back from its mapping just when none of its tuples
has a `None` in it. A parsed message has none, and is read back. `construct_ok` and
`parseMessage_ok` say what is accepted, `parseMessage_toMapping` reads it back, and `message_codec`
joins them; `null_constraint_rejected` is a message that is not read back.
-/

namespace VeraMono

open Framework

namespace Intranel

variable {rt : IntranelRuntime} {field : String}

/-! ## Checks of values that passed them -/

variable {ss : List (Option String)} {v : PyValue}

theorem requireToken_again {t : Text} (h : requireToken rt field v = .ok t) :
    requireToken rt field (.str t) = .ok t := by
  rw [requireToken] at h
  split at h
  · cases h
  · obtain ⟨hbounded, rfl⟩ := by simpa only [ite_error_ok, Except.ok.injEq] using h
    exact if_neg hbounded

theorem optionalToken_again {t : Option Text} (h : optionalToken rt field v = .ok t) :
    optionalToken rt field (optionalText t) = .ok t := by
  rw [optionalToken.eq_def] at h
  split at h
  · cases h
    rfl
  · obtain ⟨t, ht, rfl⟩ := map_eq_ok.1 h
    exact map_eq_ok.2 ⟨t, requireToken_again ht, rfl⟩

theorem optionalString_again {s : Option String} (h : optionalString field v = .ok s) :
    optionalString field (optionalValue s) = .ok s := by
  rw [optionalString.eq_def] at h
  split at h
  · cases h
    rfl
  · split at h
    · cases h
    · obtain ⟨hne, h⟩ := by simpa only [ite_error_ok] using h
      obtain ⟨s, hs, rfl⟩ := map_eq_ok.1 h
      obtain rfl := encodes_ok hs
      change (if (Text.valid s).codePoints = [] then _
        else (encodes field maxScalarStringBytes (.valid s)).map some) = _
      rw [if_neg hne, hs]
      rfl

theorem optionalString_text {s : String} {r : Option String} (h : optionalString field (textValue s) = .ok r) :
    r = some s := by
  change (if (Text.valid s).codePoints = [] then _
    else (encodes field maxScalarStringBytes (.valid s)).map some) = _ at h
  obtain ⟨-, h⟩ := by simpa only [ite_error_ok] using h
  obtain ⟨s', hs, rfl⟩ := map_eq_ok.1 h
  rw [Text.valid.inj (encodes_ok hs)]

theorem mapM_again {items : List PyValue} (h : items.mapM (optionalString field) = .ok ss) :
    ss.length = items.length ∧ (ss.map optionalValue).mapM (optionalString field) = .ok ss := by
  induction items generalizing ss with
  | nil =>
    cases h
    exact ⟨rfl, rfl⟩
  | cons v vs ih =>
    simp only [List.mapM_cons, bind_eq_ok, pure_ok] at h
    obtain ⟨s, hs, ss, hss, rfl⟩ := h
    obtain ⟨hlen, hagain⟩ := ih hss
    refine ⟨congrArg Nat.succ hlen, ?_⟩
    simp only [List.map_cons, List.mapM_cons, optionalString_again hs, hagain, ok_bind]
    rfl

theorem stringItems_again {items : List PyValue} (h : stringItems field items = .ok ss) :
    stringItems field (ss.map optionalValue) = .ok ss := by
  obtain ⟨hle, h⟩ := by simpa only [stringItems, ite_error_ok] using h
  obtain ⟨hlen, hagain⟩ := mapM_again h
  rw [stringItems, List.length_map, hlen, if_neg hle, hagain]

theorem keptTuple_again (h : keptTuple field v = .ok ss) :
    stringItems field (ss.map optionalValue) = .ok ss := by
  rw [keptTuple.eq_def] at h
  split at h
  · exact stringItems_again h
  · cases h

theorem mapM_textValue {items : List String}
    (h : (items.map textValue).mapM (optionalString field) = .ok ss) : ss = items.map some := by
  induction items generalizing ss with
  | nil =>
    cases h
    rfl
  | cons s items ih =>
    simp only [List.map_cons, List.mapM_cons, bind_eq_ok, pure_ok] at h
    obtain ⟨r, hr, ss, hss, rfl⟩ := h
    rw [optionalString_text hr, ih hss, List.map_cons]

theorem keptTuple_tupleValue {items : List String}
    (h : keptTuple field (tupleValue items) = .ok ss) : ss = items.map some := by
  obtain ⟨-, h⟩ := by simpa only [keptTuple, tupleValue, stringItems, ite_error_ok] using h
  exact mapM_textValue h

theorem parseTimestamp_again {o : Option (String × Rat)} (h : parseTimestamp rt field v = .ok o) :
    parseTimestamp rt field (optionalValue (o.map Prod.fst)) = .ok o := by
  obtain ⟨s, hs, h⟩ := by simpa only [parseTimestamp, bind_eq_ok] using h
  have hagain := optionalString_again hs
  cases s with
  | none =>
    cases h
    rfl
  | some raw =>
    cases htime : rt.fromisoformat raw with
    | invalid => simp only [htime, throw_ok] at h
    | naive => simp only [htime, throw_ok] at h
    | aware instant =>
      obtain rfl : o = some (raw, instant) := by simpa only [htime, pure_ok] using h
      rw [parseTimestamp, Option.map_some, hagain, ok_bind]
      simp only [htime]
      rfl

theorem freezeReceipt_again {r : Option (List (String × Json))} (h : freezeReceipt v = .ok r) :
    freezeReceipt (receiptValue r) = .ok r ∧ checkReceipt (receiptValue r) = .ok () := by
  rw [freezeReceipt.eq_def] at h
  split at h
  · cases h
    exact ⟨rfl, rfl⟩
  · obtain ⟨j, hj, h⟩ := bind_eq_ok.1 h
    cases j with
    | obj entries =>
      cases h
      refine ⟨?_, rfl⟩
      change (freezeJson (thawJson (.obj entries)) "receipt" >>= _) = _
      rw [(freezeJson_ok hj).2.2, ok_bind]
      rfl
    | _ => cases h

theorem checkPriority_again {i : Int} (h : checkPriority v = .ok i) :
    checkPriority (.int i) = .ok i := by
  rw [checkPriority.eq_def] at h
  split at h
  · split at h
    · cases h
      rename_i hbound
      exact if_pos hbound
    · cases h
  · cases h

/-! ## Addresses and members -/

theorem isNamespace_no_colon {cs : List Char} (h : isNamespace cs = true) :
    ∀ c ∈ cs, decide (c ≠ ':') = true := by
  cases cs with
  | nil => cases h
  | cons c cs =>
    have hletter : ∀ c : Char, (lowerLetter c || c.isDigit || c = '_' || c = '-') = true → c ≠ ':' := by
      rintro c hc rfl
      revert hc
      decide
    obtain ⟨hc, hcs⟩ := by simpa only [isNamespace, Bool.and_eq_true, List.all_eq_true] using h
    intro c' hc'
    rcases List.mem_cons.1 hc' with rfl | hc'
    · exact decide_eq_true (hletter _ (by simp [hc]))
    · exact decide_eq_true (hletter _ (hcs _ hc'))

theorem takeWhile_colon {scope : List Char} (node : List Char) (h : ∀ c ∈ scope, decide (c ≠ ':') = true) :
    (scope ++ ':' :: node).takeWhile (fun c => c ≠ ':') = scope ∧
      ((scope ++ ':' :: node).dropWhile fun c => c ≠ ':').tail = node := by
  rw [List.takeWhile_append_of_pos h, List.dropWhile_append_of_pos h]
  simp

theorem ofText_text (shown : String) (a : Address) : Address.ofText shown (.valid a.text) = .ok a := by
  have hvalid := a.valid
  simp only [isAddress, Bool.and_eq_true, decide_eq_true_eq] at hvalid
  obtain ⟨htake, hdrop⟩ := takeWhile_colon a.node (isNamespace_no_colon hvalid.1.1)
  have hchars : a.text.toList = a.scope ++ ':' :: a.node := String.toList_ofList
  simp only [Address.ofText, hchars, htake, hdrop, a.valid, dite_true]

theorem parse_text (a : Address) : Address.parse rt (textValue a.text) = .ok a := by
  have hvalid := a.valid
  simp only [isAddress, Bool.and_eq_true, decide_eq_true_eq] at hvalid
  have hbound : ¬ (Text.valid a.text).codePoints.length > maxAddressLength := by
    simp only [Text.codePoints, Address.text, String.toList_ofList, List.length_map, List.length_append,
      List.length_cons]
    omega
  exact (if_neg hbound).trans (ofText_text _ a)

theorem memberOf_value {α : Type} {members : List α} {value : α → String} {name : String} {a : α}
    (ha : a ∈ members) (hinj : ∀ b ∈ members, value b = value a → b = a) :
    memberOf rt members value name (textValue (value a)) = .ok a := by
  rw [memberOf.eq_def]
  cases hfind : members.find? fun b => (textValue (value a)).keyText = some (.valid (value b)) with
  | none => exact absurd (List.find?_eq_none.1 hfind a ha) (by simp [textValue, PyValue.keyText])
  | some b =>
    have hb := List.find?_some hfind
    obtain rfl := hinj b (List.mem_of_find?_eq_some hfind) (by simpa [textValue, PyValue.keyText, eq_comm] using hb)
    rfl

theorem performative_again (p : Performative) :
    memberOf rt performatives Performative.value "Performative" (textValue p.value) = .ok p :=
  memberOf_value (by cases p <;> decide) (by cases p <;> decide)

theorem effectClass_again (e : EffectClass) :
    memberOf rt effectClasses EffectClass.value "EffectClass" (textValue e.value) = .ok e :=
  memberOf_value (by cases e <;> decide) (by cases e <;> decide)

theorem securityProfile_again (s : SecurityProfile) :
    memberOf rt securityProfiles SecurityProfile.value "SecurityProfile" (textValue s.value) = .ok s :=
  memberOf_value (by cases s <;> decide) (by cases s <;> decide)

theorem responseOf_again (p : Option Performative) :
    responseOf rt (optionalValue (p.map Performative.value)) = .ok p := by
  cases p with
  | none => rfl
  | some p => exact map_eq_ok.2 ⟨p, performative_again p, rfl⟩

/-! ## Well-formed messages -/

namespace IntranelMessage

/-- The fields of a message, and the message, pass their checks. -/
structure WellFormed (rt : IntranelRuntime) (m : IntranelMessage) : Prop where
  messageId : requireToken rt "message_id" (.str m.messageId) = .ok m.messageId
  conversationId : requireToken rt "conversation_id" (.str m.conversationId) = .ok m.conversationId
  operationId : optionalToken rt "operation_id" (optionalText m.operationId) = .ok m.operationId
  targetOperationId :
    optionalToken rt "target_operation_id" (optionalText m.targetOperationId) = .ok m.targetOperationId
  parentMessageId : optionalToken rt "parent_message_id" (optionalText m.parentMessageId) = .ok m.parentMessageId
  idempotencyKey : optionalToken rt "idempotency_key" (optionalText m.idempotencyKey) = .ok m.idempotencyKey
  subject : optionalString "subject" (optionalValue m.subject) = .ok m.subject
  exactSubject : optionalString "exact_subject" (optionalValue m.exactSubject) = .ok m.exactSubject
  authorityClaimRef :
    optionalString "authority_claim_ref" (optionalValue m.authorityClaimRef) = .ok m.authorityClaimRef
  status : optionalString "status" (optionalValue m.status) = .ok m.status
  error : optionalString "error" (optionalValue m.error) = .ok m.error
  constraints : stringItems "constraints" (m.constraints.map optionalValue) = .ok m.constraints
  prohibitedEffects :
    stringItems "prohibited_effects" (m.prohibitedEffects.map optionalValue) = .ok m.prohibitedEffects
  capabilities : stringItems "capabilities" (m.capabilities.map optionalValue) = .ok m.capabilities
  provenance : stringItems "provenance" (m.provenance.map optionalValue) = .ok m.provenance
  payload : freezeJson (thawJson m.payload) "payload" = .ok m.payload
  receipt : freezeReceipt (receiptValue m.receipt) = .ok m.receipt
  times : ∃ observed expires,
    parseTimestamp rt "observed_at" (optionalValue m.observedAt) = .ok observed ∧
      parseTimestamp rt "expires_at" (optionalValue m.expiresAt) = .ok expires ∧
      checkExpiry observed expires = .ok () ∧ m.observedAt = observed.map Prod.fst ∧
      m.expiresAt = expires.map Prod.fst
  priority : checkPriority (.int m.priority) = .ok m.priority
  performative : m.checkPerformative = .ok ()
  size : m.checkSize = .ok ()

/-- None of the tuples has a `None` in it. -/
def NoNulls (m : IntranelMessage) : Prop :=
  none ∉ m.constraints ∧ none ∉ m.prohibitedEffects ∧ none ∉ m.capabilities ∧ none ∉ m.provenance

end IntranelMessage

variable {m : IntranelMessage}

/-- What the constructor accepts is well formed, and its tuples are those it was given. -/
theorem construct_ok {args : MessageArgs} (h : construct rt args = .ok m) :
    m.WellFormed rt ∧ keptTuple "constraints" args.constraints = .ok m.constraints ∧
      keptTuple "prohibited_effects" args.prohibitedEffects = .ok m.prohibitedEffects ∧
      keptTuple "capabilities" args.capabilities = .ok m.capabilities ∧
      keptTuple "provenance" args.provenance = .ok m.provenance := by
  rw [construct] at h
  simp only [ite_error_ok, ↓throw_bind] at h
  replace h := h.2
  obtain ⟨origin, -, h⟩ := bind_eq_ok.1 h
  obtain ⟨actor, -, h⟩ := bind_eq_ok.1 h
  obtain ⟨target, -, h⟩ := bind_eq_ok.1 h
  obtain ⟨replyTo, -, h⟩ := bind_eq_ok.1 h
  obtain ⟨performative, -, h⟩ := bind_eq_ok.1 h
  obtain ⟨effectClass, -, h⟩ := bind_eq_ok.1 h
  obtain ⟨securityProfile, -, h⟩ := bind_eq_ok.1 h
  obtain ⟨expectedResponse, -, h⟩ := bind_eq_ok.1 h
  obtain ⟨ackRequired, -, h⟩ := bind_eq_ok.1 h
  obtain ⟨messageId, hmessageId, h⟩ := bind_eq_ok.1 h
  obtain ⟨conversationId, hconversationId, h⟩ := bind_eq_ok.1 h
  obtain ⟨operationId, hoperationId, h⟩ := bind_eq_ok.1 h
  obtain ⟨targetOperationId, htargetOperationId, h⟩ := bind_eq_ok.1 h
  obtain ⟨parentMessageId, hparentMessageId, h⟩ := bind_eq_ok.1 h
  obtain ⟨idempotencyKey, hidempotencyKey, h⟩ := bind_eq_ok.1 h
  obtain ⟨subject, hsubject, h⟩ := bind_eq_ok.1 h
  obtain ⟨exactSubject, hexactSubject, h⟩ := bind_eq_ok.1 h
  obtain ⟨authorityClaimRef, hauthorityClaimRef, h⟩ := bind_eq_ok.1 h
  obtain ⟨status, hstatus, h⟩ := bind_eq_ok.1 h
  obtain ⟨error, herror, h⟩ := bind_eq_ok.1 h
  obtain ⟨constraints, hconstraints, h⟩ := bind_eq_ok.1 h
  obtain ⟨prohibitedEffects, hprohibitedEffects, h⟩ := bind_eq_ok.1 h
  obtain ⟨capabilities, hcapabilities, h⟩ := bind_eq_ok.1 h
  obtain ⟨provenance, hprovenance, h⟩ := bind_eq_ok.1 h
  obtain ⟨payload, hpayload, h⟩ := bind_eq_ok.1 h
  obtain ⟨receipt, hreceipt, h⟩ := bind_eq_ok.1 h
  obtain ⟨observed, hobserved, h⟩ := bind_eq_ok.1 h
  obtain ⟨expires, hexpires, h⟩ := bind_eq_ok.1 h
  obtain ⟨⟨⟩, hexpiry, h⟩ := bind_eq_ok.1 h
  obtain ⟨priority, hpriority, h⟩ := bind_eq_ok.1 h
  obtain ⟨⟨⟩, hperformative, h⟩ := bind_eq_ok.1 h
  obtain ⟨⟨⟩, hsize, h⟩ := bind_eq_ok.1 h
  obtain rfl := pure_ok.1 h
  refine ⟨?_, hconstraints, hprohibitedEffects, hcapabilities, hprovenance⟩
  exact
    { messageId := requireToken_again hmessageId
      conversationId := requireToken_again hconversationId
      operationId := optionalToken_again hoperationId
      targetOperationId := optionalToken_again htargetOperationId
      parentMessageId := optionalToken_again hparentMessageId
      idempotencyKey := optionalToken_again hidempotencyKey
      subject := optionalString_again hsubject
      exactSubject := optionalString_again hexactSubject
      authorityClaimRef := optionalString_again hauthorityClaimRef
      status := optionalString_again hstatus
      error := optionalString_again herror
      constraints := keptTuple_again hconstraints
      prohibitedEffects := keptTuple_again hprohibitedEffects
      capabilities := keptTuple_again hcapabilities
      provenance := keptTuple_again hprovenance
      payload := (freezeJson_ok hpayload).2.2
      receipt := (freezeReceipt_again hreceipt).1
      times := ⟨observed, expires, parseTimestamp_again hobserved, parseTimestamp_again hexpires, hexpiry, rfl, rfl⟩
      priority := checkPriority_again hpriority
      performative := hperformative
      size := hsize }

/-! ## Reading a message back -/

/-- What the constructor is called with to make a message again. -/
def IntranelMessage.args (m : IntranelMessage) : MessageArgs where
  protocol := textValue protocol
  origin := some m.origin
  actor := some m.actor
  target := some m.target
  replyTo := some m.replyTo
  messageId := .str m.messageId
  operationId := optionalText m.operationId
  parentMessageId := optionalText m.parentMessageId
  conversationId := .str m.conversationId
  performative := some m.performative
  subject := optionalValue m.subject
  exactSubject := optionalValue m.exactSubject
  payload := thawJson m.payload
  authorityClaimRef := optionalValue m.authorityClaimRef
  constraints := .tuple (m.constraints.map optionalValue)
  prohibitedEffects := .tuple (m.prohibitedEffects.map optionalValue)
  expectedResponse := some m.expectedResponse
  ackRequired := .bool m.ackRequired
  observedAt := optionalValue m.observedAt
  expiresAt := optionalValue m.expiresAt
  idempotencyKey := optionalText m.idempotencyKey
  targetOperationId := optionalText m.targetOperationId
  priority := .int m.priority
  effectClass := some m.effectClass
  status := optionalValue m.status
  error := optionalValue m.error
  receipt := receiptValue m.receipt
  securityProfile := some m.securityProfile
  capabilities := .tuple (m.capabilities.map optionalValue)
  provenance := .tuple (m.provenance.map optionalValue)

theorem construct_args (h : m.WellFormed rt) : construct rt m.args = .ok m := by
  obtain ⟨observed, expires, hobserved, hexpires, hexpiry, hobservedAt, hexpiresAt⟩ := h.times
  have hprotocol : ¬ (textValue protocol).keyText ≠ some (.valid protocol) := fun hne => hne rfl
  rw [construct]
  simp only [IntranelMessage.args, if_neg hprotocol, requireInstance, checkAck, keptTuple, h.messageId, h.conversationId,
    h.operationId, h.targetOperationId, h.parentMessageId, h.idempotencyKey, h.subject, h.exactSubject,
    h.authorityClaimRef, h.status, h.error, h.constraints, h.prohibitedEffects, h.capabilities, h.provenance,
    h.payload, h.receipt, hobserved, hexpires, hexpiry, h.priority, ok_bind, ← hobservedAt, ← hexpiresAt,
    h.performative, h.size]
  rfl

theorem tupleOfStrings_list {items : List (Option String)}
    (h : stringItems field (items.map optionalValue) = .ok items) (hnone : none ∉ items) :
    ∃ texts, tupleOfStrings field (.list (items.map optionalValue)) = .ok texts ∧
      tupleValue texts = .tuple (items.map optionalValue) := by
  refine ⟨_, map_eq_ok.2 ⟨items, h, rfl⟩, ?_⟩
  rw [tupleValue, List.map_map]
  refine congrArg PyValue.tuple ?_
  refine List.map_congr_left fun item hitem => ?_
  cases item with
  | none => exact absurd hitem hnone
  | some s => rfl

theorem isField_textValue {name : String} (h : name ∈ messageFields) : isField (textValue name) = true :=
  List.any_eq_true.2 ⟨name, h, decide_eq_true rfl⟩

theorem getField?_isSome {name : String} (h : name ∈ messageFields) :
    (getField? m.entries name).isSome = true := by
  have hkeys : m.entries.map Prod.fst = messageFields.map textValue := rfl
  obtain ⟨e, he, hname⟩ := List.mem_map.1 (hkeys ▸ List.mem_map_of_mem h)
  rw [getField?, Option.isSome_map, List.find?_isSome]
  exact ⟨e, he, decide_eq_true (congrArg PyValue.keyText hname)⟩

theorem checkFields_entries (m : IntranelMessage) : checkFields m.entries = .ok () := by
  have hkeys : m.entries.map Prod.fst = messageFields.map textValue := rfl
  have hunknown : (m.entries.map Prod.fst).filter (fun key => !isField key) = [] := by
    rw [hkeys, List.filter_eq_nil_iff]
    intro key hkey
    obtain ⟨name, hname, rfl⟩ := List.mem_map.1 hkey
    simp [isField_textValue hname]
  have hmissing : requiredFields.filter (fun name => (getField? m.entries name).isNone) = [] := by
    have hsub : requiredFields ⊆ messageFields := by decide
    rw [List.filter_eq_nil_iff]
    intro name hname
    simp [Option.isSome_iff_ne_none.1 (getField?_isSome (hsub hname))]
  rw [checkFields]
  simp only [hunknown, hmissing, ne_eq, not_true, if_false]
  rfl

/-- A well-formed message without a `None` in its tuples is read back from its mapping. -/
theorem parseMessage_toMapping (h : m.WellFormed rt) (hnulls : m.NoNulls) :
    parseMessage rt m.toMapping = .ok m := by
  obtain ⟨observed, expires, hobserved, hexpires, hexpiry, hobservedAt, hexpiresAt⟩ := h.times
  obtain ⟨constraints, hconstraints, htuple₁⟩ := tupleOfStrings_list h.constraints hnulls.1
  obtain ⟨prohibited, hprohibited, htuple₂⟩ := tupleOfStrings_list h.prohibitedEffects hnulls.2.1
  obtain ⟨capabilities, hcapabilities, htuple₃⟩ := tupleOfStrings_list h.capabilities hnulls.2.2.1
  obtain ⟨provenance, hprovenance, htuple₄⟩ := tupleOfStrings_list h.provenance hnulls.2.2.2
  refine bind_eq_ok.2 ⟨(), checkFields_entries m, ?_⟩
  refine ite_error_ok.2 ⟨fun hne => hne rfl, ?_⟩
  refine bind_eq_ok.2 ⟨m.performative, performative_again _, ?_⟩
  refine bind_eq_ok.2 ⟨m.effectClass, effectClass_again _, ?_⟩
  refine bind_eq_ok.2 ⟨m.securityProfile, securityProfile_again _, ?_⟩
  refine bind_eq_ok.2 ⟨m.expectedResponse, responseOf_again _, ?_⟩
  refine bind_eq_ok.2 ⟨m.ackRequired, rfl, ?_⟩
  refine bind_eq_ok.2 ⟨observed, hobserved, ?_⟩
  refine bind_eq_ok.2 ⟨expires, hexpires, ?_⟩
  refine bind_eq_ok.2 ⟨(), hexpiry, ?_⟩
  refine bind_eq_ok.2 ⟨(), (freezeReceipt_again h.receipt).2, ?_⟩
  refine bind_eq_ok.2 ⟨m.origin, parse_text _, ?_⟩
  refine bind_eq_ok.2 ⟨m.actor, parse_text _, ?_⟩
  refine bind_eq_ok.2 ⟨m.target, parse_text _, ?_⟩
  refine bind_eq_ok.2 ⟨m.replyTo, parse_text _, ?_⟩
  refine bind_eq_ok.2 ⟨m.subject, h.subject, ?_⟩
  refine bind_eq_ok.2 ⟨m.exactSubject, h.exactSubject, ?_⟩
  refine bind_eq_ok.2 ⟨m.authorityClaimRef, h.authorityClaimRef, ?_⟩
  refine bind_eq_ok.2 ⟨constraints, hconstraints, ?_⟩
  refine bind_eq_ok.2 ⟨prohibited, hprohibited, ?_⟩
  refine bind_eq_ok.2 ⟨m.status, h.status, ?_⟩
  refine bind_eq_ok.2 ⟨m.error, h.error, ?_⟩
  refine bind_eq_ok.2 ⟨capabilities, hcapabilities, ?_⟩
  refine bind_eq_ok.2 ⟨provenance, hprovenance, ?_⟩
  rw [htuple₁, htuple₂, htuple₃, htuple₄, ← hobservedAt, ← hexpiresAt]
  exact construct_args h

theorem none_not_mem_some (items : List String) : none ∉ items.map some := by simp

/-- A parsed message is well formed and has no `None` in its tuples. -/
theorem parseMessage_ok {x : PyValue} (h : parseMessage rt x = .ok m) :
    m.WellFormed rt ∧ m.NoNulls := by
  rw [parseMessage.eq_def] at h
  split at h
  · obtain ⟨⟨⟩, -, h⟩ := bind_eq_ok.1 h
    obtain ⟨-, h⟩ := ite_error_ok.1 h
    obtain ⟨performative, -, h⟩ := bind_eq_ok.1 h
    obtain ⟨effectClass, -, h⟩ := bind_eq_ok.1 h
    obtain ⟨securityProfile, -, h⟩ := bind_eq_ok.1 h
    obtain ⟨expectedResponse, -, h⟩ := bind_eq_ok.1 h
    obtain ⟨ackRequired, -, h⟩ := bind_eq_ok.1 h
    obtain ⟨observed, -, h⟩ := bind_eq_ok.1 h
    obtain ⟨expires, -, h⟩ := bind_eq_ok.1 h
    obtain ⟨⟨⟩, -, h⟩ := bind_eq_ok.1 h
    obtain ⟨⟨⟩, -, h⟩ := bind_eq_ok.1 h
    obtain ⟨origin, -, h⟩ := bind_eq_ok.1 h
    obtain ⟨actor, -, h⟩ := bind_eq_ok.1 h
    obtain ⟨target, -, h⟩ := bind_eq_ok.1 h
    obtain ⟨replyTo, -, h⟩ := bind_eq_ok.1 h
    obtain ⟨subject, -, h⟩ := bind_eq_ok.1 h
    obtain ⟨exactSubject, -, h⟩ := bind_eq_ok.1 h
    obtain ⟨authorityClaimRef, -, h⟩ := bind_eq_ok.1 h
    obtain ⟨constraints, -, h⟩ := bind_eq_ok.1 h
    obtain ⟨prohibited, -, h⟩ := bind_eq_ok.1 h
    obtain ⟨status, -, h⟩ := bind_eq_ok.1 h
    obtain ⟨error, -, h⟩ := bind_eq_ok.1 h
    obtain ⟨capabilities, -, h⟩ := bind_eq_ok.1 h
    obtain ⟨provenance, -, h⟩ := bind_eq_ok.1 h
    obtain ⟨hwell, h₁, h₂, h₃, h₄⟩ := construct_ok h
    refine ⟨hwell, ?_, ?_, ?_, ?_⟩
    · rw [keptTuple_tupleValue h₁]
      exact none_not_mem_some _
    · rw [keptTuple_tupleValue h₂]
      exact none_not_mem_some _
    · rw [keptTuple_tupleValue h₃]
      exact none_not_mem_some _
    · rw [keptTuple_tupleValue h₄]
      exact none_not_mem_some _
  · cases h

/-! ## Digests -/

/-- Two messages say the same under every name of a field. -/
def SameFields (m m' : IntranelMessage) : Prop :=
  ∀ name, pyEntriesMeaning m.entries name = pyEntriesMeaning m'.entries name

theorem contentDigest_eq_iff (hsha : Function.Injective rt.sha256) {m m' : IntranelMessage} (h : m.WellFormed rt)
    (h' : m'.WellFormed rt) : m.contentDigest rt = m'.contentDigest rt ↔ SameFields m m' := by
  obtain ⟨bytes, hbytes, -⟩ := bind_eq_ok.1 h.size
  obtain ⟨bytes', hbytes', -⟩ := bind_eq_ok.1 h'.size
  have hdigests : m.contentDigest rt = m'.contentDigest rt ↔ bytes = bytes' := by
    rw [IntranelMessage.contentDigest, IntranelMessage.contentDigest, hbytes, hbytes']
    exact ⟨fun h => hsha (Except.ok.inj h), fun h => congrArg (fun b => Except.ok (rt.sha256 b)) h⟩
  rw [hdigests, canonicalJsonBytes_eq_iff hbytes hbytes']
  exact ⟨fun h => congrFun (Datum.obj.inj h), fun h => congrArg Datum.obj (funext h)⟩

/-- The codec. A message that the constructor accepts is read back from its mapping just when its
tuples hold strings only; a parsed message is read back; and two messages have one digest just when
they say the same field by field. -/
theorem message_codec (hsha : Function.Injective rt.sha256) :
    (∀ args m, construct rt args = .ok m → (parseMessage rt m.toMapping = .ok m ↔ m.NoNulls)) ∧
      (∀ x m, parseMessage rt x = .ok m → parseMessage rt m.toMapping = .ok m) ∧
      ∀ args args' m m', construct rt args = .ok m → construct rt args' = .ok m' →
        (m.contentDigest rt = m'.contentDigest rt ↔ SameFields m m') := by
  refine ⟨fun args m h => ?_, fun x m h => ?_, fun args args' m m' h h' => ?_⟩
  · exact ⟨fun hparse => (parseMessage_ok hparse).2, parseMessage_toMapping (construct_ok h).1⟩
  · obtain ⟨hwell, hnulls⟩ := parseMessage_ok h
    exact parseMessage_toMapping hwell hnulls
  · exact contentDigest_eq_iff hsha (construct_ok h).1 (construct_ok h').1

/-! ## A constraint that is `None` -/

theorem size_ofList_le (cs : List Char) : (String.ofList cs).toByteArray.size ≤ 4 * cs.length := by
  rw [String.toByteArray_ofList]
  induction cs with
  | nil => simp
  | cons c cs ih =>
    rw [List.utf8Encode_cons, ByteArray.size_append, List.length_cons]
    have hc : [c].utf8Encode.size ≤ 4 := by simpa [List.utf8Encode_singleton] using c.utf8Size_le_four
    omega

/-- A message whose text has a quarter as many characters as the bound has bytes fits it. -/
def fits (m : IntranelMessage) : Bool :=
  match freezeJson m.toMapping "canonical value" with
  | .ok j => 4 * (sortKeys j).dumps.length ≤ maxMessageBytes
  | .error _ => false

theorem checkSize_of_fits (h : fits m = true) : m.checkSize = .ok () := by
  rw [fits] at h
  split at h
  · rename_i j hj
    have hsize := size_ofList_le (sortKeys j).dumps
    refine bind_eq_ok.2 ⟨_, map_eq_ok.2 ⟨j, hj, rfl⟩, ?_⟩
    exact if_neg (by rw [decide_eq_true_eq] at h; omega)
  · cases h

def veraCore : Address := ⟨"vera".toList, "core".toList, by decide⟩

def quietRuntime : IntranelRuntime where
  repr _ := "'...'"
  isSpace c := c = 32 ∨ (9 ≤ c ∧ c ≤ 13)
  fromisoformat _ := .invalid
  sha256 := plainDigest

def queryWith (constraints : List (Option String)) : IntranelMessage where
  origin := veraCore
  actor := veraCore
  target := veraCore
  replyTo := veraCore
  messageId := .valid "m"
  operationId := none
  parentMessageId := none
  conversationId := .valid "c"
  performative := .query
  subject := none
  exactSubject := none
  payload := .null
  authorityClaimRef := none
  constraints := constraints
  prohibitedEffects := []
  expectedResponse := none
  ackRequired := false
  observedAt := none
  expiresAt := none
  idempotencyKey := none
  targetOperationId := none
  priority := 3
  effectClass := .readOnly
  status := none
  error := none
  receipt := none
  securityProfile := .«open»
  capabilities := []
  provenance := []

theorem construct_queryWith {constraints : List (Option String)}
    (hstrings : stringItems "constraints" (constraints.map optionalValue) = .ok constraints)
    (hfits : fits (queryWith constraints) = true) :
    construct quietRuntime (queryWith constraints).args = .ok (queryWith constraints) :=
  construct_args
    { messageId := rfl
      conversationId := rfl
      operationId := rfl
      targetOperationId := rfl
      parentMessageId := rfl
      idempotencyKey := rfl
      subject := rfl
      exactSubject := rfl
      authorityClaimRef := rfl
      status := rfl
      error := rfl
      constraints := hstrings
      prohibitedEffects := rfl
      capabilities := rfl
      provenance := rfl
      payload := rfl
      receipt := rfl
      times := ⟨none, none, rfl, rfl, rfl, rfl, rfl⟩
      priority := rfl
      performative := rfl
      size := checkSize_of_fits hfits }

theorem fits_queryWith : fits (queryWith []) = true ∧ fits (queryWith [none]) = true := by
  decide +kernel

/-- A query without constraints is read back. -/
theorem message_codec_query : parseMessage quietRuntime (queryWith []).toMapping = .ok (queryWith []) :=
  ((message_codec plainDigest_injective).1 _ _ (construct_queryWith rfl fits_queryWith.1)).2 (by
    simp [IntranelMessage.NoNulls, queryWith])

/-- The constructor accepts a constraint that is `None`, and the message is not read back. -/
theorem null_constraint_rejected :
    construct quietRuntime (queryWith [none]).args = .ok (queryWith [none]) ∧
      parseMessage quietRuntime (queryWith [none]).toMapping ≠ .ok (queryWith [none]) := by
  refine ⟨construct_queryWith rfl fits_queryWith.2, fun h => ?_⟩
  exact (parseMessage_ok h).2.1 (by simp [queryWith])

end Intranel

end VeraMono

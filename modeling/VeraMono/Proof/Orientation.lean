import Mathlib.Data.List.Perm.Basic
import VeraMono.Model.Orientation
import VeraMono.Proof.Digestible

/-!
# Temporal claims are sound

What the gate finds about its evidence is said of each dimension by the items that it has, in
whatever order they come, so the state depends on no order; and claims are allowed only when every
required dimension has one item, which validates and is within its limits. `selected_bounded` finds
the items that an allowed claim rests on, `state_perm` is the independence of order, and
`orientation_sound` joins the two.
-/

namespace VeraMono.Temporal

open Framework

variable {Key : Type} {R : OrientationRuntime Key} {G : OrientationGate Key} {evidence evidence' : List TimeEvidence}
  {item : TimeEvidence} {invalid : List String} {now : Int} {p : Policy} {receipt : OrientationReceipt}

namespace OrientationGate

/-! ## Evidence that validates -/

/-- The evidence validates, or `validate` says why not. -/
def Answered (R : OrientationRuntime Key) (G : OrientationGate Key) (item : TimeEvidence) : Prop :=
  item.validate R G.keys = .ok () ∨ ∃ e, item.validate R G.keys = .error e ∧ e.kind = .valueError

/-- A dimension has evidence that does not validate. -/
def Invalid (R : OrientationRuntime Key) (G : OrientationGate Key) (evidence : List TimeEvidence) (d : String) : Prop :=
  ∃ item ∈ evidence, item.dimension = d ∧ item.validate R G.keys ≠ .ok ()

theorem invalidDimensions_ok (h : invalidDimensions R G evidence = .ok invalid) :
    (∀ item ∈ evidence, Answered R G item) ∧ ∀ d, d ∈ invalid ↔ Invalid R G evidence d := by
  induction evidence generalizing invalid with
  | nil =>
    cases h
    simp [Invalid]
  | cons item rest ih =>
    rw [invalidDimensions] at h
    split at h
    · rename_i hvalid
      obtain ⟨hanswered, hmem⟩ := ih h
      refine ⟨List.forall_mem_cons.2 ⟨.inl hvalid, hanswered⟩, fun d => ?_⟩
      rw [hmem, Invalid, Invalid, List.exists_mem_cons_iff]
      simp [hvalid]
    · rename_i e he
      split_ifs at h with hkind
      obtain ⟨tail, htail, rfl⟩ := map_eq_ok.1 h
      obtain ⟨hanswered, hmem⟩ := ih htail
      refine ⟨List.forall_mem_cons.2 ⟨.inr ⟨e, he, hkind⟩, hanswered⟩, fun d => ?_⟩
      rw [List.mem_cons, hmem, Invalid, Invalid, List.exists_mem_cons_iff]
      simp [he, eq_comm]

theorem invalidDimensions_total (h : ∀ item ∈ evidence, Answered R G item) :
    ∃ invalid, invalidDimensions R G evidence = .ok invalid := by
  induction evidence with
  | nil => exact ⟨[], rfl⟩
  | cons item rest ih =>
    obtain ⟨hitem, hrest⟩ := List.forall_mem_cons.1 h
    obtain ⟨invalid, hinvalid⟩ := ih hrest
    rw [invalidDimensions]
    obtain hvalid | ⟨e, he, hkind⟩ := hitem
    · exact ⟨invalid, by rw [hvalid, hinvalid]⟩
    · exact ⟨item.dimension :: invalid, by rw [he, hinvalid]; simp [hkind, Except.map]⟩

/-- The source of the evidence is known, and its key signed it. -/
def Authenticated (R : OrientationRuntime Key) (G : OrientationGate Key) (item : TimeEvidence) : Prop :=
  ∃ key, G.keys.lookup item.source = some key ∧ R.publicKeyId key = .ok item.sourceKeyId ∧
    R.verifySignature item key = true

theorem authenticated (h : item.validate R G.keys = .ok ()) : Authenticated R G item := by
  simp only [TimeEvidence.validate, bind_eq_ok] at h
  obtain ⟨_, hauth, -⟩ := h
  rw [TimeEvidence.authenticate] at hauth
  split at hauth
  · cases hauth
  · rename_i key hkey
    simp only [bind_eq_ok, ite_throw_ok, pure_ok, not_or, not_not, and_true] at hauth
    obtain ⟨keyId, hkeyId, rfl, hverified⟩ := hauth
    exact ⟨key, hkey, hkeyId, hverified⟩

theorem times_ok (h : item.validate R G.keys = .ok ()) : ∃ observed value,
    parseTime R item.observedAt = .ok observed ∧ parseTime R item.value = .ok value ∧ value - skew ≤ observed := by
  simp only [TimeEvidence.validate, ite_error_ok, ↓throw_bind, bind_eq_ok] at h
  obtain ⟨_, -, -, -, -, -, htimes⟩ := h
  rw [TimeEvidence.checkTimes] at htimes
  simp only [bind_eq_ok, ite_throw_ok] at htimes
  obtain ⟨value, hvalue, observed, hobserved, _, -, _, -, _, -, earliest, hearliest, hpast, -⟩ := htimes
  refine ⟨observed, value, hobserved, hvalue, ?_⟩
  rw [inRange] at hearliest
  split_ifs at hearliest
  cases hearliest
  exact not_lt.1 hpast

/-- The evidence is not older than the limit and not ahead of the clock. -/
def Within (R : OrientationRuntime Key) (G : OrientationGate Key) (now : Int) (item : TimeEvidence) : Prop :=
  ∃ observed value, parseTime R item.observedAt = .ok observed ∧ parseTime R item.value = .ok value ∧
    now - observed ≤ G.maxAge ∧ observed - now ≤ skew ∧ value - skew ≤ observed ∧
    (item.dimension = currentTime → (now - value).natAbs ≤ G.maxAge)

theorem staleItem_ok (now : Int) (h : item.validate R G.keys = .ok ()) :
    ∃ b, staleItem R G now item.dimension item = .ok b ∧ (b = false ↔ Within R G now item) := by
  obtain ⟨observed, value, hobserved, hvalue, hpast⟩ := times_ok h
  rw [staleItem, hobserved, hvalue, ok_bind, ok_bind]
  refine ⟨_, rfl, ?_⟩
  rw [decide_eq_false_iff_not, not_or, not_or, not_and, not_lt, not_lt]
  simp only [not_lt]
  constructor
  · rintro ⟨hage, hahead, hclock⟩
    exact ⟨observed, value, hobserved, hvalue, hage, hahead, hpast, hclock⟩
  · rintro ⟨observed', value', hobserved', hvalue', hage, hahead, -, hclock⟩
    rw [hobserved] at hobserved'
    rw [hvalue] at hvalue'
    cases hobserved'
    cases hvalue'
    exact ⟨hage, hahead, hclock⟩

/-! ## Findings -/

theorem mem_groups {d : String} : d ∈ groups evidence ↔ grouped evidence d ≠ [] := by
  rw [groups, List.mem_eraseDups, List.mem_map, grouped, Ne, List.filter_eq_nil_iff]
  simp

theorem mem_grouped {d : String} : item ∈ grouped evidence d ↔ item ∈ evidence ∧ item.dimension = d := by
  rw [grouped, List.mem_filter, decide_eq_true_eq]

/-- Two items say what one dimension is. -/
def Conflicted (R : OrientationRuntime Key) (G : OrientationGate Key) (evidence : List TimeEvidence) : Prop :=
  ∃ d, ¬ Invalid R G evidence d ∧ 1 < (grouped evidence d).length

/-- An item of a dimension that validates is not within its limits. -/
def Stale (R : OrientationRuntime Key) (G : OrientationGate Key) (now : Int) (evidence : List TimeEvidence) : Prop :=
  ∃ item ∈ evidence, ¬ Invalid R G evidence item.dimension ∧ ¬ Within R G now item

/-- An item of a dimension that validates lacks the bounds that a snapshot needs. -/
def Unbounded (R : OrientationRuntime Key) (G : OrientationGate Key) (sourceMode : String)
    (evidence : List TimeEvidence) : Prop :=
  sourceMode = "FRESH_BOUND_SNAPSHOT" ∧
    ∃ item ∈ evidence, ¬ Invalid R G evidence item.dimension ∧ item.bounded = false

structure Found (R : OrientationRuntime Key) (G : OrientationGate Key) (now : Int) (sourceMode : String)
    (evidence : List TimeEvidence) (d : String) (f : Finding) : Prop where
  dimension : f.dimension = d
  conflict : f.conflict = true ↔ ¬ Invalid R G evidence d ∧ 1 < (grouped evidence d).length
  stale : f.stale = true ↔ ¬ Invalid R G evidence d ∧ ∃ item ∈ grouped evidence d, ¬ Within R G now item
  unbounded : f.unbounded = true ↔ sourceMode = "FRESH_BOUND_SNAPSHOT" ∧ ¬ Invalid R G evidence d ∧
    ∃ item ∈ grouped evidence d, item.bounded = false

theorem assessDimension_ok (now : Int) (sourceMode d : String) (hmem : ∀ d, d ∈ invalid ↔ Invalid R G evidence d) :
    ∃ f, assessDimension R G now sourceMode invalid evidence d = .ok f ∧ Found R G now sourceMode evidence d f := by
  rw [assessDimension]
  by_cases hinvalid : Invalid R G evidence d
  · have hnone : (grouped evidence d).filter (fun _ => d ∉ invalid) = [] := by
      rw [List.filter_eq_nil_iff]
      intro _ _ hnot
      exact (of_decide_eq_true hnot) ((hmem d).2 hinvalid)
    rw [hnone]
    refine ⟨_, rfl, rfl, ?_, ?_, ?_⟩ <;> simp [hinvalid]
  · have hsame : (grouped evidence d).filter (fun _ => d ∉ invalid) = grouped evidence d := by
      rw [List.filter_eq_self]
      exact fun _ _ => decide_eq_true fun hin => hinvalid ((hmem d).1 hin)
    have hvalid : ∀ item ∈ grouped evidence d, item.dimension = d ∧ item.validate R G.keys = .ok () := by
      intro item hitem
      obtain ⟨hin, hd⟩ := mem_grouped.1 hitem
      exact ⟨hd, not_not.1 fun hne => hinvalid ⟨item, hin, hd, hne⟩⟩
    have hstale : ∃ bs, sequence ((grouped evidence d).map (staleItem R G now d)) = .ok bs := by
      rw [sequence_ok_iff]
      intro r hr
      obtain ⟨item, hitem, rfl⟩ := List.mem_map.1 hr
      obtain ⟨rfl, hok⟩ := hvalid item hitem
      obtain ⟨b, hb, -⟩ := staleItem_ok now hok
      exact ⟨b, hb⟩
    obtain ⟨bs, hbs⟩ := hstale
    rw [hsame, hbs]
    refine ⟨_, rfl, rfl, by simp [hinvalid], ?_, by simp [hinvalid]⟩
    have hresults := sequence_ok hbs
    dsimp only
    rw [List.any_eq_true]
    constructor
    · rintro ⟨b, hb, htrue⟩
      have hmap : Except.ok b ∈ (grouped evidence d).map (staleItem R G now d) := hresults ▸ List.mem_map_of_mem hb
      obtain ⟨item, hitem, heq⟩ := List.mem_map.1 hmap
      obtain ⟨rfl, hok⟩ := hvalid item hitem
      obtain ⟨b', hb', hwithin⟩ := staleItem_ok now hok
      rw [hb'] at heq
      obtain rfl := Except.ok.inj heq
      refine ⟨hinvalid, item, hitem, fun hw => ?_⟩
      rw [hwithin.2 hw] at htrue
      cases htrue
    · rintro ⟨-, item, hitem, hnot⟩
      obtain ⟨rfl, hok⟩ := hvalid item hitem
      obtain ⟨b, hb, hwithin⟩ := staleItem_ok now hok
      have hmap : Except.ok b ∈ bs.map (.ok : Bool → Except RecoveryFailure Bool) :=
        hresults ▸ List.mem_map.2 ⟨item, hitem, hb⟩
      obtain ⟨b', hb', heq⟩ := List.mem_map.1 hmap
      obtain rfl := Except.ok.inj heq
      refine ⟨b', hb', ?_⟩
      cases b' with
      | false => exact absurd (hwithin.1 rfl) hnot
      | true => rfl

theorem findings_ok (now : Int) (sourceMode : String) (hmem : ∀ d, d ∈ invalid ↔ Invalid R G evidence d) :
    ∃ findings, sequence ((groups evidence).map (assessDimension R G now sourceMode invalid evidence)) = .ok findings ∧
      ((findings.filter Finding.conflict).map Finding.dimension ≠ [] ↔ Conflicted R G evidence) ∧
      ((findings.filter Finding.stale).map Finding.dimension ≠ [] ↔ Stale R G now evidence) ∧
      ((findings.filter Finding.unbounded).map Finding.dimension ≠ [] ↔ Unbounded R G sourceMode evidence) := by
  have hfound (d : String) := assessDimension_ok now sourceMode d hmem
  choose f hf hspec using hfound
  have hlist : (groups evidence).map (assessDimension R G now sourceMode invalid evidence) =
      ((groups evidence).map f).map .ok := by
    rw [List.map_map]
    exact List.map_congr_left fun d _ => hf d
  have hsequence : ∃ findings, sequence (((groups evidence).map f).map (.ok : Finding → Except RecoveryFailure Finding)) =
      .ok findings := sequence_ok_iff.2 fun r hr => by
    obtain ⟨x, -, rfl⟩ := List.mem_map.1 hr
    exact ⟨x, rfl⟩
  obtain ⟨findings, hfindings⟩ := hsequence
  have heq : findings = (groups evidence).map f := by
    have hmaps := sequence_ok hfindings
    exact List.map_injective_iff.2 (fun _ _ h => Except.ok.inj h) hmaps
  subst heq
  have hsome (q : Finding → Bool) (P : String → Prop) (hq : ∀ d, q (f d) = true ↔ P d) :
      (((groups evidence).map f).filter q).map Finding.dimension ≠ [] ↔ ∃ d ∈ groups evidence, P d := by
    rw [Ne, List.map_eq_nil_iff, List.filter_eq_nil_iff]
    simp [hq]
  refine ⟨_, hlist ▸ hfindings, ?_, ?_, ?_⟩
  · rw [hsome _ _ fun d => (hspec d).conflict, Conflicted]
    constructor
    · rintro ⟨d, -, h⟩
      exact ⟨d, h⟩
    · rintro ⟨d, h⟩
      exact ⟨d, mem_groups.2 (List.ne_nil_of_length_pos (by omega)), h⟩
  · rw [hsome _ _ fun d => (hspec d).stale, Stale]
    constructor
    · rintro ⟨d, -, hd, item, hitem, hnot⟩
      obtain ⟨hin, rfl⟩ := mem_grouped.1 hitem
      exact ⟨item, hin, hd, hnot⟩
    · rintro ⟨item, hin, hd, hnot⟩
      have hitem : item ∈ grouped evidence item.dimension := mem_grouped.2 ⟨hin, rfl⟩
      exact ⟨item.dimension, mem_groups.2 (List.ne_nil_of_mem hitem), hd, item, hitem, hnot⟩
  · rw [hsome _ _ fun d => (hspec d).unbounded, Unbounded]
    constructor
    · rintro ⟨d, -, hmode, hd, item, hitem, hnot⟩
      obtain ⟨hin, rfl⟩ := mem_grouped.1 hitem
      exact ⟨hmode, item, hin, hd, hnot⟩
    · rintro ⟨hmode, item, hin, hd, hnot⟩
      have hitem : item ∈ grouped evidence item.dimension := mem_grouped.2 ⟨hin, rfl⟩
      exact ⟨item.dimension, mem_groups.2 (List.ne_nil_of_mem hitem), hmode, hd, item, hitem, hnot⟩

/-! ## The outcome -/

theorem only_eq_some {items : List TimeEvidence} : only items = some item ↔ items = [item] := by
  constructor
  · intro h
    cases items with
    | nil => cases h
    | cons first rest =>
      cases rest with
      | nil => rw [Option.some.inj h]
      | cons => cases h
  · rintro rfl
    rfl

/-- The single items of the required dimensions are all there, with their bounds. -/
theorem selected_bounded {required : List String} :
    ((selected evidence required).length = required.length && (selected evidence required).all TimeEvidence.bounded) =
      true ↔ ∀ d ∈ required, ∃ item, grouped evidence d = [item] ∧ item.bounded = true := by
  rw [Bool.and_eq_true, decide_eq_true_eq, selected, List.filterMap_length_eq_length, List.all_eq_true]
  constructor
  · rintro ⟨hsingle, hbounded⟩ d hd
    obtain ⟨item, hitem⟩ := Option.isSome_iff_exists.1 (hsingle d hd)
    exact ⟨item, only_eq_some.1 hitem, hbounded item (List.mem_filterMap.2 ⟨d, hd, hitem⟩)⟩
  · intro h
    refine ⟨fun d hd => ?_, fun item hitem => ?_⟩
    · obtain ⟨item, hone, -⟩ := h d hd
      exact Option.isSome_iff_exists.2 ⟨item, only_eq_some.2 hone⟩
    · obtain ⟨d, hd, honly⟩ := List.mem_filterMap.1 hitem
      obtain ⟨item', hone, hbounded⟩ := h d hd
      obtain rfl : item = item' := List.singleton_inj.1 ((only_eq_some.1 honly).symm.trans hone)
      exact hbounded

/-- What a call that does not raise returns, and what was found on the way: a conflict, an invalid
or missing or stale dimension, and evidence that is bounded throughout. -/
structure Outcome (R : OrientationRuntime Key) (G : OrientationGate Key) (evidence : List TimeEvidence) (p : Policy)
    (receipt : OrientationReceipt) (now : Int) (required : List String) (scope : Option ClaimScope)
    (c i m st sb : Bool) : Prop where
  requiredDimensions : receipt.requiredDimensions = required
  claimScope : receipt.claimScope = scope
  state : receipt.state = stateOf p.sourceMode c i m st
    (allDimensions.all fun dimension => decide (dimension ∈ required)) sb
  allowed : receipt.claimsAllowed = (receipt.state = .complete || receipt.state = .completeFromFreshSnapshot ||
    receipt.state = .degradedBounded)
  conflict : c = true ↔ Conflicted R G evidence
  invalid : i = true ↔ (∃ d, Invalid R G evidence d) ∨ Unbounded R G p.sourceMode evidence
  missing : m = true ↔ ∃ d ∈ required, grouped evidence d = []
  stale : st = true ↔ Stale R G now evidence
  structured : sb = true ↔ p.degradedAllowed = true ∧ scope.isSome = true ∧
    ∀ d ∈ required, ∃ item, grouped evidence d = [item] ∧ item.bounded = true

theorem evaluate_outcome {required : List String} {scope : Option ClaimScope} (hcheck : p.check R = .ok (now, required, scope))
    (hall : ∀ item ∈ evidence, Answered R G item) : ∃ receipt c i m st sb,
      evaluate R G evidence p = .ok receipt ∧ Outcome R G evidence p receipt now required scope c i m st sb := by
  obtain ⟨invalid, hinvalid⟩ := invalidDimensions_total hall
  have hmem := (invalidDimensions_ok hinvalid).2
  obtain ⟨findings, hfindings, hconflict, hstale, hunbounded⟩ :=
    findings_ok now p.sourceMode hmem
  rw [evaluate, hcheck, ok_bind]
  dsimp only
  rw [hinvalid, ok_bind, hfindings, ok_bind]
  refine ⟨_, _, _, _, _, _, rfl, rfl, rfl, rfl, rfl, ?_, ?_, ?_, ?_, ?_⟩
  · rw [decide_eq_true_eq, hconflict]
  · rw [decide_eq_true_eq, ← hunbounded, Ne, List.append_eq_nil_iff, not_and_or]
    refine or_congr_left ?_
    simp only [List.eq_nil_iff_forall_not_mem, hmem, not_forall, not_not]
  · rw [decide_eq_true_eq, Ne, List.filter_eq_nil_iff]
    simp [mem_groups]
  · rw [decide_eq_true_eq, hstale]
  · rw [Bool.and_eq_true, Bool.and_eq_true, selected_bounded, and_assoc]

/-- A call that does not raise had its arguments checked, and an answer on all its evidence. -/
theorem evaluate_ok (h : evaluate R G evidence p = .ok receipt) : ∃ now required scope c i m st sb,
    p.check R = .ok (now, required, scope) ∧ (∀ item ∈ evidence, Answered R G item) ∧
      Outcome R G evidence p receipt now required scope c i m st sb := by
  have hparts : ∃ now required scope, p.check R = .ok (now, required, scope) ∧ ∀ item ∈ evidence, Answered R G item := by
    rw [evaluate, bind_eq_ok] at h
    obtain ⟨⟨now, required, scope⟩, hcheck, h⟩ := h
    dsimp only at h
    rw [bind_eq_ok] at h
    obtain ⟨invalid, hinvalid, -⟩ := h
    exact ⟨now, required, scope, hcheck, (invalidDimensions_ok hinvalid).1⟩
  obtain ⟨now, required, scope, hcheck, hall⟩ := hparts
  obtain ⟨receipt', c, i, m, st, sb, hok, houtcome⟩ := evaluate_outcome hcheck hall
  rw [h] at hok
  obtain rfl := Except.ok.inj hok
  exact ⟨now, required, scope, c, i, m, st, sb, hcheck, hall, houtcome⟩

/-- Claims are allowed on no finding but that the evidence is complete, or bounded throughout. -/
theorem stateOf_allowed {mode : String} {c i m st full sb : Bool} {state : OrientationState}
    (hs : state = stateOf mode c i m st full sb)
    (h : (state = .complete || state = .completeFromFreshSnapshot || state = .degradedBounded) = true) :
    c = false ∧ i = false ∧ m = false ∧ st = false ∧ (state = .degradedBounded → sb = true) := by
  subst hs
  rw [stateOf] at h ⊢
  cases c with
  | true => simp at h
  | false =>
    cases i with
    | true => simp at h
    | false =>
      cases m with
      | true => simp at h
      | false =>
        cases st with
        | true => simp at h
        | false =>
          refine ⟨rfl, rfl, rfl, rfl, fun hd => ?_⟩
          cases sb with
          | true => rfl
          | false =>
            cases full with
            | true => split_ifs at hd
            | false => simp at hd

/-! ## Orders of evidence -/

theorem grouped_perm (h : evidence.Perm evidence') (d : String) :
    (grouped evidence d).Perm (grouped evidence' d) := h.filter _

theorem grouped_singleton_perm (h : evidence.Perm evidence') {d : String} :
    grouped evidence d = [item] ↔ grouped evidence' d = [item] := by
  constructor
  · intro heq
    exact List.perm_singleton.1 (heq ▸ (grouped_perm h d).symm)
  · intro heq
    exact List.perm_singleton.1 (heq ▸ grouped_perm h d)

theorem invalid_perm (h : evidence.Perm evidence') (d : String) : Invalid R G evidence d ↔ Invalid R G evidence' d := by
  simp only [Invalid, h.mem_iff]

/-- The state of a call is the same for its evidence in any order. -/
theorem state_perm {now now' : Int} {required required' : List String} {scope scope' : Option ClaimScope}
    {receipt receipt' : OrientationReceipt} {c i m st sb c' i' m' st' sb' : Bool} (h : evidence.Perm evidence')
    (hsame : (now, required, scope) = (now', required', scope'))
    (ho : Outcome R G evidence p receipt now required scope c i m st sb)
    (ho' : Outcome R G evidence' p receipt' now' required' scope' c' i' m' st' sb') : receipt.state = receipt'.state := by
  simp only [Prod.mk.injEq] at hsame
  obtain ⟨rfl, rfl, rfl⟩ := hsame
  have hc : c = c' := by
    rw [Bool.eq_iff_iff, ho.conflict, ho'.conflict]
    simp only [Conflicted, invalid_perm h, (grouped_perm h _).length_eq]
  have hi : i = i' := by
    rw [Bool.eq_iff_iff, ho.invalid, ho'.invalid]
    simp only [Unbounded, invalid_perm h, h.mem_iff]
  have hm : m = m' := by
    rw [Bool.eq_iff_iff, ho.missing, ho'.missing]
    have hnil (d : String) : grouped evidence d = [] ↔ grouped evidence' d = [] := by
      rw [← List.length_eq_zero_iff, ← List.length_eq_zero_iff, (grouped_perm h d).length_eq]
    simp only [hnil]
  have hst : st = st' := by
    rw [Bool.eq_iff_iff, ho.stale, ho'.stale]
    simp only [Stale, invalid_perm h, h.mem_iff]
  have hsb : sb = sb' := by
    rw [Bool.eq_iff_iff, ho.structured, ho'.structured]
    simp only [grouped_singleton_perm h]
  rw [ho.state, ho'.state, hc, hi, hm, hst, hsb]

/-- Claims are allowed only when every required dimension has one item of evidence, authenticated,
valid and within its limits, and with bounds where the orientation is degraded; and the state does
not depend on the order of the evidence. -/
theorem orientation_sound (R : OrientationRuntime Key) (G : OrientationGate Key) (p : Policy) :
    (∀ evidence receipt, evaluate R G evidence p = .ok receipt → receipt.claimsAllowed = true →
      ∃ now required scope, p.check R = .ok (now, required, scope) ∧ receipt.requiredDimensions = required ∧
        ∀ d ∈ required, ∃ item, grouped evidence d = [item] ∧ Authenticated R G item ∧
          item.validate R G.keys = .ok () ∧ Within R G now item ∧
          (receipt.state = .degradedBounded → item.bounded = true ∧ receipt.claimScope.isSome = true)) ∧
    ∀ evidence evidence', evidence.Perm evidence' →
      (evaluate R G evidence p).toOption.map OrientationReceipt.state =
        (evaluate R G evidence' p).toOption.map OrientationReceipt.state := by
  constructor
  · intro evidence receipt h hallowed
    obtain ⟨now, required, scope, c, i, m, st, sb, hcheck, -, ho⟩ := evaluate_ok h
    refine ⟨now, required, scope, hcheck, ho.requiredDimensions, fun d hd => ?_⟩
    rw [ho.allowed] at hallowed
    obtain ⟨rfl, rfl, rfl, rfl, hdegraded⟩ := stateOf_allowed ho.state hallowed
    have hvalid : ∀ d, ¬ Invalid R G evidence d := fun d hin =>
      Bool.false_ne_true (ho.invalid.2 (.inl ⟨d, hin⟩))
    have hsome : grouped evidence d ≠ [] := fun hnone => Bool.false_ne_true (ho.missing.2 ⟨d, hd, hnone⟩)
    have hone : ¬ 1 < (grouped evidence d).length := fun hmany =>
      Bool.false_ne_true (ho.conflict.2 ⟨d, hvalid d, hmany⟩)
    have hlength : (grouped evidence d).length = 1 := by
      have hpos := List.length_pos_iff.2 hsome
      omega
    obtain ⟨item, hitem⟩ := List.length_eq_one_iff.1 hlength
    obtain ⟨hin, hdim⟩ := mem_grouped.1 (hitem ▸ List.mem_singleton_self item : item ∈ grouped evidence d)
    have hok : item.validate R G.keys = .ok () := not_not.1 fun hne => hvalid d ⟨item, hin, hdim, hne⟩
    have hwithin : Within R G now item := not_not.1 fun hne =>
      Bool.false_ne_true (ho.stale.2 ⟨item, hin, hvalid _, hne⟩)
    refine ⟨item, hitem, authenticated hok, hok, hwithin, fun hstate => ?_⟩
    obtain ⟨-, hscope, hbounds⟩ := ho.structured.1 (hdegraded hstate)
    obtain ⟨item', hitem', hbounded⟩ := hbounds d hd
    rw [hitem, List.singleton_inj] at hitem'
    subst hitem'
    exact ⟨hbounded, ho.claimScope ▸ hscope⟩
  · intro evidence evidence' hperm
    have hone {evidence evidence' : List TimeEvidence} (hperm : evidence.Perm evidence') {receipt : OrientationReceipt}
        (h : evaluate R G evidence p = .ok receipt) : ∃ receipt', evaluate R G evidence' p = .ok receipt' ∧
          receipt.state = receipt'.state := by
      obtain ⟨now, required, scope, c, i, m, st, sb, hcheck, hall, ho⟩ := evaluate_ok h
      obtain ⟨receipt', c', i', m', st', sb', hok, ho'⟩ :=
        evaluate_outcome hcheck fun item hitem => hall item (hperm.mem_iff.2 hitem)
      exact ⟨receipt', hok, state_perm hperm rfl ho ho'⟩
    cases h : evaluate R G evidence p with
    | ok receipt =>
      obtain ⟨receipt', h', hsame⟩ := hone hperm h
      rw [h']
      exact congrArg some hsame
    | error e =>
      cases h' : evaluate R G evidence' p with
      | error e' => rfl
      | ok receipt' =>
        obtain ⟨receipt, hcontra, -⟩ := hone hperm.symm h'
        rw [h] at hcontra
        cases hcontra

end OrientationGate

end VeraMono.Temporal

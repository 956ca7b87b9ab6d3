import VeraMono.Framework.Checks
import VeraMono.Model.CorrectiveLearning

/-!
# Stages of a correction

The rows of a correction are chained, a stage after the other. `advance` checks the stage against
the rows it has read; rows are only added, so by the time it appends there are at least as many,
and where there are more, one of them has the stage already and the key of the stage refuses the
append.
-/

namespace VeraMono

namespace CorrectiveLearning

open Framework

variable {D : Type} {digest : CorrectionPayload D → D} {t t' : CorrectionTable D}
  {e : CorrectionEvent D} {rows events : List (CorrectionEvent D)} {id signature : String} {n : Nat}
  {previous : Option D} {args : AppendArgs}

/-- What `_refs` demands. -/
def RefsOk (values : List String) : Prop := values ≠ [] ∧ "" ∉ values ∧ values.Nodup

theorem refs_ok {values : List String} {field : String} (h : refs values field = .ok ()) :
    RefsOk values := by
  simp only [refs, ite_error_ok, not_or, not_not] at h
  exact ⟨h.1.1, h.1.2, h.2.1⟩

/-! ## Chained rows -/

/-- A row at its place in the rows of a correction. -/
structure Link (digest : CorrectionPayload D → D) (signature : String) (n : Nat) (previous : Option D)
    (e : CorrectionEvent D) : Prop where
  stage : correctiveStageOrder[n]? = some e.stage
  signature : e.failureSignatureId = signature
  sequence : e.sequence = n
  previous : e.previousDigest = previous
  digest : e.eventDigest = digest e.toCorrectionPayload

/-- Rows that follow on `n` others, the last of which has the digest `previous`. -/
def Chained (digest : CorrectionPayload D → D) (signature : String) :
    Nat → Option D → List (CorrectionEvent D) → Prop
  | _, _, [] => True
  | n, previous, e :: rows =>
    Link digest signature n previous e ∧ Chained digest signature (n + 1) (some e.eventDigest) rows

/-- The digest that the next row has to name. -/
def headDigest (previous : Option D) (rows : List (CorrectionEvent D)) : Option D :=
  (rows.getLast?.map CorrectionEvent.eventDigest).or previous

theorem headDigest_cons : headDigest previous (e :: rows) = headDigest (some e.eventDigest) rows := by
  rw [headDigest, headDigest, List.getLast?_cons]
  cases rows.getLast? <;> rfl

theorem Chained.concat (h : Chained digest signature n previous rows)
    (he : Link digest signature (n + rows.length) (headDigest previous rows) e) :
    Chained digest signature n previous (rows ++ [e]) := by
  induction rows generalizing n previous with
  | nil => exact ⟨he, trivial⟩
  | cons r rows ih =>
    refine ⟨h.1, ih h.2 ?_⟩
    rwa [headDigest_cons, List.length_cons, ← Nat.add_assoc, Nat.add_right_comm] at he

theorem Chained.stage (h : Chained digest signature n previous rows) {k : Nat} (hk : rows[k]? = some e) :
    correctiveStageOrder[n + k]? = some e.stage := by
  induction rows generalizing n previous k with
  | nil => cases hk
  | cons r rows ih =>
    cases k with
    | zero =>
      cases hk
      exact h.1.stage
    | succ k =>
      rw [← Nat.add_assoc, Nat.add_right_comm]
      exact ih h.2 hk

theorem Chained.stages (h : Chained digest signature n previous rows) :
    rows.map (·.stage) <+: correctiveStageOrder.drop n := by
  induction rows generalizing n previous with
  | nil => exact List.nil_prefix
  | cons r rows ih =>
    obtain ⟨hn, hr⟩ := List.getElem?_eq_some_iff.1 h.1.stage
    rw [List.drop_eq_getElem_cons hn, hr, List.map_cons, List.prefix_cons_inj]
    exact ih h.2

theorem Chained.sequences (h : Chained digest signature n previous rows) :
    rows.map (·.sequence) = List.range' n rows.length := by
  induction rows generalizing n previous with
  | nil => rfl
  | cons r rows ih => rw [List.map_cons, h.1.sequence, ih h.2, List.length_cons, List.range'_succ]

/-! ## Reading -/

theorem length_select : (select t id).length = (rowsOf t id).length :=
  List.length_insertionSort _ _

theorem select_eq (h : Chained digest signature 0 none (rowsOf t id)) : select t id = rowsOf t id := by
  refine List.Pairwise.insertionSort_eq ?_
  have hsorted : ((rowsOf t id).map (·.sequence)).Pairwise (· ≤ ·) := by
    rw [h.sequences]
    exact (List.pairwise_lt_range' (s := 0) (n := _)).imp le_of_lt
  exact List.pairwise_map.1 hsorted

theorem correctionId_of_mem (h : e ∈ rowsOf t id) : e.correctionId = .text id := by
  simpa using (List.mem_filter.1 h).2

section
variable [DecidableEq D]

theorem decodeRow_ok {event : CorrectionEvent D} :
    decodeRow digest signature n previous e = .ok event ↔ Link digest signature n previous e ∧ event = e := by
  obtain ⟨⟨correctionId, failureSignatureId, sequence, stage, summary, er, gr, vr, prev⟩, eventDigest⟩ := e
  simp only [decodeRow, ite_error_ok, ↓throw_bind, pure_ok]
  constructor
  · rintro ⟨-, h₁, h₂, h₃, h₄, h₅, h₆⟩
    simp only [not_not] at h₁ h₂ h₃ h₄ h₅
    subst h₂ h₃ h₄
    exact ⟨⟨h₁, rfl, rfl, rfl, h₅⟩, h₆⟩
  · rintro ⟨⟨h₁, h₂, h₃, h₄, h₅⟩, rfl⟩
    simp only at h₁ h₂ h₃ h₄ h₅
    subst h₂ h₃ h₄
    exact ⟨Nat.not_le.2 (List.getElem?_eq_some_iff.1 h₁).1, not_not.2 h₁, not_not.2 rfl, not_not.2 rfl,
      not_not.2 rfl, not_not.2 h₅, rfl⟩

theorem decodeFrom_ok : decodeFrom digest signature n previous rows = .ok events ↔
    Chained digest signature n previous rows ∧ events = rows := by
  induction rows generalizing n previous events with
  | nil => simp [decodeFrom, Chained, eq_comm]
  | cons r rows ih =>
    simp only [decodeFrom, bind_eq_ok, pure_ok, decodeRow_ok, Chained]
    constructor
    · rintro ⟨_, ⟨hr, rfl⟩, rest, hrest, rfl⟩
      obtain ⟨hc, rfl⟩ := ih.1 hrest
      exact ⟨⟨hr, hc⟩, rfl⟩
    · rintro ⟨⟨hr, hc⟩, rfl⟩
      exact ⟨r, ⟨hr, rfl⟩, rows, ih.2 ⟨hc, rfl⟩, rfl⟩

theorem length_events {current : CorrectionState D} (h : state digest id t = .ok current) :
    current.events.length = (rowsOf t id).length := by
  rw [← length_select, state] at *
  split at h
  · cases h
  · simp only [decodeRows, bind_eq_ok, pure_ok, decodeFrom_ok] at h
    obtain ⟨events, ⟨-, rfl⟩, rfl⟩ := h
    exact (congrArg List.length ‹_›).symm

theorem stateOf_ok {given : SqlText} {current : CorrectionState D}
    (h : stateOf digest given t = .ok (id, current)) : given.stored = some id ∧ state digest id t = .ok current := by
  rw [stateOf] at h
  split at h
  · obtain ⟨_, hstate, heq⟩ := map_eq_ok.1 h
    cases heq
    exact ⟨‹_›, hstate⟩
  · cases h

theorem state_ok (h : Chained digest signature 0 none (rowsOf t id)) (hne : rowsOf t id ≠ []) :
    state digest id t = .ok ⟨.text id, signature, rowsOf t id⟩ := by
  rw [state, select_eq h]
  match hrows : rowsOf t id with
  | [] => exact absurd hrows hne
  | first :: rows =>
    have hmem : first ∈ rowsOf t id := hrows ▸ List.mem_cons_self
    rw [hrows] at h
    simp only [decodeRows, bind_eq_ok, pure_ok, decodeFrom_ok]
    rw [h.1.signature, correctionId_of_mem hmem]
    exact ⟨_, ⟨h, rfl⟩, rfl⟩

/-! ## Appends -/

omit [DecidableEq D] in
theorem insert_ok (h : insert e t = .ok t') :
    (e.correctionId, e.stage) ∉ t.rows.map (fun e => (e.correctionId, e.stage)) ∧
      t'.rows = t.rows ++ [e] := by
  rw [insert] at h
  split at h
  · cases h
  split at h
  · cases h
  · cases h
    exact ⟨‹_›, rfl⟩

theorem append_ok (h : append digest args t = .ok (e, t')) :
    (args.requireNew = true → rowsOf t args.correctionId = []) ∧
      (∀ r ∈ rowsOf t args.correctionId, r.stage ≠ args.stage) ∧
      t'.rows = t.rows ++ [e.storedAs args.correctionId] ∧
      ∃ n previous, position digest args (select t args.correctionId) = .ok (n, previous) ∧
        e = newEvent digest args n previous := by
  simp only [append, bind_eq_ok, ite_error_ok, ↓throw_bind, pure_ok, Prod.mk.injEq] at h
  obtain ⟨hnew, -, ⟨n, previous⟩, hposition, t'', hinsert, rfl, rfl⟩ := h
  obtain ⟨hfree, hrows⟩ := insert_ok hinsert
  refine ⟨fun hn => ?_, fun r hr hstage => hfree ?_, hrows, n, previous, hposition, rfl⟩
  · have hselect : select t args.correctionId = [] := not_not.1 fun hne => hnew ⟨hn, hne⟩
    rw [← List.length_eq_zero_iff, ← length_select, hselect, List.length_nil]
  · refine List.mem_map.2 ⟨r, (List.mem_filter.1 hr).1, ?_⟩
    rw [correctionId_of_mem hr, hstage]
    rfl

theorem position_ok (hrows : Chained digest signature 0 none rows) (h : position digest args rows = .ok (n, previous)) :
    n = rows.length ∧ previous = headDigest none rows ∧
      (rows ≠ [] → args.failureSignatureId = signature) := by
  cases rows with
  | nil =>
    cases h
    exact ⟨rfl, rfl, fun hne => absurd rfl hne⟩
  | cons first rows =>
    simp only [position, decodeRows, bind_eq_ok, ite_error_ok, ↓throw_bind, pure_ok, decodeFrom_ok,
      Prod.mk.injEq] at h
    obtain ⟨_, ⟨_, ⟨-, rfl⟩, rfl⟩, hbound, rfl, rfl⟩ := h
    refine ⟨rfl, (Option.or_none).symm, fun _ => ?_⟩
    exact (not_not.1 hbound).symm.trans hrows.1.signature

/-- Every correction is a chain, and its last stage names what prevents a recurrence. -/
structure Whole (digest : CorrectionPayload D → D) (t : CorrectionTable D) : Prop where
  chained : ∀ id, ∃ signature, Chained digest signature 0 none (rowsOf t id)
  prevented : ∀ e ∈ t.rows, e.stage = .prevent → RefsOk e.guardrailRefs ∧ RefsOk e.verificationRefs

omit [DecidableEq D] in
theorem Whole.empty : Whole digest (empty : CorrectionTable D) :=
  ⟨fun _ => ⟨"", trivial⟩, fun _ he => absurd he List.not_mem_nil⟩

omit [DecidableEq D] in
theorem rowsOf_concat (hrows : t'.rows = t.rows ++ [e]) :
    rowsOf t' id = rowsOf t id ++ if e.correctionId = .text id then [e] else [] := by
  rw [rowsOf, rowsOf, hrows, List.filter_append, List.filter_singleton]
  by_cases he : e.correctionId = .text id <;> simp [he]

theorem Whole.append (h : Whole digest t) (ha : append digest args t = .ok (e, t'))
    (hgiven : args.given = .text args.correctionId)
    (hstage : correctiveStageOrder[(rowsOf t args.correctionId).length]? = some args.stage)
    (hprevent : args.stage = .prevent → RefsOk args.guardrailRefs ∧ RefsOk args.verificationRefs) :
    Whole digest t' := by
  obtain ⟨-, -, hrows, n, previous, hposition, rfl⟩ := append_ok ha
  constructor
  · intro id
    obtain ⟨signature, hc⟩ := h.chained id
    rw [rowsOf_concat hrows]
    by_cases hid : args.correctionId = id
    · subst hid
      rw [select_eq hc] at hposition
      obtain ⟨rfl, rfl, hbound⟩ := position_ok hc hposition
      refine ⟨args.failureSignatureId, ?_⟩
      have hsame : (newEvent digest args (rowsOf t args.correctionId).length
          (headDigest none (rowsOf t args.correctionId))).storedAs args.correctionId =
          newEvent digest args (rowsOf t args.correctionId).length
            (headDigest none (rowsOf t args.correctionId)) := by
        rw [CorrectionEvent.storedAs, ← hgiven]
        rfl
      rw [hsame, if_pos (show (newEvent digest args (rowsOf t args.correctionId).length
        (headDigest none (rowsOf t args.correctionId))).correctionId = _ from hgiven)]
      refine Chained.concat ?_ ⟨?_, rfl, (Nat.zero_add _).symm, rfl, rfl⟩
      · by_cases hne : rowsOf t args.correctionId = []
        · rw [hne]
          trivial
        · rwa [hbound hne]
      · rwa [Nat.zero_add]
    · refine ⟨signature, ?_⟩
      rwa [if_neg (show (CorrectionEvent.storedAs _ args.correctionId).correctionId ≠ .text id from
        fun heq => hid (SqlText.text.inj heq)), List.append_nil]
  · intro r hr hlast
    rw [hrows, List.mem_append, List.mem_singleton] at hr
    rcases hr with hr | rfl
    · exact h.prevented r hr hlast
    · exact hprevent hlast

/-! ## Calls beside others -/

omit [DecidableEq D] in
theorem checkAdvance_ok {current : CorrectionState D} {stage : CorrectiveStage} {gr vr : List String}
    (h : checkAdvance current stage gr vr = .ok ()) :
    correctiveStageOrder[current.events.length]? = some stage ∧
      (stage = .prevent → RefsOk gr ∧ RefsOk vr) := by
  rw [checkAdvance] at h
  split at h
  · cases h
  · rename_i expected hexpected
    rw [ite_error_ok, not_not] at h
    obtain ⟨rfl, h⟩ := h
    refine ⟨hexpected, fun hlast => ?_⟩
    rw [if_pos hlast, bind_eq_ok] at h
    obtain ⟨_, hg, hv⟩ := h
    exact ⟨refs_ok hg, refs_ok hv⟩

omit [DecidableEq D] in
theorem check_eq {α β : Type} {r : Except Failure α} {a : α}
    {k : α → Prog Empty (CorrectionTable D) Failure β} (h : r = .ok a) :
    ((Prog.ofExcept r : Prog Empty (CorrectionTable D) Failure α) >>= k) = k a := by
  rw [h]
  rfl

variable {h : List (Move Empty (CorrectionTable D))}
  {trace : List (Step Empty (CorrectionTable D) CorrectionCall)}
  {m : Move Empty (CorrectionTable D)} {c : CorrectionCall}

theorem steps_append (hs : ((appendProgram digest args).after h).Steps t t') :
    h = [] ∧ appendProgram digest args = Prog.txn (append digest args) := by
  obtain ⟨_, hcheck, hs⟩ := Prog.steps_check.1 hs
  exact ⟨(Prog.steps_txn.1 hs).1, check_eq hcheck⟩

def CorrectionCall.given : CorrectionCall → SqlText
  | .start correctionId _ _ _ => .text correctionId
  | .advance given _ _ _ _ _ => given

/-- The moves of a call to which others were first: the correction it was to start was there, or
the one it was to advance has moved on since it was read. -/
def Lost : CorrectionCall → List (Move Empty (CorrectionTable D)) → Prop
  | .start correctionId _ _ _, moves => ∃ m, moves = [m] ∧ rowsOf m.before correctionId ≠ []
  | .advance given _ _ _ _ _, moves => ∃ m' m correctionId, moves = [m', m] ∧
    given.stored = some correctionId ∧ rowsOf m'.before correctionId ≠ rowsOf m.before correctionId

/-- What an append relies on: a correction that is new, or one whose stages were read before. -/
inductive Permitted (digest : CorrectionPayload D → D) (args : AppendArgs) :
    List (Move Empty (CorrectionTable D)) → Prop
  | start : args.requireNew = true → args.stage = .flag → Permitted digest args []
  | advance (m : Move Empty (CorrectionTable D)) :
      correctiveStageOrder[(rowsOf m.before args.correctionId).length]? = some args.stage →
      (args.stage = .prevent → RefsOk args.guardrailRefs ∧ RefsOk args.verificationRefs) →
      Permitted digest args [m]

/-- A step of a call reads, or is an append that the moves before it permit. -/
theorem steps_program
    (hs : ((program digest c).after h).Steps t t') :
    (t' = t ∧ h = [] ∧ ∀ m : Move Empty (CorrectionTable D), ¬ Lost c [m]) ∨ ∃ args : AppendArgs,
      args.given = c.given ∧ c.given.stored = some args.correctionId ∧
      Permitted digest args h ∧ (program digest c).after h = Prog.txn (append digest args) := by
  cases c with
  | start correctionId failureSignatureId summary evidenceRefs =>
    obtain ⟨_, hcheck, hs⟩ := Prog.steps_check.1 hs
    obtain ⟨rfl, happend⟩ := steps_append hs
    exact .inr ⟨_, rfl, rfl, .start rfl rfl, (check_eq hcheck).trans happend⟩
  | advance given stage summary er gr vr =>
    rcases Prog.steps_readM.1 hs with ⟨hnil, hs⟩ | ⟨h', m, ⟨correctionId, current⟩, rfl, hread, hs⟩
    · refine .inl ⟨hs, hnil, fun m hlost => ?_⟩
      obtain ⟨_, _, _, hmoves, -⟩ := hlost
      cases hmoves
    · obtain ⟨_, hcheck, hs⟩ := Prog.steps_check.1 hs
      obtain ⟨rfl, happend⟩ := steps_append hs
      obtain ⟨hstage, hprevent⟩ := checkAdvance_ok hcheck
      obtain ⟨hid, hstate⟩ := stateOf_ok hread
      rw [length_events hstate] at hstage
      refine .inr ⟨⟨given, correctionId, current.failureSignatureId, stage, summary, er, gr, vr, false⟩, rfl,
        hid, .advance m hstage hprevent, ?_⟩
      exact (check_eq hread).trans ((check_eq hcheck).trans happend)

theorem steps_grow (hs : ((program digest c).after h).Steps t t') : t.rows <+: t'.rows := by
  rcases steps_program hs with ⟨rfl, -⟩ | ⟨args, -, -, -, hafter⟩
  · exact List.prefix_rfl
  · have hcommit : t' = Prog.committed (append digest args t) t := by
      rw [hafter] at hs
      exact hs
    rw [hcommit]
    cases ha : append digest args t with
    | error e => exact List.prefix_rfl
    | ok r =>
      obtain ⟨e, t₁⟩ := r
      obtain ⟨-, -, hrows, -⟩ := append_ok ha
      exact ⟨_, hrows.symm⟩

/-- An append that comes after others of its correction is refused. -/
theorem stale_append (h : Whole digest t) (hgrow : m.before.rows <+: t.rows)
    (hstage : correctiveStageOrder[(rowsOf m.before args.correctionId).length]? = some args.stage)
    (ha : append digest args t = .ok (e, t')) :
    rowsOf t args.correctionId = rowsOf m.before args.correctionId := by
  obtain ⟨-, hfree, -⟩ := append_ok ha
  obtain ⟨signature, hc⟩ := h.chained args.correctionId
  have hprefix : rowsOf m.before args.correctionId <+: rowsOf t args.correctionId := hgrow.filter _
  refine (List.IsPrefix.eq_of_length_le hprefix (Nat.not_lt.1 fun hlt => ?_)).symm
  -- The row that was appended since then has the stage.
  have hrow := List.getElem?_eq_getElem hlt
  have hone := hc.stage hrow
  rw [Nat.zero_add, hstage] at hone
  exact hfree _ (List.mem_of_getElem? hrow) (Option.some.inj hone).symm

theorem Permitted.whole (hp : Permitted digest args h) (hgiven : args.given = .text args.correctionId)
    (hw : Whole digest t) (hgrow : ∀ m ∈ h, m.before.rows <+: t.rows) :
    Whole digest (Prog.committed (append digest args t) t) := by
  cases ha : append digest args t with
  | error e => exact hw
  | ok r =>
    obtain ⟨e, t'⟩ := r
    refine hw.append ha hgiven ?_ ?_
    · cases hp with
      | start hnew hflag => rw [(append_ok ha).1 hnew, hflag]; rfl
      | advance m hstage _ =>
        rwa [stale_append hw (hgrow m List.mem_cons_self) hstage ha]
    · cases hp with
      | start _ hflag =>
        rw [hflag]
        intro hlast
        cases hlast
      | advance m _ hprevent => exact hprevent

/-- The rows at a move of a thread are there for good. -/
theorem traced_grow {i : Nat} (h : Traced (program digest) empty trace t)
    (hm : m ∈ hist i trace) : m.before.rows <+: t.rows := by
  obtain ⟨st, hst, -, rfl⟩ := Traced.mem_of_hist hm
  exact (h.since (R := fun t t' => t.rows <+: t'.rows) (fun _ => List.prefix_rfl)
    (fun _ _ _ => List.IsPrefix.trans) (fun _ _ _ _ => steps_grow) hst).1

/-- The correction is given by a text. -/
def CorrectionCall.Exact (c : CorrectionCall) : Prop := c.given.IsText

theorem traced_whole (h : Traced (program digest) empty trace t) (hexact : ∀ st ∈ trace, st.call.Exact) :
    Whole digest t := by
  induction h with
  | init => exact .empty
  | step i c ht _ hs ih =>
    have hrest := ih fun st hst => hexact st (List.mem_cons_of_mem _ hst)
    rcases steps_program hs with ⟨rfl, -⟩ | ⟨args, hgiven, hid, hp, hafter⟩
    · exact hrest
    · rw [hafter] at hs
      have htext := (SqlText.isText_iff hid).1 (hexact _ List.mem_cons_self)
      exact hs ▸ hp.whole (hgiven.trans htext) hrest fun _ => traced_grow ht

theorem lost_raises {i : Nat} (h : Traced (program digest) empty trace m.before)
    (hexact : ∀ st ∈ trace, st.call.Exact)
    (hs : ((program digest c).after (hist i trace)).Steps m.before m.after)
    (hlost : Lost c (m :: hist i trace)) :
    ∃ e, (program digest c).after (m :: hist i trace) = .raise e := by
  rcases steps_program hs with ⟨-, hnil, hread⟩ | ⟨args, -, hid, hp, hafter⟩
  · rw [hnil] at hlost
    exact absurd hlost (hread m)
  · have hend : (program digest c).after (m :: hist i trace) =
        Prog.ofExcept ((append digest args m.before).map Prod.fst) := by
      rw [Prog.after, hafter]
      rfl
    rw [hend]
    cases ha : append digest args m.before with
    | error e => exact ⟨e, rfl⟩
    | ok r =>
      obtain ⟨e, t'⟩ := r
      have hgrow : ∀ m' ∈ hist i trace, m'.before.rows <+: m.before.rows := fun _ => traced_grow h
      generalize hist i trace = moves at hp hlost hgrow
      cases hp with
      | start hnew _ =>
        cases c with
        | start =>
          obtain ⟨_, hmoves, hne⟩ := hlost
          cases hmoves
          have hnone := (append_ok ha).1 hnew
          obtain rfl := Option.some.inj hid
          exact absurd hnone hne
        | advance =>
          obtain ⟨_, _, _, hmoves, -⟩ := hlost
          cases hmoves
      | advance m' hstage _ =>
        cases c with
        | start =>
          obtain ⟨_, hmoves, -⟩ := hlost
          cases hmoves
        | advance =>
          obtain ⟨_, _, _, hmoves, hgiven, hne⟩ := hlost
          cases hmoves
          have hsame := stale_append (traced_whole h hexact) (hgrow m' List.mem_cons_self) hstage ha
          obtain rfl := Option.some.inj (hid.symm.trans hgiven)
          exact absurd hsame hne

theorem program_commitsLast (c : CorrectionCall) : (program digest c).CommitsLast := by
  have happend (args : AppendArgs) : (appendProgram digest args).CommitsLast :=
    .bind (Prog.All.ofExcept _) fun _ => .txn _
  cases c with
  | start => exact .bind (Prog.All.ofExcept _) fun _ => happend _
  | advance => exact .bind (Prog.ReadOnly.readM _) fun _ => .bind (Prog.All.ofExcept _) fun _ => happend _

/-- Whatever calls run that are given their corrections by texts, and however their transactions
fall: every correction decodes to its rows, whose stages are a prefix of the order and whose digests
are chained, the last stage names its guardrails and verifications, and a call that lost raises; a
call that raised changed nothing. -/
theorem stages_in_order (digest : CorrectionPayload D → D) (es : List (Event CorrectionCall))
    (hexact : ∀ i c, .spawn i c ∈ es → c.Exact) :
    let P := (Pool.init empty).run (program digest) es
    (∀ id, rowsOf P.store id ≠ [] → ∃ current, state digest id P.store = .ok current ∧
      current.events = rowsOf P.store id ∧ current.events.map (·.stage) <+: correctiveStageOrder ∧
      Chained digest current.failureSignatureId 0 none current.events ∧
      ∀ e ∈ current.events, e.stage = .prevent → RefsOk e.guardrailRefs ∧ RefsOk e.verificationRefs) ∧
    (∀ i c p, P.thread i = some ⟨c, some p⟩ → Lost c (hist i P.trace) → ∃ e, p = .raise e) ∧
    ∀ i c e, P.thread i = some ⟨c, some (.raise e)⟩ →
      ∀ st ∈ P.trace, st.thread = i → st.move.after = st.move.before := by
  intro P
  have hfollows : Follows (program digest) empty P := Pool.follows _ _ es
  have hcalls : ∀ st ∈ P.trace, st.call.Exact := fun st hst => by
    obtain ⟨t, ht, hcall⟩ := hfollows.calls st hst
    rcases Pool.call_run ht with ⟨_, h, -⟩ | h
    · cases h
    · exact hcall ▸ hexact _ _ h
  have hwhole : Whole digest P.store := traced_whole hfollows.traced hcalls
  refine ⟨fun id hne => ?_, fun i c p hi hlost => ?_, fun i c e hi st hst hth =>
    hfollows.raised (program_commitsLast c) hi hst hth⟩
  · obtain ⟨signature, hc⟩ := hwhole.chained id
    exact ⟨_, state_ok hc hne, rfl, hc.stages, hc,
      fun e he => hwhole.prevented e (List.mem_filter.1 he).1⟩
  · rw [hfollows.prog i c p hi]
    match hmoves : hist i P.trace with
    | [] =>
      rw [hmoves] at hlost
      cases c with
      | start =>
        obtain ⟨_, hm, -⟩ := hlost
        cases hm
      | advance =>
        obtain ⟨_, _, _, hm, -⟩ := hlost
        cases hm
    | m :: rest =>
      obtain ⟨later, st, earlier, htrace, hth, hm, hrest⟩ := hist_split hmoves
      obtain ⟨t', ht', hcall⟩ := hfollows.calls st (htrace ▸ List.mem_append_right _ List.mem_cons_self)
      rw [hth, hi] at ht'
      cases ht'
      obtain ⟨hearlier, -, hs⟩ := (htrace ▸ hfollows.traced).split
      rw [hm, hth, ← hcall] at hs
      rw [hm] at hearlier
      subst hrest
      refine lost_raises hearlier (fun st' hst' => hcalls st' ?_) hs (hmoves ▸ hlost)
      exact htrace ▸ List.mem_append_right _ (List.mem_cons_of_mem _ hst')

/-! ## Samples -/

def sampleDigest (p : CorrectionPayload Nat) : Nat :=
  p.correctionId.literal.length + if p.correctionId = .text "5" then 0 else 1

def sampleStart : Event CorrectionCall := .spawn 0 (.start "5" "s" "flagged" ["e"])

def sampleSteps : List (Event CorrectionCall) := List.replicate 4 (.step 0) ++ List.replicate 4 (.step 1)

/-- A correction that is advanced by its text. -/
theorem stages_in_order_understood :
    ((Pool.init empty).run (program sampleDigest) ([sampleStart,
        .spawn 1 (.advance (.text "5") .understand "understood" ["e"] [] [])] ++ sampleSteps)).store.rows.length = 2 ∧
      ∃ current, state sampleDigest "5" ((Pool.init empty).run (program sampleDigest) ([sampleStart,
        .spawn 1 (.advance (.text "5") .understand "understood" ["e"] [] [])] ++ sampleSteps)).store = .ok current := by
  have hrows : ((Pool.init empty).run (program sampleDigest) ([sampleStart,
      .spawn 1 (.advance (.text "5") .understand "understood" ["e"] [] [])] ++ sampleSteps)).store.rows.length = 2 ∧
      rowsOf ((Pool.init empty).run (program sampleDigest) ([sampleStart,
      .spawn 1 (.advance (.text "5") .understand "understood" ["e"] [] [])] ++ sampleSteps)).store "5" ≠ [] := by
    decide +kernel
  refine ⟨hrows.1, ?_⟩
  obtain ⟨current, hstate, -⟩ := (stages_in_order sampleDigest ([sampleStart,
    .spawn 1 (.advance (.text "5") .understand "understood" ["e"] [] [])] ++ sampleSteps)
    (fun i c h => by
      simp only [sampleStart, sampleSteps, List.mem_append, List.mem_cons, List.mem_replicate, List.not_mem_nil,
        Event.spawn.injEq, reduceCtorEq, and_false, or_false] at h
      rcases h with ⟨-, rfl⟩ | ⟨-, rfl⟩ <;> exact ⟨_, rfl⟩)).1 "5" hrows.2
  exact ⟨current, hstate⟩

/-- A correction that is advanced by the number which its id spells: it does not decode any more. -/
theorem number_advance_breaks :
    rowsOf ((Pool.init empty).run (program sampleDigest) ([sampleStart,
        .spawn 1 (.advance (.other "5" (some "5")) .understand "understood" ["e"] [] [])] ++ sampleSteps)).store "5" ≠ [] ∧
      (state sampleDigest "5" ((Pool.init empty).run (program sampleDigest) ([sampleStart,
        .spawn 1 (.advance (.other "5" (some "5")) .understand "understood" ["e"] [] [])] ++
          sampleSteps)).store).isOk = false := by
  decide +kernel

end

end CorrectiveLearning

end VeraMono

import Mathlib.Tactic.NormNum
import VeraMono.Framework.Checks
import VeraMono.Model.Cascade

/-!
# What a cascade reports

A run ends in one of three ways: a call clears the gate of its layer, the budget is used up, or the
layers are. In the last two the best result is reported as it is, and it is called resolved if it has
an answer and nothing unresolved, although it has cleared no gate. A layer is listed as used before
the budget is looked at.
-/

namespace VeraMono.Cascade

open Framework

variable {K : Type} [LinearOrder K] [Zero K] [One K]

/-! ## The best result -/

section

variable {a b c : LayerResult K}

theorem isBetter_iff : isBetter a b = true ↔ a.unresolved.length < b.unresolved.length ∨
    (a.unresolved.length = b.unresolved.length ∧ b.confidence < a.confidence) := by
  unfold isBetter
  split_ifs with h
  · simp only [decide_eq_true_eq]
    exact ⟨.inl, fun h' => h'.elim id fun h' => absurd h'.1 h⟩
  · simp only [decide_eq_true_eq]
    have h := not_not.1 h
    exact ⟨fun h' => .inr ⟨h, h'⟩, fun h' => h'.elim (fun hlt => absurd h hlt.ne) And.right⟩

/-- What the best so far is not beaten by does not beat a better one. -/
theorem isBetter_mono (h : isBetter b a = true) (hc : isBetter c a = false) : isBetter c b = false := by
  rw [Bool.eq_false_iff, ne_eq, isBetter_iff] at hc ⊢
  rw [isBetter_iff] at h
  rintro (hlt | ⟨heq, hlt⟩)
  · obtain hba | ⟨hba, -⟩ := h
    · exact hc (.inl (hlt.trans hba))
    · exact hc (.inl (hlt.trans_eq hba))
  · obtain hba | ⟨hba, hab⟩ := h
    · exact hc (.inl (heq.trans_lt hba))
    · exact hc (.inr ⟨heq.trans hba, hab.trans hlt⟩)

theorem isBetter_irrefl (a : LayerResult K) : isBetter a a = false := by
  rw [Bool.eq_false_iff, ne_eq, isBetter_iff]
  rintro (hlt | ⟨-, hlt⟩) <;> exact lt_irrefl _ hlt

end

/-- The first of the results that no other beats. -/
def leading (results : List (LayerResult K)) : Option (LayerResult K) := results.foldl betterOf none

theorem leading_concat (results : List (LayerResult K)) (r : LayerResult K) :
    leading (results ++ [r]) = betterOf (leading results) r := by
  rw [leading, List.foldl_append]
  rfl

theorem leading_unbeaten (results : List (LayerResult K)) (h : results ≠ []) :
    ∃ r ∈ results, leading results = some r ∧ ∀ other ∈ results, isBetter other r = false := by
  induction results using List.reverseRecOn with
  | nil => exact absurd rfl h
  | append_singleton results last ih =>
    rw [leading_concat]
    rcases eq_or_ne results [] with rfl | hne
    · exact ⟨last, by simp, rfl, by simpa using isBetter_irrefl last⟩
    · obtain ⟨r, hr, hlead, hbest⟩ := ih hne
      rw [hlead]
      cases hbetter : isBetter last r with
      | true =>
        refine ⟨last, by simp, by simp [betterOf, hbetter], fun other hother => ?_⟩
        obtain hother | hother := List.mem_append.1 hother
        · exact isBetter_mono hbetter (hbest other hother)
        · rw [List.mem_singleton.1 hother]
          exact isBetter_irrefl last
      | false =>
        refine ⟨r, List.mem_append_left _ hr, by simp [betterOf, hbetter], fun other hother => ?_⟩
        obtain hother | hother := List.mem_append.1 hother
        · exact hbest other hother
        · rw [List.mem_singleton.1 hother]
          exact hbetter

/-! ## The evidence -/

/-- Items that are added when they are not there yet are the new ones, each once. -/
theorem extendNew_eq (items : List String) : ∀ evidence : List String,
    extendNew evidence items = evidence ++ (items.filter (· ∉ evidence)).eraseDups := by
  induction items with
  | nil => simp [extendNew]
  | cons item items ih =>
    intro evidence
    by_cases hmem : item ∈ evidence
    · have hstep : extendNew evidence (item :: items) = extendNew evidence items := by simp [extendNew, hmem]
      rw [hstep, ih, List.filter_cons_of_neg (by simpa using hmem)]
    · have hstep : extendNew evidence (item :: items) = extendNew (evidence ++ [item]) items := by
        simp [extendNew, hmem]
      rw [hstep, ih, List.filter_cons_of_pos (by simpa using hmem), List.eraseDups_cons, List.filter_filter,
        List.append_assoc, List.singleton_append]
      congr 3
      refine List.filter_congr fun x _ => ?_
      rw [Bool.eq_iff_iff]
      simp [List.mem_append, and_comm]

theorem extendNew_append (evidence items more : List String) :
    extendNew (extendNew evidence items) more = extendNew evidence (items ++ more) := by
  simp [extendNew, List.foldl_append]

/-- Evidence that is gathered from nothing is what came, without duplicates. -/
theorem extendNew_nil (items : List String) : extendNew [] items = items.eraseDups := by
  rw [extendNew_eq]
  simp

/-! ## The state between calls -/

def resultsOf (calls : List (LayerCall K)) : List (LayerResult K) := calls.map (·.result)

def evidenceOf (calls : List (LayerCall K)) : List String := calls.flatMap (·.result.evidence)

/-- What the state says of the calls so far. -/
structure Recorded (limit : Nat) (s : CascadeState K) : Prop where
  total : s.totalIterations = s.calls.length
  bounded : s.calls.length ≤ limit
  best : s.best = leading (resultsOf s.calls)
  evidence : s.evidence = (evidenceOf s.calls).eraseDups

/-- No call has cleared its gate. -/
def Uncleared (calls : List (LayerCall K)) : Prop := ∀ call ∈ calls, call.cleared = false

/-- The loop of the call's layer ends with it. -/
def LayerCall.leaves (call : LayerCall K) : Bool :=
  decide (call.round + 1 = call.layer.maxIterations) || !progress call.request.unresolved call.result

variable {limit : Nat} {s s' start : CascadeState K} {layer : LayerSpec K} {position : Nat}
variable {call : LayerCall K} {calls new : List (LayerCall K)}

theorem Recorded.record (h : Recorded limit s) (hlt : s.totalIterations < limit) (call : LayerCall K) :
    Recorded limit (s.record call) := by
  refine ⟨?_, ?_, ?_, ?_⟩
  · simp [CascadeState.record, h.total]
  · simp only [CascadeState.record, List.length_append, List.length_singleton]
    have := h.total
    omega
  · simp only [CascadeState.record, resultsOf, List.map_append, List.map_singleton, leading_concat]
    rw [h.best]
    rfl
  · simp only [CascadeState.record, evidenceOf, List.flatMap_append, List.flatMap_singleton]
    rw [h.evidence, evidenceOf, ← extendNew_nil, extendNew_append, extendNew_nil]

/-- Calls of one layer that were made since `start`. -/
structure During (limit : Nat) (layer : LayerSpec K) (position : Nat) (start s : CascadeState K)
    (new : List (LayerCall K)) : Prop where
  recorded : Recorded limit s
  uncleared : Uncleared s.calls
  used : s.used = start.used
  calls : s.calls = start.calls ++ new
  here : ∀ call ∈ new, call.layer = layer ∧ call.position = position

def RoundsLeft (layer : LayerSpec K) (new : List (LayerCall K)) (rounds : Nat) : Prop :=
  (new = [] ∧ rounds = layer.maxIterations) ∨ ∃ init last, new = init ++ [last] ∧
    last.round + 1 + rounds = layer.maxIterations ∧ progress last.request.unresolved last.result = true

inductive LayerEnd (limit : Nat) (layer : LayerSpec K) (position : Nat) (start : CascadeState K) :
    Except (Finished K) (CascadeState K) → Prop
  /-- The layer is left after a call. -/
  | left {s : CascadeState K} {init : List (LayerCall K)} {last : LayerCall K}
      (hduring : During limit layer position start s (init ++ [last])) (hleaves : last.leaves = true) :
      LayerEnd limit layer position start (.ok s)
  /-- A call has cleared the gate. -/
  | cleared {s : CascadeState K} {new : List (LayerCall K)} {call : LayerCall K}
      (hduring : During limit layer position start s new) (hlt : s.totalIterations < limit)
      (hhere : call.layer = layer ∧ call.position = position) (hcleared : call.cleared = true) :
      LayerEnd limit layer position start (.error (finish (some call.result) (s.record call) "resolved"))
  /-- The budget is used up. -/
  | exhausted {s : CascadeState K} {new : List (LayerCall K)}
      (hduring : During limit layer position start s new) (hlimit : limit ≤ s.totalIterations)
      (hlast : new = [] ∨ ∃ init last, new = init ++ [last] ∧ last.leaves = false) :
      LayerEnd limit layer position start (.error (finish s.best s "iteration_budget_exhausted"))

theorem During.record (h : During limit layer position start s new) (call : LayerCall K) (hlt : s.totalIterations < limit)
    (hhere : call.layer = layer ∧ call.position = position) (hcleared : call.cleared = false)
    (request : ReasoningRequest) :
    During limit layer position start { s.record call with request } (new ++ [call]) := by
  have hrecorded := h.recorded.record hlt call
  refine ⟨⟨hrecorded.total, hrecorded.bounded, hrecorded.best, hrecorded.evidence⟩, ?_, h.used, ?_, ?_⟩
  · intro other hother
    obtain hother | hother := List.mem_append.1 hother
    · exact h.uncleared other hother
    · rw [List.mem_singleton.1 hother]
      exact hcleared
  · simp [CascadeState.record, h.calls, List.append_assoc]
  · intro other hother
    obtain hother | hother := List.mem_append.1 hother
    · exact h.here other hother
    · rw [List.mem_singleton.1 hother]
      exact hhere

theorem iterate_end (rounds : Nat) (previous : List String) (s : CascadeState K) (new : List (LayerCall K))
    (h : During limit layer position start s new) (hprevious : previous = s.request.unresolved)
    (hrounds : RoundsLeft layer new rounds) :
    LayerEnd limit layer position start (iterate limit layer position rounds previous s) := by
  induction rounds generalizing previous s new with
  | zero =>
    obtain ⟨-, hzero⟩ | ⟨init, last, rfl, hround, -⟩ := hrounds
    · exact absurd (hzero ▸ layer.positive) (by omega)
    · have hlast := (h.here last (by simp)).1
      exact .left h (by simp [LayerCall.leaves, hlast, hround])
  | succ rounds ih =>
    rw [iterate]
    split
    next hlimit =>
      refine .exhausted h hlimit ?_
      obtain ⟨hnil, -⟩ | ⟨init, last, hnew, hround, hprogress⟩ := hrounds
      · exact .inl hnil
      · have hlast := (h.here last (by simp [hnew])).1
        refine .inr ⟨init, last, hnew, ?_⟩
        simp only [LayerCall.leaves, hprogress, hlast, Bool.not_true, Bool.or_false, decide_eq_false_iff_not]
        omega
    next hlimit =>
      have hlt := not_le.1 hlimit
      dsimp only
      split
      next hcleared => exact .cleared h hlt ⟨rfl, rfl⟩ hcleared
      next hcleared =>
        have hduring := h.record ⟨layer, position, layer.maxIterations - (rounds + 1), s.request,
          layer.run s.totalIterations s.request⟩ hlt ⟨rfl, rfl⟩ (by simpa using hcleared)
        have hround : layer.maxIterations - (rounds + 1) + 1 + rounds = layer.maxIterations := by
          obtain ⟨-, hall⟩ | ⟨init, last, -, hround, -⟩ := hrounds <;> omega
        split
        next hprogress =>
          exact ih _ _ _ (hduring _) rfl (.inr ⟨_, _, rfl, hround, by rwa [hprevious] at hprogress⟩)
        next hprogress =>
          refine .left (hduring _) ?_
          rw [hprevious] at hprogress
          simp [LayerCall.leaves, hprogress]

/-! ## The layers -/

structure CalledLayers (ls : List (LayerSpec K × Nat)) (calls : List (LayerCall K)) : Prop where
  called : ∀ l ∈ ls, ∃ call ∈ calls, call.position = l.2
  within : ∀ call ∈ calls, ∃ l ∈ ls, call.position = l.2

def calledNames (layers : List (LayerSpec K)) (calls : List (LayerCall K)) : List String :=
  (layers.zipIdx.filter fun l => l.2 ∈ calls.map (·.position)).map (·.1.name)

variable {layers : List (LayerSpec K)}

theorem zipIdx_position {before : List (LayerSpec K × Nat)}
    {l : LayerSpec K × Nat} (after : List (LayerSpec K × Nat))
    (h : layers.zipIdx = before ++ l :: after) : l.2 = before.length := by
  have hlt : before.length < layers.zipIdx.length := by simp [h]
  have hget : layers.zipIdx[before.length] = l := by simp [h]
  rw [← hget, List.getElem_zipIdx]
  simp

theorem zipIdx_inj {before after : List (LayerSpec K × Nat)}
    (h : layers.zipIdx = before ++ after) {l m : LayerSpec K × Nat} (hl : l ∈ before) (hm : m ∈ after) : l.2 ≠ m.2 := by
  have hnodup : (layers.zipIdx.map Prod.snd).Nodup := by
    rw [List.zipIdx_map_snd]
    exact List.nodup_range'
  rw [h, List.map_append, List.nodup_append] at hnodup
  exact hnodup.2.2 _ (List.mem_map_of_mem hl) _ (List.mem_map_of_mem hm)

theorem calledNames_eq {before after : List (LayerSpec K × Nat)}
    (h : layers.zipIdx = before ++ after) (hcalled : CalledLayers before calls) :
    calledNames layers calls = before.map (·.1.name) := by
  have hbefore : before.filter (fun l => l.2 ∈ calls.map (·.position)) = before := by
    refine List.filter_eq_self.2 fun l hl => ?_
    obtain ⟨call, hcall, hposition⟩ := hcalled.called l hl
    simpa using ⟨call, hcall, hposition⟩
  have hafter : after.filter (fun l => l.2 ∈ calls.map (·.position)) = [] := by
    refine List.filter_eq_nil_iff.2 fun m hm hmem => ?_
    obtain ⟨call, hcall, hposition⟩ := List.mem_map.1 (of_decide_eq_true hmem)
    obtain ⟨l, hl, hl'⟩ := hcalled.within call hcall
    exact zipIdx_inj h hl hm (hl'.symm.trans hposition)
  rw [calledNames, h, List.filter_append, hbefore, hafter, List.append_nil]

theorem CalledLayers.snoc {ls : List (LayerSpec K × Nat)} (h : CalledLayers ls calls) (hnew : new ≠ [])
    (hhere : ∀ call ∈ new, call.layer = layer ∧ call.position = position) :
    CalledLayers (ls ++ [(layer, position)]) (calls ++ new) := by
  constructor
  · intro l hl
    obtain hl | hl := List.mem_append.1 hl
    · obtain ⟨call, hcall, hposition⟩ := h.called l hl
      exact ⟨call, List.mem_append_left _ hcall, hposition⟩
    · obtain rfl := List.mem_singleton.1 hl
      obtain ⟨call, hcall⟩ := List.exists_mem_of_ne_nil _ hnew
      exact ⟨call, List.mem_append_right _ hcall, (hhere call hcall).2⟩
  · intro call hcall
    obtain hcall | hcall := List.mem_append.1 hcall
    · obtain ⟨l, hl, hposition⟩ := h.within call hcall
      exact ⟨l, List.mem_append_left _ hl, hposition⟩
    · exact ⟨(layer, position), by simp, (hhere call hcall).2⟩

/-- The state before a layer, when the layers `done` have been left. -/
structure Between (limit : Nat) (done : List (LayerSpec K × Nat)) (s : CascadeState K) : Prop where
  recorded : Recorded limit s
  uncleared : Uncleared s.calls
  used : s.used = done.map (·.1.name)
  called : CalledLayers done s.calls
  last : ∀ earlier l, done = earlier ++ [l] → ∃ init last, s.calls = init ++ [last] ∧ last.leaves = true ∧
    last.position = l.2

inductive RunEnd (engine : CascadeEngine K) : Finished K → Prop
  /-- The last call has cleared its gate. -/
  | cleared {s : CascadeState K} {ls rest : List (LayerSpec K × Nat)} {call : LayerCall K}
      (hlayers : engine.layers.zipIdx = ls ++ rest) (hrecorded : Recorded engine.maxTotalIterations (s.record call))
      (hcleared : call.cleared = true) (hused : s.used = ls.map (·.1.name))
      (hcalled : CalledLayers ls (s.record call).calls) :
      RunEnd engine (finish (some call.result) (s.record call) "resolved")
  /-- All layers that were entered were called, and the last call does not end a layer before another. -/
  | called {s : CascadeState K} {ls rest : List (LayerSpec K × Nat)} {init : List (LayerCall K)} {last : LayerCall K}
      {reason : String} (hlayers : engine.layers.zipIdx = ls ++ rest)
      (hrecorded : Recorded engine.maxTotalIterations s) (huncleared : Uncleared s.calls)
      (hused : s.used = ls.map (·.1.name)) (hcalled : CalledLayers ls s.calls) (hcalls : s.calls = init ++ [last])
      (hlast : last.leaves = false ∨ engine.layers.length ≤ last.position + 1) : RunEnd engine (finish s.best s reason)
  /-- The budget was used up when a layer was left and the next was entered. -/
  | entered {s : CascadeState K} {ls rest : List (LayerSpec K × Nat)} {l : LayerSpec K × Nat}
      {init : List (LayerCall K)} {last : LayerCall K} (hlayers : engine.layers.zipIdx = ls ++ l :: rest)
      (hrecorded : Recorded engine.maxTotalIterations s) (huncleared : Uncleared s.calls)
      (hused : s.used = (ls ++ [l]).map (·.1.name)) (hcalled : CalledLayers ls s.calls)
      (hcalls : s.calls = init ++ [last]) (hlimit : s.calls.length = engine.maxTotalIterations)
      (hleaves : last.leaves = true) (hnext : last.position + 1 < engine.layers.length) :
      RunEnd engine (finish s.best s "iteration_budget_exhausted")

theorem runLayers_end (engine : CascadeEngine K) (rest : List (LayerSpec K × Nat)) :
    ∀ (done : List (LayerSpec K × Nat)) (s : CascadeState K), engine.layers.zipIdx = done ++ rest →
      Between engine.maxTotalIterations done s →
      RunEnd engine (match runLayers engine.maxTotalIterations rest s with
        | .error finished => finished
        | .ok s => finish s.best s "layers_exhausted") := by
  induction rest with
  | nil =>
    intro done s hlayers h
    have hne : done ≠ [] := by
      rintro rfl
      simp [engine.layered] at hlayers
    obtain ⟨earlier, l, rfl⟩ := List.eq_nil_or_concat' done |>.resolve_left hne
    obtain ⟨init, last, hcalls, -, hposition⟩ := h.last earlier l rfl
    have hlength : engine.layers.length = earlier.length + 1 := by
      simpa using congrArg List.length hlayers
    have hl : l.2 = earlier.length := zipIdx_position [] (by simpa using hlayers)
    exact .called hlayers h.recorded h.uncleared h.used h.called hcalls (.inr (by omega))
  | cons l rest ih =>
    obtain ⟨layer, position⟩ := l
    intro done s hlayers h
    have hlayers' : engine.layers.zipIdx = (done ++ [(layer, position)]) ++ rest := by
      rw [hlayers, List.append_assoc, List.singleton_append]
    have hused' : s.used ++ [layer.name] = (done ++ [(layer, position)]).map (·.1.name) := by
      rw [h.used, List.map_append]
      rfl
    have hstart : During engine.maxTotalIterations layer position { s with used := s.used ++ [layer.name] }
        { s with used := s.used ++ [layer.name] } [] :=
      ⟨⟨h.recorded.total, h.recorded.bounded, h.recorded.best, h.recorded.evidence⟩, h.uncleared, rfl, by simp, by simp⟩
    have hend := iterate_end layer.maxIterations s.request.unresolved _ [] hstart rfl (.inl ⟨rfl, rfl⟩)
    simp only [runLayers]
    generalize iterate engine.maxTotalIterations layer position layer.maxIterations s.request.unresolved
      { s with used := s.used ++ [layer.name] } = outcome at hend ⊢
    cases hend with
    | left hduring hleaves =>
      rename_i s' init last
      have hcalled := h.called.snoc (by simp) hduring.here
      refine ih (done ++ [(layer, position)]) s' hlayers'
        ⟨hduring.recorded, hduring.uncleared, hduring.used.trans hused', hduring.calls ▸ hcalled, ?_⟩
      intro earlier l hl
      obtain ⟨-, hl⟩ := List.append_inj' hl rfl
      obtain rfl := (List.cons.inj hl).1
      exact ⟨s.calls ++ init, last, by rw [hduring.calls, List.append_assoc], hleaves, (hduring.here last (by simp)).2⟩
    | cleared hduring hlt hhere hcleared =>
      rename_i s' new call
      have hcalls : (s'.record call).calls = s.calls ++ (new ++ [call]) := by
        simp [CascadeState.record, hduring.calls, List.append_assoc]
      refine .cleared hlayers' (hduring.recorded.record hlt call) hcleared (hduring.used.trans hused') ?_
      rw [hcalls]
      refine h.called.snoc (by simp) fun other hother => ?_
      obtain hother | hother := List.mem_append.1 hother
      · exact hduring.here other hother
      · rw [List.mem_singleton.1 hother]
        exact hhere
    | exhausted hduring hlimit hlast =>
      rename_i s' new
      obtain rfl | ⟨init, last, rfl, hleaves⟩ := hlast
      · have hcalls : s'.calls = s.calls := by simpa using hduring.calls
        have hfull : s'.calls.length = engine.maxTotalIterations :=
          le_antisymm hduring.recorded.bounded (hduring.recorded.total ▸ hlimit)
        have hne : done ≠ [] := by
          rintro rfl
          have hnone : s.calls = [] := by
            refine List.eq_nil_iff_forall_not_mem.2 fun call hcall => ?_
            obtain ⟨l, hl, -⟩ := h.called.within call hcall
            cases hl
          rw [hcalls, hnone] at hfull
          exact absurd engine.positive (by simp at hfull; omega)
        obtain ⟨earlier, l, rfl⟩ := List.eq_nil_or_concat' done |>.resolve_left hne
        obtain ⟨init, last, hlast, hleaves, hposition⟩ := h.last earlier l rfl
        have hl : l.2 = earlier.length := zipIdx_position ((layer, position) :: rest) (by simpa using hlayers)
        have hlength : engine.layers.length = earlier.length + 1 + (rest.length + 1) := by
          have hlen := congrArg List.length hlayers
          simp only [List.length_zipIdx, List.length_append, List.length_cons, List.length_nil] at hlen
          omega
        exact .entered hlayers hduring.recorded hduring.uncleared (hduring.used.trans hused') (hcalls ▸ h.called)
          (hcalls.trans hlast) hfull hleaves (by omega)
      · exact .called hlayers' hduring.recorded hduring.uncleared (hduring.used.trans hused')
          (hduring.calls ▸ h.called.snoc (by simp) hduring.here)
          (by rw [hduring.calls, ← List.append_assoc]) (.inl hleaves)

theorem run_end (engine : CascadeEngine K) (prompt : String) : RunEnd engine (engine.run prompt) := by
  refine runLayers_end engine engine.layers.zipIdx [] _ (List.nil_append _).symm ⟨⟨rfl, Nat.zero_le _, rfl, rfl⟩, ?_, rfl,
    ⟨?_, ?_⟩, ?_⟩
  · exact fun call hcall => absurd hcall List.not_mem_nil
  · exact fun l hl => absurd hl List.not_mem_nil
  · exact fun call hcall => absurd hcall List.not_mem_nil
  · intro earlier l hl
    simp at hl

/-! ## Honesty -/

/-- What an outcome says of a result. -/
def Reports (o : CascadeOutcome K) (r : LayerResult K) : Prop :=
  o.answer = r.answer ∧ o.confidence = r.confidence ∧ o.unresolved = r.unresolved

/-- An outcome that says of the calls what they were. -/
structure Honest (engine : CascadeEngine K) (o : CascadeOutcome K) (calls : List (LayerCall K)) : Prop where
  bounded : calls.length ≤ engine.maxTotalIterations
  resolved : o.resolved = true → ∃ call ∈ calls, Reports o call.result ∧ call.cleared = true
  layers : o.layersUsed = calledNames engine.layers calls
  evidence : o.evidence = (evidenceOf calls).eraseDups
  unbeaten : Uncleared calls → ∃ call ∈ calls, Reports o call.result ∧
    ∀ other ∈ calls, isBetter other.result call.result = false

/-- No call cleared its gate, and the first of the unbeaten results has an answer and nothing unresolved. -/
def UnclearedAnswer (calls : List (LayerCall K)) : Prop :=
  Uncleared calls ∧ ∃ r, leading (resultsOf calls) = some r ∧ r.resolved = true

/-- The budget was used up by the last call of a layer that others follow. -/
def EndsWithLayer (engine : CascadeEngine K) (calls : List (LayerCall K)) : Prop :=
  Uncleared calls ∧ calls.length = engine.maxTotalIterations ∧
    ∃ init last, calls = init ++ [last] ∧ last.leaves = true ∧ last.position + 1 < engine.layers.length

section

variable {engine : CascadeEngine K}

theorem finish_some (r : LayerResult K) (s : CascadeState K) (reason : String) :
    Reports (finish (some r) s reason).1 r ∧ (finish (some r) s reason).1.resolved = r.resolved ∧
      (finish (some r) s reason).1.layersUsed = s.used ∧ (finish (some r) s reason).1.evidence = s.evidence ∧
      (finish (some r) s reason).2 = s.calls := ⟨⟨rfl, rfl, rfl⟩, rfl, rfl, rfl, rfl⟩

theorem finish_best (h : Recorded limit s) (hcalls : s.calls ≠ []) (reason : String) :
    ∃ call ∈ s.calls, leading (resultsOf s.calls) = some call.result ∧ finish s.best s reason =
      finish (some call.result) s reason ∧ ∀ other ∈ s.calls, isBetter other.result call.result = false := by
  obtain ⟨r, hr, hlead, hbest⟩ := leading_unbeaten (resultsOf s.calls) (by simpa [resultsOf] using hcalls)
  obtain ⟨call, hcall, rfl⟩ := List.mem_map.1 hr
  exact ⟨call, hcall, hlead, by rw [h.best, hlead], fun other hother => hbest _ (List.mem_map_of_mem hother)⟩

/-- An uncleared run is honest about the rest, and about each of the two where it can be. -/
theorem uncleared_honest (hrecorded : Recorded engine.maxTotalIterations s) (huncleared : Uncleared s.calls)
    (hcalls : s.calls ≠ []) (reason : String) :
    Honest engine (finish s.best s reason).1 (finish s.best s reason).2 ↔
      ¬ UnclearedAnswer s.calls ∧ s.used = calledNames engine.layers s.calls := by
  obtain ⟨call, hcall, hlead, hfinish, hbest⟩ := finish_best hrecorded hcalls reason
  obtain ⟨hreports, hresolved, hused, hevidence, hlog⟩ := finish_some call.result s reason
  rw [hfinish, hlog]
  constructor
  · intro h
    refine ⟨?_, hused.symm.trans h.layers⟩
    rintro ⟨-, r, hr, hres⟩
    obtain rfl := Option.some.inj (hlead.symm.trans hr)
    obtain ⟨other, hother, -, hcleared⟩ := h.resolved (hresolved.trans hres)
    exact Bool.false_ne_true ((huncleared other hother).symm.trans hcleared)
  · rintro ⟨hanswer, hlayers⟩
    refine ⟨hrecorded.bounded, fun hres => ?_, hused.trans hlayers, hevidence.trans hrecorded.evidence,
      fun _ => ⟨call, hcall, hreports, hbest⟩⟩
    exact absurd ⟨huncleared, call.result, hlead, hresolved.symm.trans hres⟩ hanswer

/-- A run is honest unless it reports an answer that cleared no gate, or lists a layer that it did not call. -/
theorem run_honest_iff (engine : CascadeEngine K) (prompt : String) :
    Honest engine (engine.run prompt).1 (engine.run prompt).2 ↔
      ¬ UnclearedAnswer (engine.run prompt).2 ∧ ¬ EndsWithLayer engine (engine.run prompt).2 := by
  have hend := run_end engine prompt
  generalize engine.run prompt = finished at hend ⊢
  cases hend with
  | cleared hlayers hrecorded hcleared hused hcalled =>
    rename_i s ls rest call
    obtain ⟨hreports, hresolved, hused', hevidence, hlog⟩ := finish_some call.result (s.record call) "resolved"
    have hmem : call ∈ (s.record call).calls := by simp [CascadeState.record]
    have hnot : ¬ Uncleared (s.record call).calls := fun h => Bool.false_ne_true ((h call hmem).symm.trans hcleared)
    rw [hlog]
    refine iff_of_true ⟨hrecorded.bounded, fun _ => ⟨call, hmem, hreports, hcleared⟩, ?_,
      hevidence.trans hrecorded.evidence, fun h => absurd h hnot⟩ ⟨fun h => hnot h.1, fun h => hnot h.1⟩
    rw [calledNames_eq hlayers hcalled]
    exact hused
  | called hlayers hrecorded huncleared hused hcalled hcalls hlast =>
    rename_i s ls rest init last reason
    have hlog : (finish s.best s reason).2 = s.calls := by cases s.best <;> rfl
    rw [uncleared_honest hrecorded huncleared (by simp [hcalls]) reason, hlog]
    refine and_congr_right fun _ => iff_of_true (hused.trans (calledNames_eq hlayers hcalled).symm) ?_
    rintro ⟨-, -, init', last', hcalls', hleaves, hnext⟩
    obtain ⟨-, heq⟩ := List.append_inj' (hcalls.symm.trans hcalls') rfl
    obtain rfl := (List.cons.inj heq).1
    obtain hlast | hlast := hlast
    · exact Bool.false_ne_true (hlast.symm.trans hleaves)
    · omega
  | entered hlayers hrecorded huncleared hused hcalled hcalls hlimit hleaves hnext =>
    rename_i s ls rest l init last
    have hlog : (finish s.best s "iteration_budget_exhausted").2 = s.calls := by cases s.best <;> rfl
    rw [uncleared_honest hrecorded huncleared (by simp [hcalls]), hlog]
    refine and_congr_right fun _ => iff_of_false ?_ (not_not.2 ⟨huncleared, hlimit, init, last, hcalls, hleaves, hnext⟩)
    intro heq
    rw [hused, calledNames_eq hlayers hcalled] at heq
    simpa using congrArg List.length heq

/-- A cascade's verdict on a prompt is honest in exactly the runs in which no uncleared answer leads and the budget
does not end with a layer that others follow. -/
theorem resolve_honest_iff (engine : CascadeEngine K) (prompt : String) :
    (∀ finished, engine.resolve prompt = .ok finished → Honest engine finished.1 finished.2) ↔
      ∀ finished, engine.resolve prompt = .ok finished →
        ¬ UnclearedAnswer finished.2 ∧ ¬ EndsWithLayer engine finished.2 := by
  unfold CascadeEngine.resolve
  split
  · simp only [Except.ok.injEq, forall_eq']
    exact run_honest_iff engine prompt
  · simp

end

/-! ## A guess -/

/-- An answer of which a layer is half sure. -/
def sampleGuess : LayerResult ℚ where
  answer := some "guess"
  unresolved := []
  confidence := 1 / 2
  evidence := []
  changedDimensions := []
  unit := by norm_num
  texts := by simp

/-- A layer that guesses once, and should be surer. -/
def sampleLayer (name : String) (named : name ≠ "") : LayerSpec ℚ where
  name := name
  run _ _ := sampleGuess
  minConfidence := 4 / 5
  maxIterations := 1
  named := named
  unit := by norm_num
  positive := le_rfl

/-- Two such layers, and one call. -/
def sampleEngine : CascadeEngine ℚ where
  layers := [sampleLayer "L1" (by decide), sampleLayer "L2" (by decide)]
  maxTotalIterations := 1
  layered := by simp
  positive := le_rfl

/-- The guess is reported as resolved, and the second layer as used, which was not called. -/
theorem guess_resolved :
    (sampleEngine.run "q").1.resolved = true ∧ (sampleEngine.run "q").1.layersUsed = ["L1", "L2"] ∧
      (sampleEngine.run "q").2.map (·.layer.name) = ["L1"] ∧
      ¬ ∀ (engine : CascadeEngine ℚ) (prompt : String) (finished : Finished ℚ),
        engine.resolve prompt = .ok finished → Honest engine finished.1 finished.2 := by
  have hused : (sampleEngine.run "q").1.layersUsed = ["L1", "L2"] := by decide +kernel
  have hcalled : calledNames sampleEngine.layers (sampleEngine.run "q").2 = ["L1"] := by decide +kernel
  refine ⟨by decide +kernel, hused, by decide +kernel, fun h => ?_⟩
  have hlayers := (h sampleEngine "q" _ rfl).layers
  rw [hused, hcalled] at hlayers
  exact absurd hlayers (by decide)

end VeraMono.Cascade

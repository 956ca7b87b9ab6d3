import Mathlib.Data.List.Chain
import Mathlib.Data.List.SplitLengths
import Mathlib.Data.List.Infix
import VeraMono.Model.Sequence

/-!
# Segments of continuity

A segment is left open by a sample that is one more than the highest so far. Where that highest
sample is the one before it, the segment goes on by one; after a sample out of order it is not, and
the segment has a jump in it. Nothing else puts a jump into a segment, and the flags are right in
either case. `scan_spec` follows the samples one by one; `sequence_continuity_iff` is the exact
condition, and `reordered_segment` a sequence that breaks it.
-/

namespace VeraMono.SkeletonKey

variable {samples pre : List SequenceSample} {a b : SequenceSample} {s : SequenceScan}

/-! ## Runs of samples -/

/-- A sample goes on where another ended. -/
def Continues (a b : SequenceSample) : Prop := b.sequence = a.sequence + 1 ∧ b.overrun = false

def highest (samples : List SequenceSample) : Nat :=
  samples.foldl (fun high sample => max high sample.sequence) 0

theorem highest_concat : highest (pre ++ [b]) = max (highest pre) b.sequence := by
  rw [highest, List.foldl_append]
  rfl

theorem le_highest (h : a ∈ samples) : a.sequence ≤ highest samples := by
  induction samples using List.reverseRecOn with
  | nil => cases h
  | append_singleton pre b ih =>
    rw [highest_concat]
    rcases List.mem_append.1 h with h | h
    · exact (ih h).trans (le_max_left ..)
    · obtain rfl := List.mem_singleton.1 h
      exact le_max_right ..

theorem highest_mem (h : samples ≠ []) : ∃ a ∈ samples, a.sequence = highest samples := by
  induction samples using List.reverseRecOn with
  | nil => exact absurd rfl h
  | append_singleton pre b ih =>
    rw [highest_concat]
    rcases le_total (highest pre) b.sequence with hle | hle
    · exact ⟨b, by simp, (max_eq_right hle).symm⟩
    · rw [max_eq_left hle]
      by_cases hpre : pre = []
      · subst hpre
        exact ⟨b, by simp, le_antisymm hle (Nat.zero_le _)⟩
      · obtain ⟨a, ha, heq⟩ := ih hpre
        exact ⟨a, List.mem_append_left _ ha, heq⟩

theorem isChain_concat {α : Type} {r : α → α → Prop} {l : List α} {x : α} :
    (l ++ [x]).IsChain r ↔ l.IsChain r ∧ ∀ y ∈ l.getLast?, r y x := by
  rw [List.isChain_append]
  simp

theorem highest_of_isChain (h : samples.IsChain Continues) : ∀ a ∈ samples.getLast?, a.sequence = highest samples := by
  induction samples using List.reverseRecOn with
  | nil =>
    intro a ha
    cases ha
  | append_singleton pre b ih =>
    obtain ⟨hpre, hlast⟩ := isChain_concat.1 h
    intro a ha
    rw [List.getLast?_concat, Option.mem_some_iff] at ha
    subst ha
    rw [highest_concat]
    cases hl : pre.getLast? with
    | none =>
      obtain rfl := List.getLast?_eq_none_iff.1 hl
      exact (max_eq_right (Nat.zero_le _)).symm
    | some y =>
      have hy := ih hpre y hl
      have hcont := (hlast y hl).1
      exact (max_eq_right (by omega)).symm

/-! ## What the loop has seen -/

/-- The state of the loop after some samples; `closed` and `current` are the samples of the segments. -/
structure Scanned (samples : List SequenceSample) (s : SequenceScan) (closed : List (List SequenceSample))
    (current : List SequenceSample) : Prop where
  rawOrder : s.rawOrder = samples.map SequenceSample.sequence
  seen : ∀ n, n ∈ s.seen ↔ ∃ a ∈ samples, a.sequence = n
  highWater : s.highWater = if samples = [] then none else some (highest samples)
  cuts : closed.flatten ++ current = samples
  segments : s.segments = closed.map (List.map SequenceSample.sequence)
  currentSegment : s.currentSegment = current.map SequenceSample.sequence
  open_of : samples ≠ [] → current ≠ []

theorem Scanned.start : Scanned [] .start [] [] where
  rawOrder := rfl
  seen n := by simp [SequenceScan.start]
  highWater := rfl
  cuts := rfl
  segments := rfl
  currentSegment := rfl
  open_of h := absurd rfl h

variable {closed : List (List SequenceSample)} {current : List SequenceSample}

theorem Scanned.orderFlag_none (h : Scanned pre s closed current) (hne : pre ≠ []) (n : Nat) :
    s.orderFlag n = none ↔ n = highest pre + 1 := by
  obtain ⟨a, ha, heq⟩ := highest_mem hne
  rw [SequenceScan.orderFlag, h.highWater, if_neg hne]
  dsimp only
  constructor
  · intro hnone
    split_ifs at hnone with hseen hlow hgap
    have hnot : n ≠ highest pre := fun hn => hseen ((h.seen n).2 ⟨a, ha, heq.trans hn.symm⟩)
    omega
  · rintro rfl
    have hseen : highest pre + 1 ∉ s.seen := by
      rw [h.seen]
      rintro ⟨a', ha', heq'⟩
      have hle := le_highest ha'
      omega
    rw [if_neg hseen, if_neg (by omega), if_neg (by omega)]

theorem Scanned.orderFlag_first
    (h : Scanned [] s closed current) (n : Nat) : s.orderFlag n = none := by
  rw [SequenceScan.orderFlag, h.highWater]
  rfl

theorem Scanned.breakBefore_false (h : Scanned pre s closed current) (hne : pre ≠ []) :
    s.breakBefore b = false ↔ b.overrun = false ∧ b.sequence = highest pre + 1 := by
  rw [SequenceScan.breakBefore, Bool.or_eq_false_iff, Option.isSome_eq_false_iff, Option.isNone_iff_eq_none,
    h.orderFlag_none hne]

theorem Scanned.next
    (h : Scanned pre s closed current) :
    (s.breakBefore b = true ∧ pre ≠ [] ∧ Scanned (pre ++ [b]) (s.next b) (closed ++ [current]) [b]) ∨
      ((s.breakBefore b = false ∨ pre = []) ∧ Scanned (pre ++ [b]) (s.next b) closed (current ++ [b])) := by
  have hraw : (s.next b).rawOrder = (pre ++ [b]).map SequenceSample.sequence := by
    rw [List.map_append, ← h.rawOrder]
    rfl
  have hseen : ∀ n, n ∈ (s.next b).seen ↔ ∃ a ∈ pre ++ [b], a.sequence = n := by
    intro n
    change n ∈ insert b.sequence s.seen ↔ _
    rw [Finset.mem_insert, h.seen]
    simp only [List.mem_append, List.mem_singleton, or_and_right, exists_or, exists_eq_left]
    rw [or_comm, eq_comm]
  have hwater : (s.next b).highWater = if pre ++ [b] = [] then none else some (highest (pre ++ [b])) := by
    rw [if_neg (by simp), highest_concat, SequenceScan.next, h.highWater]
    by_cases hpre : pre = []
    · subst hpre
      rw [if_pos rfl]
      exact congrArg some (max_eq_right (Nat.zero_le _)).symm
    · rw [if_neg hpre]
      dsimp only
      split_ifs with hlt
      · rw [max_eq_right hlt.le]
      · rw [max_eq_left (not_lt.1 hlt)]
  have hopen : s.currentSegment ≠ [] ↔ pre ≠ [] := by
    rw [h.currentSegment, Ne, List.map_eq_nil_iff]
    refine ⟨fun hc hpre => hc ?_, h.open_of⟩
    have hsame := h.cuts
    rw [hpre, List.append_eq_nil_iff] at hsame
    exact hsame.2
  by_cases hcloses : s.breakBefore b = true ∧ s.currentSegment ≠ []
  · refine .inl ⟨hcloses.1, hopen.1 hcloses.2, hraw, hseen, hwater, ?_, ?_, ?_, fun _ => by simp⟩
    · rw [List.flatten_append, List.flatten_singleton, h.cuts]
    · rw [SequenceScan.next, List.map_append, ← h.segments, List.map_singleton, ← h.currentSegment]
      dsimp only
      rw [if_pos hcloses]
    · rw [SequenceScan.next]
      dsimp only
      rw [if_pos hcloses]
      rfl
  · refine .inr ⟨?_, hraw, hseen, hwater, ?_, ?_, ?_, fun _ => by simp⟩
    · rw [not_and_or, hopen, not_not, Bool.not_eq_true] at hcloses
      exact hcloses
    · rw [← List.append_assoc, h.cuts]
    · rw [SequenceScan.next, ← h.segments]
      dsimp only
      rw [if_neg hcloses]
    · rw [SequenceScan.next, List.map_append, ← h.currentSegment]
      dsimp only
      rw [if_neg hcloses]
      rfl

/-! ## Segments -/

/-- Every sample that is one more than the highest so far, without an overrun, comes right after
that highest one. -/
def HighestLast (samples : List SequenceSample) : Prop :=
  ∀ pre b, pre ++ [b] <+: samples → ∀ a ∈ pre.getLast?, b.overrun = false →
    b.sequence = highest pre + 1 → a.sequence = highest pre

theorem highestLast_concat : HighestLast (pre ++ [b]) ↔ HighestLast pre ∧ ∀ a ∈ pre.getLast?,
    b.overrun = false → b.sequence = highest pre + 1 → a.sequence = highest pre := by
  constructor
  · intro h
    exact ⟨fun pre' b' hp => h pre' b' (hp.trans (List.prefix_append ..)), h pre b (List.prefix_refl _)⟩
  · rintro ⟨hpre, hb⟩ pre' b' hp
    rcases List.prefix_concat_iff.1 hp with heq | hp
    · obtain ⟨rfl, hsame⟩ := List.append_inj' heq rfl
      obtain rfl := List.singleton_inj.1 hsame
      exact hb
    · exact hpre pre' b' hp

/-- The samples of the segments after some samples; none of them has a jump just when every highest
sample was the last one. -/
theorem scan_spec (samples : List SequenceSample) : ∃ closed current,
    Scanned samples (samples.foldl SequenceScan.next .start) closed current ∧
      ((∀ g ∈ closed ++ [current], g.IsChain Continues) ↔ HighestLast samples) ∧
      ∀ a ∈ samples.getLast?, a ∈ current.getLast? := by
  induction samples using List.reverseRecOn with
  | nil =>
    refine ⟨[], [], .start, ⟨fun _ pre b hp => ?_, fun _ g hg => ?_⟩, fun a ha => ha⟩
    · simp at hp
    · obtain rfl := List.mem_singleton.1 hg
      exact .nil
  | append_singleton pre b ih =>
    obtain ⟨closed, current, hs, hiff, hlast⟩ := ih
    rw [List.foldl_append]
    change ∃ closed current, Scanned (pre ++ [b]) (SequenceScan.next _ b) closed current ∧ _
    rw [highestLast_concat, ← hiff]
    obtain ⟨hbreak, hne, hs'⟩ | ⟨hgoes, hs'⟩ := hs.next (b := b)
    · refine ⟨_, _, hs', ⟨fun h => ⟨fun g hg => h g (List.mem_append_left _ hg), ?_⟩, fun h g hg => ?_⟩, ?_⟩
      · intro a _ hover hseq
        rw [(hs.breakBefore_false hne).2 ⟨hover, hseq⟩] at hbreak
        cases hbreak
      · rcases List.mem_append.1 hg with hg | hg
        · exact h.1 g hg
        · obtain rfl := List.mem_singleton.1 hg
          exact .singleton b
      · intro a ha
        rwa [List.getLast?_concat] at ha
    · refine ⟨_, _, hs', ?_, fun a ha => by rwa [List.getLast?_concat] at ha ⊢⟩
      have hgroups : (∀ g ∈ closed ++ [current ++ [b]], g.IsChain Continues) ↔
          (∀ g ∈ closed ++ [current], g.IsChain Continues) ∧ ∀ y ∈ current.getLast?, Continues y b := by
        simp only [List.mem_append, List.mem_singleton, or_imp, forall_and, forall_eq, isChain_concat, and_assoc]
      rw [hgroups]
      refine and_congr_right fun hchain => ?_
      by_cases hpre : pre = []
      · subst hpre
        have hcurrent : current = [] := (List.append_eq_nil_iff.1 hs.cuts).2
        simp [hcurrent]
      · obtain ⟨hover, hseq⟩ := (hs.breakBefore_false hpre).1 (hgoes.resolve_right hpre)
        obtain ⟨a, ha⟩ : ∃ a, pre.getLast? = some a := ⟨_, List.getLast?_eq_some_getLast hpre⟩
        have hcurrent : current.getLast? = some a := hlast a ha
        rw [hcurrent, ha]
        simp only [Option.mem_def, Option.some.injEq, forall_eq', Continues, hover, hseq]
        constructor
        · rintro ⟨h, -⟩ - -
          omega
        · intro h
          exact ⟨by rw [h trivial trivial], trivial⟩

/-! ## Flags -/

/-- One run of consecutive samples without an overrun. -/
def OneRun (samples : List SequenceSample) : Prop :=
  samples.IsChain Continues ∧ ∀ a ∈ samples, a.overrun = false

theorem flag_eq_empty : s.flag b = ∅ ↔ s.flags = ∅ ∧ b.overrun = false ∧ s.orderFlag b.sequence = none := by
  rw [SequenceScan.flag]
  cases s.orderFlag b.sequence with
  | none => cases b.overrun <;> simp
  | some order => simp

theorem flags_eq_empty_iff (samples : List SequenceSample) :
    (samples.foldl SequenceScan.next .start).flags = ∅ ↔ OneRun samples := by
  induction samples using List.reverseRecOn with
  | nil => simp [OneRun, SequenceScan.start]
  | append_singleton pre b ih =>
    obtain ⟨closed, current, hs, -⟩ := scan_spec pre
    rw [List.foldl_append]
    change SequenceScan.flag _ b = ∅ ↔ _
    rw [flag_eq_empty, ih]
    have hone : OneRun (pre ++ [b]) ↔ OneRun pre ∧ b.overrun = false ∧ ∀ a ∈ pre.getLast?, Continues a b := by
      simp only [OneRun, isChain_concat, List.mem_append, List.mem_singleton, or_imp, forall_and, forall_eq]
      tauto
    rw [hone]
    refine and_congr_right fun hrun => and_congr_right fun hover => ?_
    by_cases hpre : pre = []
    · subst hpre
      exact iff_of_true (hs.orderFlag_first _) (by simp)
    · obtain ⟨a, ha⟩ : ∃ a, pre.getLast? = some a := ⟨_, List.getLast?_eq_some_getLast hpre⟩
      have hhigh : a.sequence = highest pre := highest_of_isChain hrun.1 a ha
      rw [hs.orderFlag_none hpre, ha]
      simp only [Option.mem_def, Option.some.injEq, forall_eq', Continues, hover, hhigh, and_true]

/-! ## The assessment -/

theorem splitLengths_flatten {α : Type} (groups : List (List α)) :
    (groups.map List.length).splitLengths groups.flatten = groups := by
  induction groups with
  | nil => rfl
  | cons g groups ih =>
    rw [List.map_cons, List.flatten_cons, List.splitLengths_cons, List.take_left, List.drop_left, ih]

def segmentSamples (samples : List SequenceSample) : List (List SequenceSample) :=
  ((assessSequence samples).continuitySegments.map List.length).splitLengths samples

theorem assess_segments (samples : List SequenceSample) : ∃ groups : List (List SequenceSample),
    groups.flatten = samples ∧
      (assessSequence samples).continuitySegments = groups.map (List.map SequenceSample.sequence) ∧
      ((∀ g ∈ groups, g.IsChain Continues) ↔ HighestLast samples) := by
  obtain ⟨closed, current, hs, hiff, -⟩ := scan_spec samples
  by_cases hne : samples = []
  · subst hne
    refine ⟨[], rfl, rfl, fun _ => ?_, fun _ g hg => by cases hg⟩
    intro pre b hp
    simp at hp
  · refine ⟨closed ++ [current], ?_, ?_, hiff⟩
    · rw [List.flatten_append, List.flatten_singleton, hs.cuts]
    · rw [assessSequence]
      dsimp only
      rw [hs.currentSegment, hs.segments, if_pos (by simpa using hs.open_of hne), List.map_append,
        List.map_singleton]

/-- The segments of a sequence are runs of consecutive samples just when every sample that comes
one after the highest so far follows it directly; the order and the flags are right in any case. -/
theorem sequence_continuity_iff (samples : List SequenceSample) :
    ((assessSequence samples).rawArrivalOrder = samples.map SequenceSample.sequence ∧
      (assessSequence samples).continuitySegments.flatten = (assessSequence samples).rawArrivalOrder ∧
      (segmentSamples samples).map (List.map SequenceSample.sequence) =
        (assessSequence samples).continuitySegments ∧
      (∀ g ∈ segmentSamples samples, g.IsChain Continues) ∧
      ((assessSequence samples).flags = ∅ ↔ OneRun samples)) ↔ HighestLast samples := by
  obtain ⟨_, _, hs, -⟩ := scan_spec samples
  obtain ⟨groups, hflat, hsegments, hiff⟩ := assess_segments samples
  have hgroups : segmentSamples samples = groups := by
    rw [segmentSamples, hsegments, List.map_map]
    conv_lhs => rw [← hflat]
    have hlength : (List.length ∘ List.map SequenceSample.sequence) = List.length :=
      funext fun g => List.length_map ..
    rw [hlength, splitLengths_flatten]
  have horder : (assessSequence samples).rawArrivalOrder = samples.map SequenceSample.sequence := hs.rawOrder
  rw [hgroups, hiff]
  constructor
  · exact fun h => h.2.2.2.1
  · intro h
    refine ⟨horder, ?_, hsegments.symm, h, flags_eq_empty_iff samples⟩
    rw [horder, hsegments, ← List.map_flatten, hflat]

/-- A sample out of order, and the next one in order after it: they share a segment. -/
theorem reordered_segment : (assessSequence [⟨5, false⟩, ⟨3, false⟩, ⟨6, false⟩]).continuitySegments =
    [[5], [3, 6]] ∧ ¬ ∀ g ∈ segmentSamples [⟨5, false⟩, ⟨3, false⟩, ⟨6, false⟩], g.IsChain Continues := by
  refine ⟨by decide, fun h => ?_⟩
  have hjump := h [⟨3, false⟩, ⟨6, false⟩] (by decide)
  simp [Continues] at hjump

end VeraMono.SkeletonKey

import Mathlib.Data.Finset.Insert

/-!
# Sequences of samples

`sequence.py` of the acquisition: the samples are kept in the order in which they arrived, what is
wrong with the order is flagged, and the order is cut into segments of continuity.
-/

namespace VeraMono.SkeletonKey

inductive SequenceFlag
  | gap | duplicate | reordered | overrun
  deriving DecidableEq

structure SequenceSample where
  sequence : Nat
  overrun : Bool
  deriving DecidableEq

structure SequenceAssessment where
  rawArrivalOrder : List Nat
  flags : Finset SequenceFlag
  continuitySegments : List (List Nat)

/-- The variables of the loop of `assess_sequence`. -/
structure SequenceScan where
  rawOrder : List Nat
  flags : Finset SequenceFlag
  segments : List (List Nat)
  currentSegment : List Nat
  seen : Finset Nat
  highWater : Option Nat

namespace SequenceScan

def start : SequenceScan := ⟨[], ∅, [], [], ∅, none⟩

/-- What is wrong with the place of a sample in the order. -/
def orderFlag (s : SequenceScan) (sequence : Nat) : Option SequenceFlag :=
  match s.highWater with
  | none => none
  | some highWater =>
    if sequence ∈ s.seen then some .duplicate
    else if sequence < highWater then some .reordered
    else if highWater + 1 < sequence then some .gap
    else none

def breakBefore (s : SequenceScan) (sample : SequenceSample) : Bool :=
  sample.overrun || (s.orderFlag sample.sequence).isSome

def flag (s : SequenceScan) (sample : SequenceSample) : Finset SequenceFlag :=
  let flags := if sample.overrun then insert .overrun s.flags else s.flags
  match s.orderFlag sample.sequence with
  | none => flags
  | some order => insert order flags

/-- The pass of the loop for a sample. -/
def next (s : SequenceScan) (sample : SequenceSample) : SequenceScan :=
  let closes := s.breakBefore sample = true ∧ s.currentSegment ≠ []
  { rawOrder := s.rawOrder ++ [sample.sequence]
    flags := s.flag sample
    segments := if closes then s.segments ++ [s.currentSegment] else s.segments
    currentSegment := (if closes then [] else s.currentSegment) ++ [sample.sequence]
    seen := insert sample.sequence s.seen
    highWater :=
      match s.highWater with
      | none => some sample.sequence
      | some highWater => if highWater < sample.sequence then some sample.sequence else some highWater }

end SequenceScan

def assessSequence (samples : List SequenceSample) : SequenceAssessment :=
  let s := samples.foldl SequenceScan.next .start
  ⟨s.rawOrder, s.flags,
    if s.currentSegment ≠ [] then s.segments ++ [s.currentSegment] else s.segments⟩

end VeraMono.SkeletonKey

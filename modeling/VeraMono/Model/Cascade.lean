import VeraMono.Model.TaskExecution

/-!
# The reasoning cascade

`CascadeEngine.resolve` of Rezon's `cascade.py`. Layers and results are those that pass their
checks, and confidences are of a linear order with the bounds `0` and `1`.
-/

namespace VeraMono.Cascade

/-! ## Data -/

structure ReasoningRequest where
  prompt : String
  unresolved : List String := ["answer"]
  priorAnswer : Option String := none
  iteration : Nat := 0
  deriving DecidableEq

variable (K : Type) [LinearOrder K] [Zero K] [One K]

/-- A result that `_validate_result` accepts. -/
structure LayerResult where
  answer : Option String
  unresolved : List String
  confidence : K
  evidence : List String
  changedDimensions : List String
  unit : 0 ≤ confidence ∧ confidence ≤ 1
  texts : "" ∉ unresolved ∧ "" ∉ evidence ∧ "" ∉ changedDimensions

structure LayerSpec where
  name : String
  run : Nat → ReasoningRequest → LayerResult K
  minConfidence : K
  maxIterations : Nat
  named : name ≠ ""
  unit : 0 ≤ minConfidence ∧ minConfidence ≤ 1
  positive : 1 ≤ maxIterations

structure CascadeEngine where
  layers : List (LayerSpec K)
  maxTotalIterations : Nat
  layered : layers ≠ []
  positive : 1 ≤ maxTotalIterations

structure CascadeOutcome where
  answer : Option String
  resolved : Bool
  confidence : K
  unresolved : List String
  layersUsed : List String
  iterations : Nat
  stopReason : String
  evidence : List String

structure LayerCall where
  layer : LayerSpec K
  position : Nat
  round : Nat
  request : ReasoningRequest
  result : LayerResult K

/-- What the loops carry, with the calls that were made. -/
structure CascadeState where
  request : ReasoningRequest
  best : Option (LayerResult K) := none
  used : List String := []
  evidence : List String := []
  totalIterations : Nat := 0
  calls : List (LayerCall K) := []

/-- An outcome, and the calls that led to it. -/
abbrev Finished := CascadeOutcome K × List (LayerCall K)

variable {K}

/-! ## Results -/

/-- `bool(text)`. -/
def filled (text : Option String) : Bool := text.any (· ≠ "")

def LayerResult.resolved (r : LayerResult K) : Bool := filled r.answer && r.unresolved.isEmpty

def progress (previous : List String) (result : LayerResult K) : Bool :=
  !result.changedDimensions.isEmpty ||
    (result.unresolved.all (· ∈ previous) && !previous.all (· ∈ result.unresolved))

def isBetter (candidate incumbent : LayerResult K) : Bool :=
  if candidate.unresolved.length ≠ incumbent.unresolved.length then
    candidate.unresolved.length < incumbent.unresolved.length
  else incumbent.confidence < candidate.confidence

/-- The better of the best so far and a result. -/
def betterOf (best : Option (LayerResult K)) (result : LayerResult K) : Option (LayerResult K) :=
  match best with
  | none => some result
  | some incumbent => if isBetter result incumbent then some result else best

/-- The items that are not there yet, one after the other. -/
def extendNew (evidence items : List String) : List String :=
  items.foldl (fun evidence item => if item ∈ evidence then evidence else evidence ++ [item]) evidence

def finish (result : Option (LayerResult K)) (s : CascadeState K) (reason : String) : Finished K :=
  match result with
  | none =>
    ({ answer := none
       resolved := false
       confidence := 0
       unresolved := ["answer"]
       layersUsed := s.used
       iterations := s.totalIterations
       stopReason := reason
       evidence := s.evidence }, s.calls)
  | some result =>
    ({ answer := result.answer
       resolved := result.resolved
       confidence := result.confidence
       unresolved := result.unresolved
       layersUsed := s.used
       iterations := s.totalIterations
       stopReason := reason
       evidence := s.evidence }, s.calls)

/-! ## The loops -/

def nextRequest (request : ReasoningRequest) (previous : List String) (result : LayerResult K) : ReasoningRequest where
  prompt := request.prompt
  unresolved := if result.unresolved = [] then previous else result.unresolved
  priorAnswer := if filled result.answer then result.answer else request.priorAnswer
  iteration := request.iteration + 1

/-- The state after a call. -/
def CascadeState.record (s : CascadeState K) (call : LayerCall K) : CascadeState K :=
  { s with
    totalIterations := s.totalIterations + 1
    evidence := extendNew s.evidence call.result.evidence
    best := betterOf s.best call.result
    calls := s.calls ++ [call] }

/-- The result cleared the gate of its layer. -/
def LayerCall.cleared (call : LayerCall K) : Bool :=
  call.result.resolved && decide (call.layer.minConfidence ≤ call.result.confidence)

variable (limit : Nat)

/-- The loop of one layer, with the rounds that are left. It may end the run. -/
def iterate (layer : LayerSpec K) (position : Nat) :
    Nat → List String → CascadeState K → Except (Finished K) (CascadeState K)
  | 0, _, s => .ok s
  | rounds + 1, previous, s =>
    if limit ≤ s.totalIterations then .error (finish s.best s "iteration_budget_exhausted")
    else
      let result := layer.run s.totalIterations s.request
      let call : LayerCall K := ⟨layer, position, layer.maxIterations - (rounds + 1), s.request, result⟩
      let s := s.record call
      if call.cleared then .error (finish (some result) s "resolved")
      else
        let s := { s with request := nextRequest s.request previous result }
        if progress previous result then iterate layer position rounds s.request.unresolved s else .ok s

/-- The loop over the layers, with their positions. -/
def runLayers : List (LayerSpec K × Nat) → CascadeState K → Except (Finished K) (CascadeState K)
  | [], s => .ok s
  | (layer, position) :: rest, s => do
    let s := { s with used := s.used ++ [layer.name] }
    let s ← iterate limit layer position layer.maxIterations s.request.unresolved s
    runLayers rest s

/-- `resolve` for a prompt that is not blank. -/
def CascadeEngine.run (engine : CascadeEngine K) (prompt : String) : Finished K :=
  match runLayers engine.maxTotalIterations engine.layers.zipIdx { request := { prompt } } with
  | .error finished => finished
  | .ok s => finish s.best s "layers_exhausted"

def CascadeEngine.resolve (engine : CascadeEngine K) (prompt : String) : Except Failure (Finished K) :=
  if nonblank prompt then .ok (engine.run prompt)
  else .error ⟨.valueError, "prompt must be a non-empty exact string"⟩

end VeraMono.Cascade

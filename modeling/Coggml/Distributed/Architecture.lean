import Coggml.AtomSpace.Structure
/-!
# The distributed cognitive architecture

`distributed_cognitive_architecture_t` owns one Cogfluence system, one AtomSpace and a table of
self-optimization loops, and counts transductions. Two ids are drawn from `static` counters
that every architecture of the process shares: unit and workflow ids from `generate_unit_id`
(`uint64_t`, from 1) and loop ids from `generate_optimization_loop_id` (`uint32_t`, from 1,
wrapping). Here the process is explicit: `Process` holds both counters and the architectures
the process has created, and every call takes the counters it reads and returns them advanced.

The kernel, membranes, dashboard and network fields are read by none of the functions modelled
here and are left out, as are the printed messages.
-/

namespace Coggml

/-- The capacity `distributed_cognitive_init` gives the loop table. -/
def optimizationLoopCapacity : Nat := 16
/-- `sizeof(loop->target_system)` and `sizeof(loop->target_parameter)`. -/
def optimizationTargetSize : Nat := 64

/-- `self_optimization_loop_t`. -/
structure OptimizationLoop where
  /-- `target_system[64]`. -/
  targetSystem : CString
  /-- `target_parameter[64]`. -/
  targetParameter : CString
  /-- Value being tuned. -/
  currentValue : ℚ
  /-- Value aimed at. -/
  targetValue : ℚ
  /-- Step size. -/
  learningRate : ℚ
  /-- Momentum factor. -/
  momentum : ℚ
  /-- Last gradient. -/
  gradient : ℚ
  /-- Gradient of the update before. -/
  previousGradient : ℚ
  /-- Performance at the first update. -/
  baselinePerformance : ℚ
  /-- Performance at the last update. -/
  currentPerformance : ℚ
  /-- Updates applied. -/
  optimizationCycles : Nat
  /-- Lower clamp for the value. -/
  minValue : ℚ
  /-- Upper clamp for the value. -/
  maxValue : ℚ
  /-- Whether the value came within 0.01 of the target. -/
  converged : Bool
  deriving DecidableEq

/-- `distributed_cognitive_architecture_t`, the fields the modelled functions use. -/
structure Architecture where
  /-- `cogfluence`. -/
  cogfluence : CogfluenceSystem
  /-- `atomspace`. -/
  atomspace : AtomSpace
  /-- Loops `0 .. optimization_loop_count - 1`. -/
  optimizationLoops : List OptimizationLoop
  /-- Fixed at construction. -/
  optimizationLoopCapacity : Nat
  /-- Transductions attempted past their lookups. -/
  totalTransductions : Nat
  /-- Transductions that succeeded. -/
  successfulTransductions : Nat

/-- `distributed_cognitive_init`. -/
def distributedCognitiveInit : Architecture where
  cogfluence := cogfluenceInit
  atomspace := opencogAtomspaceInit
  optimizationLoops := []
  optimizationLoopCapacity := optimizationLoopCapacity
  totalTransductions := 0
  successfulTransductions := 0

/-- Count one successful transduction. -/
def Architecture.countTransduction (arch : Architecture) : Architecture :=
  { arch with totalTransductions := arch.totalTransductions + 1,
              successfulTransductions := arch.successfulTransductions + 1 }

/-! ## Transductions -/

/-- `transduction_cogfluence_to_opencog` — an atom made from the unit with the id. -/
def transductionCogfluenceToOpencog (arch : Architecture) (unitId : Nat) : Architecture × Bool :=
  match cogfluenceGetKnowledgeUnit arch.cogfluence unitId with
  | none => (arch, false)
  | some unit =>
    let created := opencogFromCogfluenceUnit arch.atomspace (some unit)
    let arch := { arch with atomspace := created.1 }
    if created.2 = 0 then (arch, false) else (arch.countTransduction, true)

/-- `transduction_opencog_to_ggml` — the tensor of the atom with the id. -/
def transductionOpencogToGgml (arch : Architecture) (atomId : Nat) : Architecture × Bool :=
  match opencogAtomToTensor arch.atomspace atomId with
  | none => (arch, false)
  | some _ => (arch.countTransduction, true)

/-- `transduction_ggml_to_cogfluence` — a unit made from the tensor; the unit counter after. -/
def transductionGgmlToCogfluence (counter : Nat) (arch : Architecture) (tensor : Option Tensor)
    (unitName : Option CString) : Architecture × Nat × Bool :=
  match tensor, unitName with
  | some tensor, some unitName =>
    let made := cogfluenceFromTensor counter arch.cogfluence (some tensor) (some unitName)
    let arch := { arch with cogfluence := made.1 }
    match made.2.2 with
    | none => (arch, made.2.1, false)
    | some _ => (arch.countTransduction, made.2.1, true)
  | _, _ => (arch, counter, false)

/-- The embedding of stage 1 of `transduction_full_pipeline`:
`((i + strlen(input)) % 256) / 255` for `i < 64`. -/
def pipelineEmbedding (input : CString) : Tensor :=
  (List.range 64).map fun i => (((i + input.length) % 256 : Nat) : ℚ) / 255

/-- The text of stage 4, `Processed: %s (Cogfluence:%lu, OpenCog:%lu)`, as `snprintf` cuts it
to the buffer. -/
def pipelineOutput (outputSize : Nat) (input : CString) (unitId atomId : Nat) : CString :=
  copyName outputSize (cstr "Processed: " ++ input ++ cstr " (Cogfluence:" ++ decimalBytes unitId ++
    cstr ", OpenCog:" ++ decimalBytes atomId ++ cstr ")")

/-- What `transduction_full_pipeline` leaves: the unit counter, the architecture, the result,
and the text written to the output buffer. -/
structure PipelineResult where
  /-- `generate_unit_id`'s counter. -/
  counter : Nat
  /-- The architecture. -/
  arch : Architecture
  /-- The returned flag. -/
  ok : Bool
  /-- The text written to `output_data`, if any. -/
  output : Option CString

/-- `transduction_full_pipeline` — stage 1 adds a concept unit for the input, stage 2 makes an
atom from it, stage 3 takes the unit's `atomspace_id` as the atom's id and converts that atom,
stage 4 writes both ids. `output` is the buffer's size, `none` for `NULL`. -/
def transductionFullPipeline (counter : Nat) (arch : Architecture) (input : Option CString)
    (output : Option Nat) : PipelineResult :=
  match input, output with
  | some input, some outputSize =>
    let added := cogfluenceAddKnowledgeUnit counter arch.cogfluence (some input) .concept
      (some (pipelineEmbedding input))
    let counter := added.2.1
    let unitId := added.2.2
    let arch := { arch with cogfluence := added.1 }
    if unitId = 0 then ⟨counter, arch, false, none⟩
    else
      let converted := transductionCogfluenceToOpencog arch unitId
      if !converted.2 then ⟨counter, converted.1, false, none⟩
      else match cogfluenceGetKnowledgeUnit converted.1.cogfluence unitId with
        | none => ⟨counter, converted.1, false, none⟩
        | some unit =>
          let atomId := unit.atomspaceId
          let tensored := transductionOpencogToGgml converted.1 atomId
          if !tensored.2 then ⟨counter, tensored.1, false, none⟩
          else ⟨counter, tensored.1, true, some (pipelineOutput outputSize input unitId atomId)⟩
  | _, _ => ⟨counter, arch, false, none⟩

/-! ## Self-optimization loops -/

/-- `generate_optimization_loop_id` — the counter's value and the counter after `counter++`. -/
def generateOptimizationLoopId (counter : UInt32) : UInt32 × UInt32 := (counter, counter + 1)

/-- The record `optimization_create_loop` writes into the next slot. -/
def newOptimizationLoop (targetSystem targetParameter : CString) (initialValue targetValue : ℚ) :
    OptimizationLoop where
  targetSystem := copyName optimizationTargetSize targetSystem
  targetParameter := copyName optimizationTargetSize targetParameter
  currentValue := initialValue
  targetValue := targetValue
  learningRate := 0.01
  momentum := 0.9
  gradient := 0
  previousGradient := 0
  baselinePerformance := 0
  currentPerformance := 0
  optimizationCycles := 0
  minValue := initialValue * 0.1
  maxValue := initialValue * 10
  converged := false

/-- `optimization_create_loop` — the architecture, the loop counter and the returned id, 0 for
a `NULL` name or a full table. -/
def optimizationCreateLoop (counter : UInt32) (arch : Architecture)
    (targetSystem targetParameter : Option CString) (initialValue targetValue : ℚ) :
    Architecture × UInt32 × UInt32 :=
  match targetSystem, targetParameter with
  | some targetSystem, some targetParameter =>
    if arch.optimizationLoopCapacity ≤ arch.optimizationLoops.length then (arch, counter, 0)
    else
      let generated := generateOptimizationLoopId counter
      let loop := newOptimizationLoop targetSystem targetParameter initialValue targetValue
      ({ arch with optimizationLoops := arch.optimizationLoops ++ [loop] }, generated.2,
        generated.1)
  | _, _ => (arch, counter, 0)

/-- The write `optimization_update_loop` makes to a loop: baseline on the first update, a
momentum gradient step on the value clamped to `[min_value, max_value]`, convergence within
0.01 of the target. -/
def OptimizationLoop.update (currentPerformance : ℚ) (loop : OptimizationLoop) :
    OptimizationLoop :=
  let baseline :=
    if loop.optimizationCycles = 0 then currentPerformance else loop.baselinePerformance
  let raw := (currentPerformance - baseline) / (loop.currentValue - loop.targetValue + 1 / 1000000)
  let gradient := loop.momentum * loop.previousGradient + (1 - loop.momentum) * raw
  let value := clampf loop.minValue loop.maxValue (loop.currentValue + loop.learningRate * gradient)
  { loop with
    baselinePerformance := baseline
    currentPerformance := currentPerformance
    gradient := gradient
    currentValue := value
    converged := loop.converged || decide (abs (value - loop.targetValue) < 0.01)
    previousGradient := gradient
    optimizationCycles := loop.optimizationCycles + 1 }

/-- `optimization_update_loop` — update slot `loop_id - 1`; refused for 0 or an id past the
loop count. -/
def optimizationUpdateLoop (arch : Architecture) (loopId : UInt32) (currentPerformance : ℚ) :
    Architecture × Bool :=
  if loopId.toNat = 0 ∨ arch.optimizationLoops.length < loopId.toNat then (arch, false)
  else
    let loops := arch.optimizationLoops.modify (OptimizationLoop.update currentPerformance)
      (loopId.toNat - 1)
    ({ arch with optimizationLoops := loops }, true)

/-! ## The process -/

/-- A process: the two `static` counters and the architectures it created, by handle. -/
structure Process where
  /-- `generate_unit_id`'s counter. -/
  unitCounter : Nat
  /-- `generate_optimization_loop_id`'s counter. -/
  loopCounter : UInt32
  /-- Architectures, indexed by handle. -/
  archs : List Architecture

/-- A process before any call: both counters at their initialisers. -/
def processInit : Process := ⟨1, 1, []⟩

/-- A call on the architecture with the handle, given both counters; a handle that names no
architecture is `NULL`, and the call changes nothing. -/
def Process.call (p : Process) (handle : Nat)
    (f : Nat → UInt32 → Architecture → Nat × UInt32 × Architecture) : Process :=
  match p.archs[handle]? with
  | none => p
  | some arch =>
    let result := f p.unitCounter p.loopCounter arch
    ⟨result.1, result.2.1, p.archs.set handle result.2.2⟩

/-- A call of a public function of the Cogfluence, AtomSpace, transduction or optimization
layers on an architecture, or the creation of one. -/
inductive ProcessOp
  | init
  | addKnowledgeUnit (handle : Nat) (name : Option CString) (type : UnitType)
      (embedding : Option Tensor)
  | addRelation (handle : Nat) (unit1 unit2 : Nat)
  | createWorkflow (handle : Nat) (name : Option CString)
  | addWorkflowStep (handle : Nat) (workflowId unitId : Nat)
  | executeWorkflow (handle : Nat) (workflowId : Nat)
  | fromTensor (handle : Nat) (tensor : Option Tensor) (name : Option CString)
  | atomspace (handle : Nat) (op : AtomSpaceOp)
  | cogfluenceToOpencog (handle : Nat) (unitId : Nat)
  | opencogToGgml (handle : Nat) (atomId : Nat)
  | ggmlToCogfluence (handle : Nat) (tensor : Option Tensor) (unitName : Option CString)
  | fullPipeline (handle : Nat) (input : Option CString) (output : Option Nat)
  | createLoop (handle : Nat) (targetSystem targetParameter : Option CString)
      (initialValue targetValue : ℚ)
  | updateLoop (handle : Nat) (loopId : UInt32) (currentPerformance : ℚ)

/-- The process after one call, its result discarded. -/
def Process.step (p : Process) : ProcessOp → Process
  | .init => { p with archs := p.archs ++ [distributedCognitiveInit] }
  | .addKnowledgeUnit h name type embedding => p.call h fun units loops arch =>
    let added := cogfluenceAddKnowledgeUnit units arch.cogfluence name type embedding
    (added.2.1, loops, { arch with cogfluence := added.1 })
  | .addRelation h unit1 unit2 => p.call h fun units loops arch =>
    (units, loops, { arch with cogfluence := (cogfluenceAddRelation arch.cogfluence unit1 unit2).1 })
  | .createWorkflow h name => p.call h fun units loops arch =>
    let created := cogfluenceCreateWorkflow units arch.cogfluence name
    (created.2.1, loops, { arch with cogfluence := created.1 })
  | .addWorkflowStep h workflowId unitId => p.call h fun units loops arch =>
    (units, loops,
      { arch with cogfluence := (cogfluenceAddWorkflowStep arch.cogfluence workflowId unitId).1 })
  | .executeWorkflow h workflowId => p.call h fun units loops arch =>
    (units, loops,
      { arch with cogfluence := (cogfluenceExecuteWorkflow arch.cogfluence workflowId).1 })
  | .fromTensor h tensor name => p.call h fun units loops arch =>
    let made := cogfluenceFromTensor units arch.cogfluence tensor name
    (made.2.1, loops, { arch with cogfluence := made.1 })
  | .atomspace h op => p.call h fun units loops arch =>
    (units, loops, { arch with atomspace := arch.atomspace.step op })
  | .cogfluenceToOpencog h unitId => p.call h fun units loops arch =>
    (units, loops, (transductionCogfluenceToOpencog arch unitId).1)
  | .opencogToGgml h atomId => p.call h fun units loops arch =>
    (units, loops, (transductionOpencogToGgml arch atomId).1)
  | .ggmlToCogfluence h tensor unitName => p.call h fun units loops arch =>
    let made := transductionGgmlToCogfluence units arch tensor unitName
    (made.2.1, loops, made.1)
  | .fullPipeline h input output => p.call h fun units loops arch =>
    let r := transductionFullPipeline units arch input output
    (r.counter, loops, r.arch)
  | .createLoop h targetSystem targetParameter initialValue targetValue =>
    p.call h fun units loops arch =>
      let created :=
        optimizationCreateLoop loops arch targetSystem targetParameter initialValue targetValue
      (units, created.2.1, created.1)
  | .updateLoop h loopId currentPerformance => p.call h fun units loops arch =>
    (units, loops, (optimizationUpdateLoop arch loopId currentPerformance).1)

/-- Every process state a finite sequence of calls reaches. -/
def Process.Reachable (p : Process) : Prop :=
  Relation.ReflTransGen (fun p p' => ∃ op, p' = Process.step p op) processInit p

end Coggml

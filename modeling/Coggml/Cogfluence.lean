import Coggml.Basic
/-!
# Cogfluence knowledge units and workflows

The producer-side knowledge store of `ggml-cogfluence`: a fixed-capacity table of knowledge
units and one of workflows. Unit and workflow ids come from `generate_unit_id`, a
`static` counter shared by every system of the process; here it is an explicit argument
that each creating function returns advanced. A unit records its own id in `atomspace_id`
("simple mapping for now"), and `cogfluence_get_knowledge_unit` searches that field.
Creation and modification times are written but never read, and are left out.
-/

namespace Coggml

/-- `COGFLUENCE_MAX_KNOWLEDGE_UNITS`. -/
def cogfluenceMaxKnowledgeUnits : Nat := 1024
/-- `COGFLUENCE_MAX_WORKFLOWS`. -/
def cogfluenceMaxWorkflows : Nat := 64
/-- `COGFLUENCE_MAX_CONCEPT_NAME`. -/
def cogfluenceMaxConceptName : Nat := 128

/-- `cogfluence_unit_type_t`. -/
inductive UnitType
  | concept
  | relation
  | workflow
  | rule
  | pattern
  deriving DecidableEq, Repr

/-- `cogfluence_knowledge_unit_t`, without its timestamps. -/
structure KnowledgeUnit where
  /-- `name[COGFLUENCE_MAX_CONCEPT_NAME]`. -/
  name : CString
  /-- Unit kind. -/
  type : UnitType
  /-- Caller's embedding tensor, when one was given. -/
  embedding : Option Tensor
  /-- The unit's own tensor; `NULL` only in a record not made by this layer. -/
  tensorEncoding : Option Tensor
  /-- "AtomSpace node/link ID": set to the unit's own id at creation. -/
  atomspaceId : Nat
  /-- PLN truth value. -/
  truthValue : ℚ
  /-- PLN confidence. -/
  confidence : ℚ
  /-- ECAN activation. -/
  activationLevel : ℚ
  /-- ECAN attention value. -/
  attentionValue : ℚ
  /-- Ids of related units, in insertion order. -/
  relatedUnits : List Nat
  deriving DecidableEq

/-- `cogfluence_workflow_t`. -/
structure Workflow where
  /-- `name[COGFLUENCE_MAX_CONCEPT_NAME]`. -/
  name : CString
  /-- Id drawn from `generate_unit_id`. -/
  workflowId : Nat
  /-- Knowledge units in workflow order. -/
  stepUnits : List Nat
  /-- Execution flag. -/
  active : Bool
  /-- Index of the step last started. -/
  currentStep : Nat
  /-- Fraction of steps done. -/
  completionRatio : ℚ
  /-- Running mean of successful executions. -/
  successRate : ℚ
  /-- Efficiency score in `[0, 1]` once executed. -/
  efficiencyScore : ℚ
  /-- Number of completed executions. -/
  executionCount : Nat
  deriving DecidableEq

/-- `cogfluence_system_t`, without its context pointer and clock. -/
structure CogfluenceSystem where
  /-- Units `0 .. unit_count - 1`. -/
  knowledgeUnits : List KnowledgeUnit
  /-- Fixed at construction. -/
  unitCapacity : Nat
  /-- Workflows `0 .. workflow_count - 1`. -/
  workflows : List Workflow
  /-- Fixed at construction. -/
  workflowCapacity : Nat
  /-- Activation given to new units. -/
  globalActivation : ℚ
  /-- Steps executed by all workflows. -/
  totalInferences : Nat
  /-- Completed workflow executions. -/
  successfulWorkflows : Nat
  /-- Last coherence computed. -/
  systemCoherence : ℚ

/-- `generate_unit_id` — the current value of the process-wide unit counter, and the counter
after the post-increment. -/
def generateUnitId (counter : Nat) : Nat × Nat := (counter, counter + 1)

/-- `cogfluence_init`. -/
def cogfluenceInit : CogfluenceSystem where
  knowledgeUnits := []
  unitCapacity := cogfluenceMaxKnowledgeUnits
  workflows := []
  workflowCapacity := cogfluenceMaxWorkflows
  globalActivation := 0.5
  totalInferences := 0
  successfulWorkflows := 0
  systemCoherence := 0

/-- The unit record `cogfluence_add_knowledge_unit` writes into the next slot. -/
def newKnowledgeUnit (system : CogfluenceSystem) (unitId : Nat) (name : CString)
    (type : UnitType) (embedding : Option Tensor) : KnowledgeUnit where
  name := copyName cogfluenceMaxConceptName name
  type := type
  embedding := embedding
  tensorEncoding := some (embedding.getD (zeroTensor 64))
  atomspaceId := unitId
  truthValue := 0.8
  confidence := 0.7
  activationLevel := system.globalActivation
  attentionValue := 0.5
  relatedUnits := []

/-- `cogfluence_add_knowledge_unit` — the system, the unit counter and the returned id
(0 for a `NULL` name or a full table). -/
def cogfluenceAddKnowledgeUnit (counter : Nat) (system : CogfluenceSystem)
    (name : Option CString) (type : UnitType) (embedding : Option Tensor) :
    CogfluenceSystem × Nat × Nat :=
  match name with
  | none => (system, counter, 0)
  | some name =>
    if system.unitCapacity ≤ system.knowledgeUnits.length then (system, counter, 0)
    else
      let (unitId, counter) := generateUnitId counter
      ({ system with
          knowledgeUnits := system.knowledgeUnits ++
            [newKnowledgeUnit system unitId name type embedding] },
        counter, unitId)

/-- Whether a unit is the one `cogfluence_get_knowledge_unit` searches for. -/
def KnowledgeUnit.hasId (unitId : Nat) (unit : KnowledgeUnit) : Bool :=
  unit.atomspaceId == unitId

/-- `cogfluence_get_knowledge_unit` — the first unit whose `atomspace_id` is the id. -/
def cogfluenceGetKnowledgeUnit (system : CogfluenceSystem) (unitId : Nat) :
    Option KnowledgeUnit :=
  if unitId = 0 then none else system.knowledgeUnits.find? (KnowledgeUnit.hasId unitId)

/-- A write through the unit pointer `cogfluence_get_knowledge_unit` returns. -/
def CogfluenceSystem.updateUnit (system : CogfluenceSystem) (unitId : Nat)
    (f : KnowledgeUnit → KnowledgeUnit) : CogfluenceSystem :=
  if unitId = 0 then system
  else { system with knowledgeUnits := modifyFirst (KnowledgeUnit.hasId unitId) f system.knowledgeUnits }

/-- `cogfluence_add_relation` — a symmetric relation between two distinct existing units. -/
def cogfluenceAddRelation (system : CogfluenceSystem) (unit1 unit2 : Nat) :
    CogfluenceSystem × Bool :=
  if unit1 = 0 ∨ unit2 = 0 ∨ unit1 = unit2 then (system, false)
  else match cogfluenceGetKnowledgeUnit system unit1, cogfluenceGetKnowledgeUnit system unit2 with
    | some _, some _ =>
      let system := system.updateUnit unit1 fun u => { u with relatedUnits := u.relatedUnits ++ [unit2] }
      (system.updateUnit unit2 fun u => { u with relatedUnits := u.relatedUnits ++ [unit1] }, true)
    | _, _ => (system, false)

/-- `cogfluence_create_workflow` — the system, the unit counter and the returned id. -/
def cogfluenceCreateWorkflow (counter : Nat) (system : CogfluenceSystem) (name : Option CString) :
    CogfluenceSystem × Nat × Nat :=
  match name with
  | none => (system, counter, 0)
  | some name =>
    if system.workflowCapacity ≤ system.workflows.length then (system, counter, 0)
    else
      let (workflowId, counter) := generateUnitId counter
      let workflow : Workflow :=
        { name := copyName cogfluenceMaxConceptName name, workflowId, stepUnits := [],
          active := false, currentStep := 0, completionRatio := 0, successRate := 0,
          efficiencyScore := 0, executionCount := 0 }
      ({ system with workflows := system.workflows ++ [workflow] }, counter, workflowId)

/-- Whether a workflow is the one the workflow searches look for. -/
def Workflow.hasId (workflowId : Nat) (workflow : Workflow) : Bool :=
  workflow.workflowId == workflowId

/-- `cogfluence_add_workflow_step` — append an existing unit to an existing workflow. -/
def cogfluenceAddWorkflowStep (system : CogfluenceSystem) (workflowId unitId : Nat) :
    CogfluenceSystem × Bool :=
  if workflowId = 0 ∨ unitId = 0 then (system, false)
  else match system.workflows.find? (Workflow.hasId workflowId),
      cogfluenceGetKnowledgeUnit system unitId with
    | some _, some _ =>
      let addStep := fun (w : Workflow) => { w with stepUnits := w.stepUnits ++ [unitId] }
      ({ system with workflows := modifyFirst (Workflow.hasId workflowId) addStep system.workflows },
        true)
    | _, _ => (system, false)

/-- One step of `cogfluence_execute_workflow`: raise the unit's activation and attention, and
count the step as an inference. -/
def executeStep (system : CogfluenceSystem) (unitId : Nat) : CogfluenceSystem :=
  let system := system.updateUnit unitId fun u =>
    { u with activationLevel := min (u.activationLevel + 0.1) 1,
             attentionValue := min (u.attentionValue + 0.05) 1 }
  { system with totalInferences := system.totalInferences + 1 }

/-- The workflow record after a completed execution. -/
def Workflow.completed (w : Workflow) : Workflow :=
  let count := w.executionCount + 1
  { w with currentStep := w.stepUnits.length - 1, completionRatio := 1, active := false,
           executionCount := count,
           successRate := ((count - 1 : Nat) : ℚ) / count * w.successRate + 1 / count,
           efficiencyScore := min (w.efficiencyScore + 0.1) 1 }

/-- `cogfluence_execute_workflow` — run every step of a non-empty workflow in order. -/
def cogfluenceExecuteWorkflow (system : CogfluenceSystem) (workflowId : Nat) :
    CogfluenceSystem × Bool :=
  if workflowId = 0 then (system, false)
  else match system.workflows.find? (Workflow.hasId workflowId) with
    | some w =>
      if w.stepUnits = [] then (system, false)
      else
        let system := w.stepUnits.foldl executeStep system
        let workflows := modifyFirst (Workflow.hasId workflowId) Workflow.completed system.workflows
        ({ system with workflows, successfulWorkflows := system.successfulWorkflows + 1 }, true)
    | none => (system, false)

/-- `cogfluence_from_tensor` — a concept unit made from a tensor, and the unit found under the
returned id. -/
def cogfluenceFromTensor (counter : Nat) (system : CogfluenceSystem) (tensor : Option Tensor)
    (name : Option CString) : CogfluenceSystem × Nat × Option KnowledgeUnit :=
  match tensor, name with
  | some tensor, some name =>
    let (system, counter, unitId) :=
      cogfluenceAddKnowledgeUnit counter system (some name) .concept (some tensor)
    (system, counter, cogfluenceGetKnowledgeUnit system unitId)
  | _, _ => (system, counter, none)

end Coggml

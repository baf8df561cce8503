import Coggml.Cogfluence
/-!
# Activation and attention of knowledge units

`cogfluence_update_activations` decays every activation by 0.95, boosts it by 1.05 for a unit
with relations, clamps it to `[0, 1]` and moves the attention 80% of the way to it;
`cogfluence_execute_workflow` raises each step's unit by 0.1 and 0.05, capped at 1. Along every
run from `cogfluence_init` activations and attention stay in `[0, 1]`
(`activations_stay_in_unit`), and since `0.95 * 1.05 = 0.9975`, `k` updates in a row multiply an
activation by `0.9975 ^ k` or `0.95 ^ k` (`updates_decay_geometrically`). The clock
`system_time` is left out.
-/

namespace Coggml

/-- One unit's update in the loop of `cogfluence_update_activations`: decay by 0.95, boost by
1.05 with relations, clamp to `[0, 1]`, then attention `0.8` of the new activation plus `0.2` of
the old attention. -/
def KnowledgeUnit.updateActivation (unit : KnowledgeUnit) : KnowledgeUnit :=
  let decayed := unit.activationLevel * 0.95
  let boosted := if 0 < unit.relatedUnits.length then decayed * 1.05 else decayed
  let activation := clampf 0 1 boosted
  { unit with
    activationLevel := activation
    attentionValue := activation * 0.8 + unit.attentionValue * 0.2 }

/-- `cogfluence_update_activations`. -/
def cogfluenceUpdateActivations (system : CogfluenceSystem) : CogfluenceSystem :=
  { system with knowledgeUnits := system.knowledgeUnits.map KnowledgeUnit.updateActivation }

/-! ## Calls in any order -/

/-- A call of the public Cogfluence API that can change the system. -/
inductive CogfluenceOp
  | addKnowledgeUnit (name : Option CString) (type : UnitType) (embedding : Option Tensor)
  | addRelation (unit1 unit2 : Nat)
  | createWorkflow (name : Option CString)
  | addWorkflowStep (workflowId unitId : Nat)
  | executeWorkflow (workflowId : Nat)
  | fromTensor (tensor : Option Tensor) (name : Option CString)
  | updateActivations

/-- The system and the unit counter after one call, its result discarded. -/
def CogfluenceSystem.step (system : CogfluenceSystem) (counter : Nat) :
    CogfluenceOp → CogfluenceSystem × Nat
  | .addKnowledgeUnit name type embedding =>
    let added := cogfluenceAddKnowledgeUnit counter system name type embedding
    (added.1, added.2.1)
  | .addRelation unit1 unit2 => ((cogfluenceAddRelation system unit1 unit2).1, counter)
  | .createWorkflow name =>
    let created := cogfluenceCreateWorkflow counter system name
    (created.1, created.2.1)
  | .addWorkflowStep workflowId unitId =>
    ((cogfluenceAddWorkflowStep system workflowId unitId).1, counter)
  | .executeWorkflow workflowId => ((cogfluenceExecuteWorkflow system workflowId).1, counter)
  | .fromTensor tensor name =>
    let made := cogfluenceFromTensor counter system tensor name
    (made.1, made.2.1)
  | .updateActivations => (cogfluenceUpdateActivations system, counter)

/-- A finite sequence of calls takes the first system and counter to the second. -/
def CogfluenceRun : CogfluenceSystem × Nat → CogfluenceSystem × Nat → Prop :=
  Relation.ReflTransGen fun a b => ∃ op, b = a.1.step a.2 op

/-! ## Unit ranges -/

/-- Activation and attention in `[0, 1]`. -/
structure KnowledgeUnit.InUnit (unit : KnowledgeUnit) : Prop where
  activation_nonneg : 0 ≤ unit.activationLevel
  activation_le_one : unit.activationLevel ≤ 1
  attention_nonneg : 0 ≤ unit.attentionValue
  attention_le_one : unit.attentionValue ≤ 1

/-- What every run keeps: the global activation and every unit in range. -/
structure CogfluenceSystem.InUnit (system : CogfluenceSystem) : Prop where
  global_nonneg : 0 ≤ system.globalActivation
  global_le_one : system.globalActivation ≤ 1
  units : ∀ unit ∈ system.knowledgeUnits, unit.InUnit

namespace KnowledgeUnit

variable {unit : KnowledgeUnit}

/-- An update lands in range from any unit whose attention is in range. -/
theorem InUnit.updateActivation (inUnit : unit.InUnit) : unit.updateActivation.InUnit := by
  have low : 0 ≤ unit.updateActivation.activationLevel := le_clampf
  have high : unit.updateActivation.activationLevel ≤ 1 := clampf_le zero_le_one
  refine ⟨low, high, ?_, ?_⟩
  · show 0 ≤ unit.updateActivation.activationLevel * 0.8 + unit.attentionValue * 0.2
    exact add_nonneg (mul_nonneg low (by norm_num)) (mul_nonneg inUnit.attention_nonneg (by norm_num))
  · show unit.updateActivation.activationLevel * 0.8 + unit.attentionValue * 0.2 ≤ 1
    calc _ ≤ (1 : ℚ) * 0.8 + 1 * 0.2 :=
          add_le_add (mul_le_mul_of_nonneg_right high (by norm_num))
            (mul_le_mul_of_nonneg_right inUnit.attention_le_one (by norm_num))
      _ = 1 := by norm_num

/-- For an activation in range the clamp never acts: the update multiplies the activation by
0.9975 with relations and by 0.95 without. -/
theorem updateActivation_activationLevel (inUnit : unit.InUnit) :
    unit.updateActivation.activationLevel =
      unit.activationLevel * (if 0 < unit.relatedUnits.length then 0.9975 else 0.95) := by
  have low := inUnit.activation_nonneg
  have high := inUnit.activation_le_one
  simp only [updateActivation]
  split
  · rw [mul_assoc, clampf_of_mem (mul_nonneg low (by norm_num))
      (mul_le_one₀ high (by norm_num) (by norm_num))]
    norm_num
  · exact clampf_of_mem (mul_nonneg low (by norm_num)) (mul_le_one₀ high (by norm_num) (by norm_num))

/-- An update keeps a unit's relations. -/
@[simp] theorem updateActivation_relatedUnits (unit : KnowledgeUnit) :
    unit.updateActivation.relatedUnits = unit.relatedUnits := rfl

end KnowledgeUnit

namespace CogfluenceSystem

variable {system : CogfluenceSystem}

theorem inUnit_cogfluenceInit : cogfluenceInit.InUnit :=
  ⟨by norm_num [cogfluenceInit], by norm_num [cogfluenceInit], by simp [cogfluenceInit]⟩

/-- A write to units that keeps the range of every unit keeps the system in range. -/
theorem InUnit.updateUnit (inUnit : system.InUnit) (unitId : Nat) {f : KnowledgeUnit → KnowledgeUnit}
    (keeps : ∀ unit, unit.InUnit → (f unit).InUnit) : (system.updateUnit unitId f).InUnit := by
  unfold CogfluenceSystem.updateUnit
  split
  · exact inUnit
  · exact { inUnit with units := forall_mem_modifyFirst keeps inUnit.units }

/-- A new unit starts at the global activation and attention 0.5. -/
theorem InUnit.addKnowledgeUnit (inUnit : system.InUnit) (counter : Nat) (name : Option CString)
    (type : UnitType) (embedding : Option Tensor) :
    (cogfluenceAddKnowledgeUnit counter system name type embedding).1.InUnit := by
  unfold cogfluenceAddKnowledgeUnit
  split
  · exact inUnit
  · split
    · exact inUnit
    · refine { inUnit with units := ?_ }
      simp only [List.mem_append, List.mem_singleton]
      rintro unit (old | rfl)
      · exact inUnit.units unit old
      · exact ⟨inUnit.global_nonneg, inUnit.global_le_one, by norm_num [newKnowledgeUnit],
          by norm_num [newKnowledgeUnit]⟩

/-- One executed step keeps the system in range: both raises are capped at 1. -/
theorem InUnit.executeStep (inUnit : system.InUnit) (unitId : Nat) :
    (executeStep system unitId).InUnit := by
  have raised := inUnit.updateUnit unitId (f := fun u =>
      { u with activationLevel := min (u.activationLevel + 0.1) 1,
               attentionValue := min (u.attentionValue + 0.05) 1 })
    fun u inUnit => ⟨le_min (add_nonneg inUnit.activation_nonneg (by norm_num)) zero_le_one,
      min_le_right _ _, le_min (add_nonneg inUnit.attention_nonneg (by norm_num)) zero_le_one,
      min_le_right _ _⟩
  exact { raised with }

theorem InUnit.executeWorkflow (inUnit : system.InUnit) (workflowId : Nat) :
    (cogfluenceExecuteWorkflow system workflowId).1.InUnit := by
  unfold cogfluenceExecuteWorkflow
  split
  · exact inUnit
  · split
    · split
      · exact inUnit
      · rename_i w _ _
        have steps : ∀ (units : List Nat) (s : CogfluenceSystem), s.InUnit →
            (units.foldl Coggml.executeStep s).InUnit := by
          intro units
          induction units with
          | nil => exact fun _ inUnit => inUnit
          | cons unitId rest ih => exact fun s inUnit => ih _ (inUnit.executeStep unitId)
        exact { steps w.stepUnits system inUnit with }
    · exact inUnit

theorem InUnit.updateActivations (inUnit : system.InUnit) :
    (cogfluenceUpdateActivations system).InUnit :=
  { inUnit with
    units := by
      simp only [cogfluenceUpdateActivations, List.mem_map]
      rintro _ ⟨unit, mem, rfl⟩
      exact (inUnit.units unit mem).updateActivation }

theorem InUnit.step (inUnit : system.InUnit) (counter : Nat) (op : CogfluenceOp) :
    (system.step counter op).1.InUnit := by
  cases op with
  | addKnowledgeUnit name type embedding => exact inUnit.addKnowledgeUnit counter name type embedding
  | addRelation unit1 unit2 =>
    show (cogfluenceAddRelation system unit1 unit2).1.InUnit
    unfold cogfluenceAddRelation
    split
    · exact inUnit
    · split
      · dsimp only
        refine (inUnit.updateUnit unit1 ?_).updateUnit unit2 ?_ <;>
          exact fun _ inUnit => { inUnit with }
      · exact inUnit
  | createWorkflow name =>
    show (cogfluenceCreateWorkflow counter system name).1.InUnit
    unfold cogfluenceCreateWorkflow
    split
    · exact inUnit
    · split
      · exact inUnit
      · exact { inUnit with }
  | addWorkflowStep workflowId unitId =>
    show (cogfluenceAddWorkflowStep system workflowId unitId).1.InUnit
    unfold cogfluenceAddWorkflowStep
    split
    · exact inUnit
    · split
      · exact { inUnit with }
      · exact inUnit
  | executeWorkflow workflowId => exact inUnit.executeWorkflow workflowId
  | fromTensor tensor name =>
    show (cogfluenceFromTensor counter system tensor name).1.InUnit
    unfold cogfluenceFromTensor
    split
    · exact inUnit.addKnowledgeUnit counter _ _ _
    · exact inUnit
  | updateActivations => exact inUnit.updateActivations

end CogfluenceSystem

/-- What every call keeps holds at the end of every run that starts where it holds. -/
theorem CogfluenceRun.induction {P : CogfluenceSystem → Prop}
    (step : ∀ system counter op, P system → P (system.step counter op).1)
    {start finish : CogfluenceSystem × Nat} (run : CogfluenceRun start finish)
    (holds : P start.1) : P finish.1 := by
  induction run with
  | refl => exact holds
  | tail _ next ih =>
    obtain ⟨op, rfl⟩ := next
    exact step _ _ op ih

/-- The system and the unit counter after a sequence of calls. -/
def CogfluenceSystem.runCalls (start : CogfluenceSystem × Nat) (ops : List CogfluenceOp) :
    CogfluenceSystem × Nat :=
  ops.foldl (fun a op => a.1.step a.2 op) start

/-- A sequence of calls is a run. -/
theorem cogfluenceRun_runCalls :
    ∀ (start : CogfluenceSystem × Nat) (ops : List CogfluenceOp),
      CogfluenceRun start (CogfluenceSystem.runCalls start ops)
  | _, [] => .refl
  | start, op :: ops => .head ⟨op, rfl⟩ (cogfluenceRun_runCalls (start.1.step start.2 op) ops)

/-- The units of the demo's self-reflection scenario: `self` and `meta` related, a `reflection`
rule, a workflow over `self` executed once, then one activation update. -/
def selfReflection : CogfluenceSystem :=
  (CogfluenceSystem.runCalls (cogfluenceInit, 1)
    [.addKnowledgeUnit (some (cstr "self")) .concept none,
     .addKnowledgeUnit (some (cstr "meta")) .concept none,
     .addRelation 1 2,
     .addKnowledgeUnit (some (cstr "reflection")) .rule none,
     .createWorkflow (some (cstr "reflect")),
     .addWorkflowStep 4 1,
     .executeWorkflow 4,
     .updateActivations]).1

/-- Along every sequence of Cogfluence calls from `cogfluence_init`, with any unit counter, the
global activation and every knowledge unit's activation and attention stay in `[0, 1]`. -/
theorem activations_stay_in_unit {counter counter' : Nat} {system : CogfluenceSystem}
    (run : CogfluenceRun (cogfluenceInit, counter) (system, counter')) : system.InUnit :=
  CogfluenceRun.induction (fun _ counter op inUnit => inUnit.step counter op) run
    CogfluenceSystem.inUnit_cogfluenceInit

/-- The self-reflection run keeps every activation and attention in the unit interval. -/
theorem selfReflection_in_unit : selfReflection.InUnit :=
  activations_stay_in_unit (cogfluenceRun_runCalls _ _)

/-- The factor one update multiplies a unit's activation by. -/
def KnowledgeUnit.decayFactor (unit : KnowledgeUnit) : ℚ :=
  if 0 < unit.relatedUnits.length then 0.9975 else 0.95

/-- Updates in a row keep a unit in range and its relations, and multiply its activation by
its factor each time. -/
theorem KnowledgeUnit.iterate_updateActivation {unit : KnowledgeUnit} (inUnit : unit.InUnit) :
    ∀ k, (updateActivation^[k] unit).InUnit ∧
      (updateActivation^[k] unit).relatedUnits = unit.relatedUnits ∧
      (updateActivation^[k] unit).activationLevel = unit.activationLevel * unit.decayFactor ^ k
  | 0 => ⟨inUnit, rfl, by simp⟩
  | k + 1 => by
    obtain ⟨inUnit', related, activation⟩ := iterate_updateActivation inUnit k
    rw [Function.iterate_succ_apply']
    refine ⟨inUnit'.updateActivation, related, ?_⟩
    rw [updateActivation_activationLevel inUnit', activation, related, pow_succ, mul_assoc]
    rfl

/-- Updates in a row rewrite every unit by the unit update. -/
theorem iterate_cogfluenceUpdateActivations (system : CogfluenceSystem) :
    ∀ k, (cogfluenceUpdateActivations^[k] system).knowledgeUnits =
      system.knowledgeUnits.map (KnowledgeUnit.updateActivation^[k])
  | 0 => by simp
  | k + 1 => by
    rw [Function.iterate_succ_apply', cogfluenceUpdateActivations,
      iterate_cogfluenceUpdateActivations system k, List.map_map, Function.iterate_succ']

/-- From every system a sequence of calls reaches from `cogfluence_init`, `k` calls of
`cogfluence_update_activations` in a row multiply every unit's activation by `0.9975 ^ k` when it
has relations and by `0.95 ^ k` otherwise: the relation boost of 1.05 only slows the decay of
0.95, and no update raises an activation. -/
theorem updates_decay_geometrically {counter counter' : Nat} {system : CogfluenceSystem}
    (run : CogfluenceRun (cogfluenceInit, counter) (system, counter')) (k : Nat) :
    (cogfluenceUpdateActivations^[k] system).knowledgeUnits.map (·.activationLevel) =
      system.knowledgeUnits.map fun unit => unit.activationLevel *
        (if 0 < unit.relatedUnits.length then 0.9975 else 0.95) ^ k := by
  have inUnit := CogfluenceRun.induction (fun _ counter op inUnit => inUnit.step counter op) run
    CogfluenceSystem.inUnit_cogfluenceInit
  rw [iterate_cogfluenceUpdateActivations, List.map_map]
  exact List.map_congr_left fun unit mem =>
    (KnowledgeUnit.iterate_updateActivation (inUnit.units unit mem) k).2.2

/-- Three updates of the self-reflection system scale each activation by the cube of its decay. -/
theorem selfReflection_decays :
    (cogfluenceUpdateActivations^[3] selfReflection).knowledgeUnits.map (·.activationLevel) =
      selfReflection.knowledgeUnits.map fun unit => unit.activationLevel *
        (if 0 < unit.relatedUnits.length then 0.9975 else 0.95) ^ 3 :=
  updates_decay_geometrically (cogfluenceRun_runCalls _ _) 3

end Coggml

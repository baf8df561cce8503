import Coggml.Basic
import Mathlib.Tactic.Ring
/-!
# The attention economy of a cognitive agent

`allocate_attention` adds an amount to one of four categories, first scaling every category by
`1 - excess / allocated_attention` when the amount does not fit the budget. From
`init_attention_economy`, an amount above the budget divides by an allocation of 0, written
`none`, and a larger excess makes categories negative. For amounts within the budget the
categories stay non-negative, sum to the allocation and stay within the budget along every
sequence of calls and of messages `process_incoming_tensor` receives
(`attention_stays_within_budget`). Fields these functions do not read are left out.
-/

namespace Coggml

/-- `COGNITIVE_TYPE_MEMORY`. -/
def cognitiveTypeMemory : UInt32 := 1

/-- `COGNITIVE_TYPE_REASONING`. -/
def cognitiveTypeReasoning : UInt32 := 3

/-- `COGNITIVE_TYPE_COMMUNICATION`. -/
def cognitiveTypeCommunication : UInt32 := 5

/-- `attention_economy`, without its performance history, decay rate and novelty bonus. -/
structure AttentionEconomy where
  /-- Total available attention. -/
  totalAttention : ℚ
  /-- Currently allocated. -/
  allocatedAttention : ℚ
  /-- Allocation to memory. -/
  memoryAllocation : ℚ
  /-- Allocation to reasoning. -/
  reasoningAllocation : ℚ
  /-- Allocation to communication. -/
  communicationAllocation : ℚ
  /-- Allocation to self-modification, the target of every other type. -/
  selfModificationAllocation : ℚ
  /-- Minimum attention weight a message needs to be processed. -/
  minThreshold : ℚ
  deriving DecidableEq

/-- `init_attention_economy`. -/
def initAttentionEconomy : AttentionEconomy where
  totalAttention := 1
  allocatedAttention := 0
  memoryAllocation := 0
  reasoningAllocation := 0
  communicationAllocation := 0
  selfModificationAllocation := 0
  minThreshold := 0.1

namespace AttentionEconomy

/-- The sum of the four category allocations. -/
def categorySum (a : AttentionEconomy) : ℚ :=
  a.memoryAllocation + a.reasoningAllocation + a.communicationAllocation +
    a.selfModificationAllocation

/-- The reallocation of `allocate_attention`: every category scaled by `1 - factor`, then
`allocated_attention` recomputed as their sum. -/
def reduce (factor : ℚ) (a : AttentionEconomy) : AttentionEconomy :=
  let scaled := { a with
    memoryAllocation := a.memoryAllocation * (1 - factor)
    reasoningAllocation := a.reasoningAllocation * (1 - factor)
    communicationAllocation := a.communicationAllocation * (1 - factor)
    selfModificationAllocation := a.selfModificationAllocation * (1 - factor) }
  { scaled with allocatedAttention := scaled.categorySum }

/-- The `switch` on the target of `allocate_attention` and the final
`allocated_attention += amount`. -/
def add (amount : ℚ) (target : UInt32) (a : AttentionEconomy) : AttentionEconomy :=
  let a :=
    if target = cognitiveTypeMemory then { a with memoryAllocation := a.memoryAllocation + amount }
    else if target = cognitiveTypeReasoning then
      { a with reasoningAllocation := a.reasoningAllocation + amount }
    else if target = cognitiveTypeCommunication then
      { a with communicationAllocation := a.communicationAllocation + amount }
    else { a with selfModificationAllocation := a.selfModificationAllocation + amount }
  { a with allocatedAttention := a.allocatedAttention + amount }

end AttentionEconomy

/-- `allocate_attention`; `none` where the reduction factor divides by an allocation of 0. -/
def allocateAttention (attention : AttentionEconomy) (amount : ℚ) (target : UInt32) :
    Option AttentionEconomy :=
  if attention.allocatedAttention + amount > attention.totalAttention then
    if attention.allocatedAttention = 0 then none
    else
      let excess := attention.allocatedAttention + amount - attention.totalAttention
      some ((attention.reduce (excess / attention.allocatedAttention)).add amount target)
  else some (attention.add amount target)

/-- A sequence of `allocate_attention` calls, each an amount and a target. -/
def allocateSequence (attention : AttentionEconomy) (calls : List (ℚ × UInt32)) :
    Option AttentionEconomy :=
  calls.foldlM (fun attention call => allocateAttention attention call.1 call.2) attention

/-- The fields of `cognitive_tensor_packet` that `process_incoming_tensor` reads. -/
structure CognitiveTensorPacket where
  /-- Type of cognitive operation. -/
  cognitiveType : UInt32
  /-- Attention the message asks for. -/
  attentionWeight : ℚ
  deriving DecidableEq

/-- The state of a `cognitive_agent` that `process_incoming_tensor` writes. -/
structure CognitiveAgent where
  /-- The agent's attention economy. -/
  attention : AttentionEconomy
  /-- `messages_received`. -/
  messagesReceived : Nat
  /-- `reasoning->inferences_made`. -/
  inferencesMade : Nat
  deriving DecidableEq

/-- `create_cognitive_agent`, on the state modelled here. -/
def createCognitiveAgent : CognitiveAgent := ⟨initAttentionEconomy, 0, 0⟩

/-- `process_incoming_tensor` — count the message, drop it below the threshold, otherwise
allocate its weight to its type and count a reasoning request. -/
def processIncomingTensor (receiver : CognitiveAgent) (msg : CognitiveTensorPacket) :
    Option CognitiveAgent :=
  let receiver := { receiver with messagesReceived := receiver.messagesReceived + 1 }
  if msg.attentionWeight < receiver.attention.minThreshold then some receiver
  else
    (allocateAttention receiver.attention msg.attentionWeight msg.cognitiveType).map fun attention =>
      let receiver := { receiver with attention := attention }
      if msg.cognitiveType = cognitiveTypeReasoning then
        { receiver with inferencesMade := receiver.inferencesMade + 1 }
      else receiver

/-- A sequence of messages received by one agent. -/
def receiveAll (receiver : CognitiveAgent) (msgs : List CognitiveTensorPacket) :
    Option CognitiveAgent :=
  msgs.foldlM processIncomingTensor receiver

/-- A budgeted economy: non-negative categories that sum to the allocation, within the
total. -/
structure AttentionEconomy.Budgeted (a : AttentionEconomy) : Prop where
  /-- Memory allocation is non-negative. -/
  memory : 0 ≤ a.memoryAllocation
  /-- Reasoning allocation is non-negative. -/
  reasoning : 0 ≤ a.reasoningAllocation
  /-- Communication allocation is non-negative. -/
  communication : 0 ≤ a.communicationAllocation
  /-- Self-modification allocation is non-negative. -/
  selfModification : 0 ≤ a.selfModificationAllocation
  /-- The allocation is the sum of the categories. -/
  sum : a.allocatedAttention = a.categorySum
  /-- The allocation is within the total. -/
  within : a.allocatedAttention ≤ a.totalAttention

namespace AttentionEconomy

variable {a : AttentionEconomy}

@[simp] theorem add_totalAttention (amount : ℚ) (target : UInt32) :
    (a.add amount target).totalAttention = a.totalAttention := by
  unfold add; split_ifs <;> rfl

@[simp] theorem add_minThreshold (amount : ℚ) (target : UInt32) :
    (a.add amount target).minThreshold = a.minThreshold := by
  unfold add; split_ifs <;> rfl

@[simp] theorem reduce_totalAttention (factor : ℚ) : (a.reduce factor).totalAttention = a.totalAttention := rfl

@[simp] theorem reduce_minThreshold (factor : ℚ) : (a.reduce factor).minThreshold = a.minThreshold := rfl

/-- The reallocation scales the allocation. -/
theorem reduce_allocatedAttention (factor : ℚ) :
    (a.reduce factor).allocatedAttention = a.categorySum * (1 - factor) := by
  simp only [reduce, categorySum]
  ring

/-- The categories are non-negative, so their sum is. -/
theorem Budgeted.allocated_nonneg (budgeted : a.Budgeted) : 0 ≤ a.allocatedAttention := by
  rw [budgeted.sum, categorySum]
  linarith [budgeted.memory, budgeted.reasoning, budgeted.communication, budgeted.selfModification]

/-- Adding an amount that fits keeps the budget. -/
theorem Budgeted.add (budgeted : a.Budgeted) {amount : ℚ} (nonneg : 0 ≤ amount)
    (fits : a.allocatedAttention + amount ≤ a.totalAttention) (target : UInt32) :
    (a.add amount target).Budgeted := by
  obtain ⟨memory, reasoning, communication, selfModification, sum, -⟩ := budgeted
  unfold AttentionEconomy.add categorySum at *
  split_ifs
  · exact ⟨add_nonneg memory nonneg, reasoning, communication, selfModification,
      by unfold categorySum; rw [sum]; ring, fits⟩
  · exact ⟨memory, add_nonneg reasoning nonneg, communication, selfModification,
      by unfold categorySum; rw [sum]; ring, fits⟩
  · exact ⟨memory, reasoning, add_nonneg communication nonneg, selfModification,
      by unfold categorySum; rw [sum]; ring, fits⟩
  · exact ⟨memory, reasoning, communication, add_nonneg selfModification nonneg,
      by unfold categorySum; rw [sum]; ring, fits⟩

/-- A reduction by a factor in `[0, 1]` keeps the budget. -/
theorem Budgeted.reduce (budgeted : a.Budgeted) {factor : ℚ} (low : 0 ≤ factor) (high : factor ≤ 1) :
    (a.reduce factor).Budgeted where
  memory := mul_nonneg budgeted.memory (sub_nonneg.2 high)
  reasoning := mul_nonneg budgeted.reasoning (sub_nonneg.2 high)
  communication := mul_nonneg budgeted.communication (sub_nonneg.2 high)
  selfModification := mul_nonneg budgeted.selfModification (sub_nonneg.2 high)
  sum := rfl
  within := by
    rw [reduce_allocatedAttention, ← budgeted.sum, reduce_totalAttention]
    linarith [mul_nonneg budgeted.allocated_nonneg low, budgeted.within]

/-- One call with an amount within the total keeps the budget and divides by no zero. -/
theorem Budgeted.allocate (budgeted : a.Budgeted) {amount : ℚ} (nonneg : 0 ≤ amount)
    (fits : amount ≤ a.totalAttention) (target : UInt32) :
    ∃ a', allocateAttention a amount target = some a' ∧ a'.Budgeted ∧
      a'.totalAttention = a.totalAttention ∧ a'.minThreshold = a.minThreshold := by
  unfold allocateAttention
  dsimp only
  split_ifs with over zero
  · linarith
  · have positive : 0 < a.allocatedAttention := lt_of_le_of_ne budgeted.allocated_nonneg (Ne.symm zero)
    have low : 0 ≤ (a.allocatedAttention + amount - a.totalAttention) / a.allocatedAttention :=
      div_nonneg (by linarith) positive.le
    have high : (a.allocatedAttention + amount - a.totalAttention) / a.allocatedAttention ≤ 1 :=
      (div_le_iff₀ positive).2 (by linarith)
    have reduced : (a.reduce ((a.allocatedAttention + amount - a.totalAttention) /
        a.allocatedAttention)).allocatedAttention = a.totalAttention - amount := by
      rw [reduce_allocatedAttention, ← budgeted.sum, mul_sub, mul_one, mul_div_cancel₀ _ zero]
      ring
    refine ⟨_, rfl, (budgeted.reduce low high).add nonneg ?_ target, by simp, by simp⟩
    rw [reduced, reduce_totalAttention]
    linarith
  · exact ⟨_, rfl, budgeted.add nonneg (not_lt.1 over) target, by simp, by simp⟩

/-- A sequence of calls with amounts within the total keeps the budget and divides by no
zero. -/
theorem Budgeted.allocateSequence (budgeted : a.Budgeted) (calls : List (ℚ × UInt32))
    (amounts : ∀ call ∈ calls, 0 ≤ call.1 ∧ call.1 ≤ a.totalAttention) :
    ∃ a', Coggml.allocateSequence a calls = some a' ∧ a'.Budgeted ∧
      a'.totalAttention = a.totalAttention := by
  induction calls generalizing a with
  | nil => exact ⟨a, rfl, budgeted, rfl⟩
  | cons call rest ih =>
    simp only [List.mem_cons, forall_eq_or_imp] at amounts
    obtain ⟨a', step, budgeted', total, -⟩ :=
      budgeted.allocate amounts.1.1 amounts.1.2 call.2
    obtain ⟨a'', run, budgeted'', total'⟩ := ih budgeted' (total ▸ amounts.2)
    refine ⟨a'', ?_, budgeted'', total'.trans total⟩
    simpa [Coggml.allocateSequence, List.foldlM_cons, step] using run

end AttentionEconomy

section Messages

variable {receiver : CognitiveAgent}

/-- One message of weight within the total keeps the receiver's budget. -/
theorem CognitiveAgent.budgeted_process (budgeted : receiver.attention.Budgeted)
    (threshold : 0 ≤ receiver.attention.minThreshold) (msg : CognitiveTensorPacket)
    (weight : msg.attentionWeight ≤ receiver.attention.totalAttention) :
    ∃ r, processIncomingTensor receiver msg = some r ∧ r.attention.Budgeted ∧
      r.attention.totalAttention = receiver.attention.totalAttention ∧
      r.attention.minThreshold = receiver.attention.minThreshold := by
  unfold processIncomingTensor
  dsimp only
  by_cases below : msg.attentionWeight < receiver.attention.minThreshold
  · exact ⟨_, if_pos below, budgeted, rfl, rfl⟩
  · obtain ⟨a', allocated, budgeted', total, same⟩ :=
      budgeted.allocate (threshold.trans (not_lt.1 below)) weight msg.cognitiveType
    rw [if_neg below, allocated, Option.map_some']
    refine ⟨_, rfl, ?_⟩
    split_ifs <;> exact ⟨budgeted', total, same⟩

/-- A sequence of messages of weights within the total keeps the receiver's budget. -/
theorem CognitiveAgent.budgeted_receiveAll (budgeted : receiver.attention.Budgeted)
    (threshold : 0 ≤ receiver.attention.minThreshold) (msgs : List CognitiveTensorPacket)
    (weights : ∀ msg ∈ msgs, msg.attentionWeight ≤ receiver.attention.totalAttention) :
    ∃ r, receiveAll receiver msgs = some r ∧ r.attention.Budgeted := by
  induction msgs generalizing receiver with
  | nil => exact ⟨receiver, rfl, budgeted⟩
  | cons msg rest ih =>
    simp only [List.mem_cons, forall_eq_or_imp] at weights
    obtain ⟨r, step, budgeted', total, same⟩ :=
      CognitiveAgent.budgeted_process budgeted threshold msg weights.1
    obtain ⟨r', run, budgeted''⟩ := ih budgeted' (same ▸ threshold) (total ▸ weights.2)
    exact ⟨r', by simpa [receiveAll, List.foldlM_cons, step] using run, budgeted''⟩

end Messages

/-- The freshly initialised economy is within its budget. -/
theorem initAttentionEconomy_budgeted : initAttentionEconomy.Budgeted where
  memory := le_rfl
  reasoning := le_rfl
  communication := le_rfl
  selfModification := le_rfl
  sum := by simp [initAttentionEconomy, AttentionEconomy.categorySum]
  within := by simp [initAttentionEconomy]

/-- From `init_attention_economy`, allocations of amounts within the total and messages whose
weights are within it keep the economy budgeted: the categories sum to what is allocated, which
never exceeds the total. -/
theorem attention_stays_within_budget (calls : List (ℚ × UInt32))
    (msgs : List CognitiveTensorPacket)
    (amounts : ∀ call ∈ calls, 0 ≤ call.1 ∧ call.1 ≤ initAttentionEconomy.totalAttention)
    (weights : ∀ msg ∈ msgs, msg.attentionWeight ≤ initAttentionEconomy.totalAttention) :
    (∃ attention, allocateSequence initAttentionEconomy calls = some attention ∧
      attention.Budgeted) ∧
    ∃ agent, receiveAll createCognitiveAgent msgs = some agent ∧ agent.attention.Budgeted := by
  have threshold : (0 : ℚ) ≤ createCognitiveAgent.attention.minThreshold := by
    norm_num [createCognitiveAgent, initAttentionEconomy]
  obtain ⟨attention, run, budgeted, -⟩ :=
    initAttentionEconomy_budgeted.allocateSequence calls amounts
  exact ⟨⟨attention, run, budgeted⟩,
    CognitiveAgent.budgeted_receiveAll initAttentionEconomy_budgeted threshold msgs weights⟩

/-- The calls of `demo_attention_economy`. -/
def demoAttentionCalls : List (ℚ × UInt32) :=
  [(0.4, cognitiveTypeMemory), (0.3, cognitiveTypeReasoning), (0.5, cognitiveTypeCommunication)]

/-- A reasoning request and a deferred message. -/
def demoMessages : List CognitiveTensorPacket := [⟨cognitiveTypeReasoning, 0.6⟩, ⟨2, 0.05⟩]

/-- The demo's allocations and messages keep the economy budgeted. -/
theorem demo_attention_budgeted :
    (∃ attention, allocateSequence initAttentionEconomy demoAttentionCalls = some attention ∧
      attention.Budgeted) ∧
    ∃ agent, receiveAll createCognitiveAgent demoMessages = some agent ∧ agent.attention.Budgeted :=
  attention_stays_within_budget demoAttentionCalls demoMessages
    (by simp only [demoAttentionCalls, initAttentionEconomy, List.mem_cons, List.mem_singleton,
      forall_eq_or_imp, forall_eq, List.not_mem_nil]; norm_num)
    (by simp only [demoMessages, initAttentionEconomy, List.mem_cons, List.mem_singleton,
      forall_eq_or_imp, forall_eq, List.not_mem_nil]; norm_num)

/-- An allocation of 3/2 on the empty economy is refused, and so is a message that asks for it;
an allocation of 2 after one of 0.4 is accepted by scaling down, and leaves a category negative. -/
theorem heavy_messages_break_budget :
    allocateAttention initAttentionEconomy (3 / 2) cognitiveTypeMemory = none ∧
      processIncomingTensor createCognitiveAgent ⟨cognitiveTypeMemory, 3 / 2⟩ = none ∧
      allocateSequence initAttentionEconomy
          [(0.4, cognitiveTypeMemory), (2, cognitiveTypeReasoning)] = some ⟨1, 1, -1, 2, 0, 0, 0.1⟩ := by
  have distinct : cognitiveTypeReasoning ≠ cognitiveTypeMemory := by decide
  refine ⟨?_, ?_, ?_⟩ <;>
    simp only [allocateAttention, processIncomingTensor, createCognitiveAgent, allocateSequence,
      List.foldlM_cons, List.foldlM_nil, initAttentionEconomy, AttentionEconomy.reduce,
      AttentionEconomy.add, AttentionEconomy.categorySum, distinct, if_true, if_false] <;>
    norm_num

end Coggml

import Coggml.Distributed.Dashboard
/-!
# The enhanced cognitive network

`enhanced_cognitive_network_t` keeps its agents in a list, newest first, so a lookup by id finds
the newest node with that id. Routing delivers to an active target with a probability drawn
against `rand()`; a failure deactivates the first node with the failed id and boosts the agents
discovery still finds; coherence averages over the active nodes. Every run keeps reliabilities in
`(0, 1]`, attention in `[0.5, 1]` and the efficiency nonnegative (`network_nodes_stay_healthy`),
and after a failure no message reaches that id until an agent with it is added again
(`failed_agent_receives_nothing`). Fields that are written and never read are left out.
-/

namespace Coggml

/-! ## Nodes, messages and the network -/

/-- `network_node_t`, the fields the modelled functions read. -/
structure NetworkNode where
  /-- `agent_id`, not checked for uniqueness. -/
  agentId : Nat
  /-- Starts at 1, halved at each failure. -/
  reliabilityScore : ℚ
  /-- Cleared at a failure, never set again. -/
  isActive : Bool
  /-- Given at registration. -/
  memoryCapacity : ℚ
  /-- Given at registration. -/
  reasoningCapability : ℚ
  /-- Starts at 0.5, raised when load is redistributed. -/
  attentionAllocation : ℚ
  deriving DecidableEq

/-- `enhanced_cognitive_network_t`, the fields the modelled functions read. -/
structure EnhancedCognitiveNetwork where
  /-- The linked list from its head. -/
  nodes : List NetworkNode
  /-- `node_count`. -/
  nodeCount : Nat
  /-- Written by the coherence calculation. -/
  networkCoherence : ℚ
  /-- Moving average of delivery probabilities. -/
  communicationEfficiency : ℚ

/-- `enhanced_cognitive_message_t`, the fields routing reads and writes. -/
structure EnhancedCognitiveMessage where
  /-- Sender. -/
  sourceAgentId : Nat
  /-- Receiver, looked up by id. -/
  targetAgentId : Nat
  /-- Attention weight. -/
  attentionWeight : ℚ
  /-- Salience score. -/
  salienceScore : ℚ
  /-- Hops taken. -/
  hopCount : Nat
  deriving DecidableEq

/-- `enhanced_network_init`. -/
def enhancedNetworkInit : EnhancedCognitiveNetwork := ⟨[], 0, 0, 0⟩

/-- The node `enhanced_network_add_agent` allocates. -/
def newNetworkNode (agentId : Nat) (memoryCapacity reasoningCapability : ℚ) : NetworkNode where
  agentId := agentId
  reliabilityScore := 1
  isActive := true
  memoryCapacity := memoryCapacity
  reasoningCapability := reasoningCapability
  attentionAllocation := 0.5

/-- `enhanced_network_add_agent` — refused for a `NULL` endpoint; the node goes to the head of
the list. -/
def enhancedNetworkAddAgent (network : EnhancedCognitiveNetwork) (agentId : Nat)
    (endpoint : Option CString) (memoryCapacity reasoningCapability : ℚ) :
    EnhancedCognitiveNetwork × Bool :=
  match endpoint with
  | none => (network, false)
  | some _ =>
    ({ network with
        nodes := newNetworkNode agentId memoryCapacity reasoningCapability :: network.nodes
        nodeCount := network.nodeCount + 1 }, true)

/-- The first node with an id, as a walk from the head finds it. -/
def EnhancedCognitiveNetwork.findAgent (network : EnhancedCognitiveNetwork) (agentId : Nat) :
    Option NetworkNode :=
  network.nodes.find? (·.agentId == agentId)

/-! ## Discovery -/

/-- The test both loops of `enhanced_network_discover_agents` apply: active, with at least the
requested memory capacity and reasoning capability. -/
def NetworkNode.capable (minMemoryCapacity minReasoningCapability : ℚ) (node : NetworkNode) :
    Bool :=
  node.isActive && decide (minMemoryCapacity ≤ node.memoryCapacity) &&
    decide (minReasoningCapability ≤ node.reasoningCapability)

/-- The filling loop of `enhanced_network_discover_agents`: walk the list while fewer ids than
the count have been written. -/
def collectCapable (capable : NetworkNode → Bool) : Nat → List NetworkNode → List Nat
  | 0, _ => []
  | _ + 1, [] => []
  | remaining + 1, node :: rest =>
    if capable node then node.agentId :: collectCapable capable remaining rest
    else collectCapable capable (remaining + 1) rest

/-- `enhanced_network_discover_agents` — count the matching agents, then write their ids; the
empty list stands for the `NULL` returned when none match. -/
def enhancedNetworkDiscoverAgents (network : EnhancedCognitiveNetwork)
    (minMemoryCapacity minReasoningCapability : ℚ) : List Nat :=
  let capable := NetworkNode.capable minMemoryCapacity minReasoningCapability
  let count := network.nodes.countP capable
  if count = 0 then [] else collectCapable capable count network.nodes

/-! ## Routing -/

/-- `enhanced_network_route_message` with `rand()` read at `pos` — refused, with nothing
changed and nothing drawn, for a target that is missing or inactive; otherwise the hop is
counted and the message delivered when `rand() / RAND_MAX` falls below the target's reliability
scaled by `0.5 + 0.5 * attention_weight * salience_score`, a delivery moving the efficiency
average. Returns the network, the message, whether it was delivered, and the next position. -/
def enhancedNetworkRouteMessage (network : EnhancedCognitiveNetwork)
    (message : EnhancedCognitiveMessage) (rand : Nat → Nat) (pos : Nat) :
    EnhancedCognitiveNetwork × EnhancedCognitiveMessage × Bool × Nat :=
  match network.findAgent message.targetAgentId with
  | none => (network, message, false, pos)
  | some target =>
    if !target.isActive then (network, message, false, pos)
    else
      let routingPriority := message.attentionWeight * message.salienceScore
      let counted := { message with hopCount := message.hopCount + 1 }
      let deliveryProbability := target.reliabilityScore * (0.5 + routingPriority * 0.5)
      if (rand pos : ℚ) / randMax < deliveryProbability then
        ({ network with
            communicationEfficiency :=
              network.communicationEfficiency * 0.9 + deliveryProbability * 0.1 },
          counted, true, pos + 1)
      else (network, counted, false, pos + 1)

/-- The message `enhanced_network_coordinate_reasoning` sends each agent: attention 0.8,
salience 0.9. -/
def reasoningTaskMessage (coordinatorAgentId agentId : Nat) : EnhancedCognitiveMessage :=
  ⟨coordinatorAgentId, agentId, 0.8, 0.9, 0⟩

/-- The sending loop of `enhanced_network_coordinate_reasoning`. -/
def routeReasoningTasks (rand : Nat → Nat) (coordinatorAgentId : Nat) :
    List Nat → EnhancedCognitiveNetwork → Nat → EnhancedCognitiveNetwork × Nat
  | [], network, pos => (network, pos)
  | agentId :: rest, network, pos =>
    let routed := enhancedNetworkRouteMessage network
      (reasoningTaskMessage coordinatorAgentId agentId) rand pos
    routeReasoningTasks rand coordinatorAgentId rest routed.1 routed.2.2.2

/-- `enhanced_network_coordinate_reasoning` — refused for a `NULL` task and when no active agent
has memory 0.3 and reasoning 0.7; otherwise one task message is routed to each such agent, and
the call succeeds whatever the deliveries. -/
def enhancedNetworkCoordinateReasoning (network : EnhancedCognitiveNetwork)
    (reasoningTask : Option CString) (coordinatorAgentId : Nat) (rand : Nat → Nat) (pos : Nat) :
    EnhancedCognitiveNetwork × Bool × Nat :=
  match reasoningTask with
  | none => (network, false, pos)
  | some _ =>
    let capable := enhancedNetworkDiscoverAgents network 0.3 0.7
    if capable = [] then (network, false, pos)
    else
      let sent := routeReasoningTasks rand coordinatorAgentId capable network pos
      (sent.1, true, sent.2)

/-! ## Failures and coherence -/

/-- A failed node: inactive, with half its reliability. -/
def NetworkNode.fail (node : NetworkNode) : NetworkNode :=
  { node with isActive := false, reliabilityScore := node.reliabilityScore * 0.5 }

/-- A node taking on redistributed load: 0.1 more attention, at most 1. -/
def NetworkNode.boost (node : NetworkNode) : NetworkNode :=
  { node with attentionAllocation := min 1 (node.attentionAllocation + 0.1) }

/-- The search loop of `enhanced_network_handle_failure`: the first node with the failed id
fails. -/
def failAgent (failedAgentId : Nat) (nodes : List NetworkNode) : List NetworkNode :=
  modifyFirst (·.agentId == failedAgentId) NetworkNode.fail nodes

/-- The redistribution loop of `enhanced_network_handle_failure`: for each discovered id in
turn, the first node with that id takes on load. -/
def redistributeLoad (activeAgents : List Nat) (nodes : List NetworkNode) : List NetworkNode :=
  activeAgents.foldl
    (fun nodes agentId => modifyFirst (·.agentId == agentId) NetworkNode.boost nodes) nodes

/-- `enhanced_network_handle_failure` — false for an id in no node; otherwise the first node
with the id fails, every agent discovered with memory and reasoning 0.2 has the first node with
its id boosted, and the call answers whether there was any. -/
def enhancedNetworkHandleFailure (network : EnhancedCognitiveNetwork) (failedAgentId : Nat) :
    EnhancedCognitiveNetwork × Bool :=
  if network.nodes.any (·.agentId == failedAgentId) then
    let failed := { network with nodes := failAgent failedAgentId network.nodes }
    let activeAgents := enhancedNetworkDiscoverAgents failed 0.2 0.2
    if activeAgents = [] then (failed, false)
    else
      ({ failed with nodes := redistributeLoad activeAgents failed.nodes }, true)
  else (network, false)

/-- `enhanced_network_calculate_coherence` — 0 with no nodes counted or none active; otherwise
the mean of the active nodes' average reliability, their average reasoning capability and the
communication efficiency, stored and returned. -/
def enhancedNetworkCalculateCoherence (network : EnhancedCognitiveNetwork) :
    EnhancedCognitiveNetwork × ℚ :=
  if network.nodeCount = 0 then (network, 0)
  else
    let active := network.nodes.filter (·.isActive)
    if active = [] then (network, 0)
    else
      let activeCount : ℚ := active.length
      let coherence := ((active.map (·.reliabilityScore)).sum / activeCount +
        (active.map (·.reasoningCapability)).sum / activeCount +
        network.communicationEfficiency) / 3
      ({ network with networkCoherence := coherence }, coherence)

/-! ## Calls in any order -/

/-- A call of the network API that can change it. -/
inductive NetworkOp
  | addAgent (agentId : Nat) (endpoint : Option CString) (memoryCapacity reasoningCapability : ℚ)
  | routeMessage (message : EnhancedCognitiveMessage)
  | coordinateReasoning (reasoningTask : Option CString) (coordinatorAgentId : Nat)
  | handleFailure (failedAgentId : Nat)
  | calculateCoherence

/-- The network and the next `rand()` position after one call. -/
def EnhancedCognitiveNetwork.step (network : EnhancedCognitiveNetwork) (rand : Nat → Nat)
    (pos : Nat) : NetworkOp → EnhancedCognitiveNetwork × Nat
  | .addAgent agentId endpoint memoryCapacity reasoningCapability =>
    ((enhancedNetworkAddAgent network agentId endpoint memoryCapacity reasoningCapability).1, pos)
  | .routeMessage message =>
    let routed := enhancedNetworkRouteMessage network message rand pos
    (routed.1, routed.2.2.2)
  | .coordinateReasoning reasoningTask coordinatorAgentId =>
    let coordinated :=
      enhancedNetworkCoordinateReasoning network reasoningTask coordinatorAgentId rand pos
    (coordinated.1, coordinated.2.2)
  | .handleFailure failedAgentId => ((enhancedNetworkHandleFailure network failedAgentId).1, pos)
  | .calculateCoherence => ((enhancedNetworkCalculateCoherence network).1, pos)

/-- A finite sequence of calls, each allowed by `allowed`, with `rand()` results `rand`. -/
def NetworkRun (allowed : NetworkOp → Prop) (rand : Nat → Nat) :
    EnhancedCognitiveNetwork × Nat → EnhancedCognitiveNetwork × Nat → Prop :=
  Relation.ReflTransGen fun a b => ∃ op, allowed op ∧ b = a.1.step rand a.2 op

/-- Whether a call registers an agent under an id. -/
def NetworkOp.addsAgent (agentId : Nat) : NetworkOp → Bool
  | .addAgent id _ _ _ => id == agentId
  | _ => false

/-- A caller that keeps to unit ranges: reasoning capabilities registered in `[0, 1]`, and
routing priorities `attention_weight * salience_score` at most 1. -/
def NetworkOp.InRange : NetworkOp → Prop
  | .addAgent _ _ _ reasoningCapability => 0 ≤ reasoningCapability ∧ reasoningCapability ≤ 1
  | .routeMessage message => message.attentionWeight * message.salienceScore ≤ 1
  | _ => True

/-! ## Writes through a search by id -/

section Nodes

variable {f : NetworkNode → NetworkNode} {nodes : List NetworkNode}

@[simp] theorem NetworkNode.fail_agentId (node : NetworkNode) : node.fail.agentId = node.agentId :=
  rfl

@[simp] theorem NetworkNode.fail_isActive (node : NetworkNode) : node.fail.isActive = false := rfl

@[simp] theorem NetworkNode.boost_agentId (node : NetworkNode) :
    node.boost.agentId = node.agentId :=
  rfl

@[simp] theorem NetworkNode.boost_isActive (node : NetworkNode) :
    node.boost.isActive = node.isActive :=
  rfl

@[simp] theorem NetworkNode.capable_fail (minMemory minReasoning : ℚ) (node : NetworkNode) :
    node.fail.capable minMemory minReasoning = false :=
  rfl

/-- Lookup after a write through a search by id, for a write that keeps ids: the written id
finds the rewritten node, any other id what it found before. -/
theorem find?_modifyFirst (keeps : ∀ node, (f node).agentId = node.agentId)
    (written agentId : Nat) :
    (modifyFirst (·.agentId == written) f nodes).find? (·.agentId == agentId) =
      if agentId = written then (nodes.find? (·.agentId == agentId)).map f
      else nodes.find? (·.agentId == agentId) := by
  induction nodes with
  | nil => split <;> rfl
  | cons node rest ih =>
    by_cases here : node.agentId = written
    · subst here
      by_cases same : agentId = node.agentId
      · simp [modifyFirst, same, keeps]
      · simp [modifyFirst, keeps, same, Ne.symm same]
    · by_cases found : node.agentId = agentId
      · subst found; simp [modifyFirst, here]
      · simp [modifyFirst, here, found, ih]

/-- With distinct ids, a write through a search by id rewrites every node with that id. -/
theorem modifyFirst_eq_map (distinct : (nodes.map (·.agentId)).Nodup) (written : Nat) :
    modifyFirst (·.agentId == written) f nodes =
      nodes.map fun node => if node.agentId = written then f node else node := by
  induction nodes with
  | nil => rfl
  | cons node rest ih =>
    simp only [List.map_cons, List.nodup_cons, List.mem_map] at distinct
    by_cases here : node.agentId = written
    · have others : ∀ other ∈ rest, other.agentId ≠ written := fun other mem same =>
        distinct.1 ⟨other, mem, same.trans here.symm⟩
      simp [modifyFirst, here, List.map_congr_left (fun other mem => if_neg (others other mem))]
    · simp [modifyFirst, here, ih distinct.2]

/-- The redistribution loop keeps ids. -/
theorem map_agentId_redistributeLoad (activeAgents : List Nat) :
    (redistributeLoad activeAgents nodes).map (·.agentId) = nodes.map (·.agentId) := by
  induction activeAgents generalizing nodes with
  | nil => rfl
  | cons agentId rest ih =>
    simp only [redistributeLoad, List.foldl_cons] at ih ⊢
    rw [ih]
    induction nodes with
    | nil => rfl
    | cons node more ih' => by_cases h : node.agentId == agentId <;> simp [modifyFirst, h, ih']

/-- With distinct ids, the redistribution loop boosts exactly the nodes whose ids it is given,
each once when the given ids are distinct. -/
theorem redistributeLoad_eq_map (distinct : (nodes.map (·.agentId)).Nodup)
    {activeAgents : List Nat} (once : activeAgents.Nodup) :
    redistributeLoad activeAgents nodes =
      nodes.map fun node => if node.agentId ∈ activeAgents then node.boost else node := by
  induction activeAgents generalizing nodes with
  | nil => simp [redistributeLoad]
  | cons agentId rest ih =>
    rw [List.nodup_cons] at once
    have step : redistributeLoad (agentId :: rest) nodes =
        redistributeLoad rest (modifyFirst (·.agentId == agentId) NetworkNode.boost nodes) := rfl
    have keeps : (modifyFirst (·.agentId == agentId) NetworkNode.boost nodes).map (·.agentId) =
        nodes.map (·.agentId) := map_agentId_redistributeLoad [agentId]
    rw [step, ih (keeps ▸ distinct) once.2, modifyFirst_eq_map distinct, List.map_map]
    refine List.map_congr_left fun node _ => ?_
    by_cases here : node.agentId = agentId
    · simp [here, once.1]
    · simp [here]

end Nodes

/-! ## Discovery -/

/-- The filling loop, stopped after `remaining` ids, writes the first `remaining` matching ids. -/
theorem collectCapable_eq_take (capable : NetworkNode → Bool) (remaining : Nat)
    (nodes : List NetworkNode) :
    collectCapable capable remaining nodes =
      ((nodes.filter capable).map (·.agentId)).take remaining := by
  induction remaining, nodes using collectCapable.induct capable with
  | case1 => simp [collectCapable]
  | case2 => rfl
  | case3 remaining node rest yes ih => simp [collectCapable, yes, ih]
  | case4 remaining node rest no ih => simp [collectCapable, no, ih]

/-- The two passes of `enhanced_network_discover_agents`, counting and then filling, list the
ids of the matching nodes from the head of the list, one per matching node. -/
theorem discover_agents_filter (network : EnhancedCognitiveNetwork)
    (minMemoryCapacity minReasoningCapability : ℚ) :
    enhancedNetworkDiscoverAgents network minMemoryCapacity minReasoningCapability =
      (network.nodes.filter (NetworkNode.capable minMemoryCapacity minReasoningCapability)).map
        (·.agentId) := by
  dsimp only [enhancedNetworkDiscoverAgents]
  rw [List.countP_eq_length_filter, collectCapable_eq_take]
  split
  · simp_all [List.length_eq_zero]
  · simp

/-! ## What each call can do -/

section Calls

variable (network : EnhancedCognitiveNetwork) (rand : Nat → Nat) (pos : Nat)

/-- Routing changes nothing, or delivers to a node of the network with a positive delivery
probability and moves the efficiency average toward it. -/
theorem enhancedNetworkRouteMessage_cases (message : EnhancedCognitiveMessage) :
    (enhancedNetworkRouteMessage network message rand pos).1 = network ∨
      ∃ target ∈ network.nodes,
        0 < target.reliabilityScore *
          (0.5 + message.attentionWeight * message.salienceScore * 0.5) ∧
        (enhancedNetworkRouteMessage network message rand pos).1 =
          { network with
            communicationEfficiency := network.communicationEfficiency * 0.9 +
              target.reliabilityScore *
                (0.5 + message.attentionWeight * message.salienceScore * 0.5) * 0.1 } := by
  unfold enhancedNetworkRouteMessage
  split
  · exact .inl rfl
  · rename_i target found
    dsimp only
    split
    · exact .inl rfl
    · split
      · rename_i drawn
        refine .inr ⟨target, List.mem_of_find?_eq_some found, ?_, rfl⟩
        exact lt_of_le_of_lt (div_nonneg (Nat.cast_nonneg _) (Nat.cast_nonneg _)) drawn
      · exact .inl rfl

/-- Routing to an id whose first node is inactive, or that no node has, changes nothing and
draws nothing. -/
theorem enhancedNetworkRouteMessage_of_inactive (message : EnhancedCognitiveMessage)
    (inactive : ∀ node ∈ network.findAgent message.targetAgentId, node.isActive = false) :
    enhancedNetworkRouteMessage network message rand pos = (network, message, false, pos) := by
  unfold enhancedNetworkRouteMessage
  split
  · rfl
  · rename_i target found
    simp [inactive target found]

/-- What every routing of a task message keeps holds after the sending loop. -/
theorem routeReasoningTasks_induction {P : EnhancedCognitiveNetwork → Prop}
    (coordinatorAgentId : Nat)
    (route : ∀ network agentId pos, P network →
      P (enhancedNetworkRouteMessage network (reasoningTaskMessage coordinatorAgentId agentId)
        rand pos).1)
    (agentIds : List Nat) (holds : P network) :
    P (routeReasoningTasks rand coordinatorAgentId agentIds network pos).1 := by
  induction agentIds generalizing network pos with
  | nil => exact holds
  | cons agentId rest ih => exact ih _ _ (route network agentId pos holds)

/-- What every routing of a task message keeps, coordination keeps. -/
theorem enhancedNetworkCoordinateReasoning_induction {P : EnhancedCognitiveNetwork → Prop}
    (reasoningTask : Option CString) (coordinatorAgentId : Nat)
    (route : ∀ network agentId pos, P network →
      P (enhancedNetworkRouteMessage network (reasoningTaskMessage coordinatorAgentId agentId)
        rand pos).1)
    (holds : P network) :
    P (enhancedNetworkCoordinateReasoning network reasoningTask coordinatorAgentId rand pos).1 := by
  unfold enhancedNetworkCoordinateReasoning
  split
  · exact holds
  · dsimp only
    split
    · exact holds
    · exact routeReasoningTasks_induction _ rand pos coordinatorAgentId route _ holds

/-- A task message's routing priority, `0.8 * 0.9`, is below 1. -/
theorem reasoningTaskMessage_priority (coordinatorAgentId agentId : Nat) :
    (reasoningTaskMessage coordinatorAgentId agentId).attentionWeight *
      (reasoningTaskMessage coordinatorAgentId agentId).salienceScore ≤ 1 := by
  norm_num [reasoningTaskMessage]

variable {network} in
/-- For an id some node has, `enhanced_network_handle_failure` fails the first such node, runs
the redistribution loop over the agents then discovered, and answers whether there were any. -/
theorem enhancedNetworkHandleFailure_of_present {failedAgentId : Nat}
    (present : network.nodes.any (·.agentId == failedAgentId)) :
    enhancedNetworkHandleFailure network failedAgentId =
      ({ network with
          nodes := redistributeLoad
            (enhancedNetworkDiscoverAgents
              { network with nodes := failAgent failedAgentId network.nodes } 0.2 0.2)
            (failAgent failedAgentId network.nodes) },
        !(enhancedNetworkDiscoverAgents
          { network with nodes := failAgent failedAgentId network.nodes } 0.2 0.2).isEmpty) := by
  unfold enhancedNetworkHandleFailure
  rw [if_pos present]
  dsimp only
  split
  · rename_i none
    simp [none, redistributeLoad]
  · rename_i some
    simp [List.isEmpty_iff, some]

/-- A failure leaves the network as it was, or changes only its list of nodes, by the failing
search and the redistribution loop. -/
theorem enhancedNetworkHandleFailure_cases (failedAgentId : Nat) :
    (enhancedNetworkHandleFailure network failedAgentId).1 = network ∨
      ∃ activeAgents, (enhancedNetworkHandleFailure network failedAgentId).1 =
        { network with
          nodes := redistributeLoad activeAgents (failAgent failedAgentId network.nodes) } := by
  by_cases present : network.nodes.any (·.agentId == failedAgentId)
  · exact .inr ⟨_, by rw [enhancedNetworkHandleFailure_of_present present]⟩
  · left
    simp [enhancedNetworkHandleFailure, present]

/-- The coherence calculation changes nothing, or stores the value it returns. -/
theorem enhancedNetworkCalculateCoherence_cases :
    (enhancedNetworkCalculateCoherence network).1 = network ∨
      (enhancedNetworkCalculateCoherence network).1 =
        { network with networkCoherence := (enhancedNetworkCalculateCoherence network).2 } := by
  unfold enhancedNetworkCalculateCoherence
  split
  · exact .inl rfl
  · dsimp only
    split
    · exact .inl rfl
    · exact .inr rfl

end Calls

/-! ## The invariant of every run -/

/-- What every node keeps: reliability in `(0, 1]`, attention in `[0.5, 1]`. -/
structure NetworkNode.Healthy (node : NetworkNode) : Prop where
  reliability_pos : 0 < node.reliabilityScore
  reliability_le_one : node.reliabilityScore ≤ 1
  attention_ge_half : 1 / 2 ≤ node.attentionAllocation
  attention_le_one : node.attentionAllocation ≤ 1

theorem newNetworkNode_healthy (agentId : Nat) (memoryCapacity reasoningCapability : ℚ) :
    (newNetworkNode agentId memoryCapacity reasoningCapability).Healthy := by
  constructor <;> norm_num [newNetworkNode]

theorem NetworkNode.Healthy.fail {node : NetworkNode} (healthy : node.Healthy) :
    node.fail.Healthy :=
  { healthy with
    reliability_pos := mul_pos healthy.reliability_pos (by norm_num)
    reliability_le_one := mul_le_one₀ healthy.reliability_le_one (by norm_num) (by norm_num) }

theorem NetworkNode.Healthy.boost {node : NetworkNode} (healthy : node.Healthy) :
    node.boost.Healthy :=
  { healthy with
    attention_ge_half := le_min (by norm_num)
      (le_add_of_le_of_nonneg healthy.attention_ge_half (by norm_num))
    attention_le_one := min_le_left _ _ }

/-- The redistribution loop keeps what a boost keeps. -/
theorem forall_mem_redistributeLoad {P : NetworkNode → Prop} (keeps : ∀ node, P node → P node.boost)
    (activeAgents : List Nat) {nodes : List NetworkNode} (all : ∀ node ∈ nodes, P node) :
    ∀ node ∈ redistributeLoad activeAgents nodes, P node := by
  induction activeAgents generalizing nodes with
  | nil => exact all
  | cons agentId rest ih => exact ih (forall_mem_modifyFirst keeps all)

@[simp] theorem length_redistributeLoad (activeAgents : List Nat) (nodes : List NetworkNode) :
    (redistributeLoad activeAgents nodes).length = nodes.length := by
  simpa using congrArg List.length (@map_agentId_redistributeLoad nodes activeAgents)

/-- What every run keeps: `node_count` counts the list, every node is healthy, and the
efficiency average is not negative, as every delivery's probability is above `rand()`'s. -/
structure EnhancedCognitiveNetwork.Wf (network : EnhancedCognitiveNetwork) : Prop where
  count : network.nodeCount = network.nodes.length
  healthy : ∀ node ∈ network.nodes, node.Healthy
  efficiency_nonneg : 0 ≤ network.communicationEfficiency

namespace EnhancedCognitiveNetwork

variable {network : EnhancedCognitiveNetwork} (rand : Nat → Nat) (pos : Nat)

theorem wf_enhancedNetworkInit : enhancedNetworkInit.Wf :=
  ⟨rfl, by simp [enhancedNetworkInit], le_rfl⟩

theorem Wf.route (wf : network.Wf) (message : EnhancedCognitiveMessage) :
    (enhancedNetworkRouteMessage network message rand pos).1.Wf := by
  obtain same | ⟨target, -, positive, moved⟩ :=
    enhancedNetworkRouteMessage_cases network rand pos message
  · rwa [same]
  · rw [moved]
    exact { wf with
      efficiency_nonneg := add_nonneg (mul_nonneg wf.efficiency_nonneg (by norm_num))
        (mul_nonneg positive.le (by norm_num)) }

theorem Wf.handleFailure (wf : network.Wf) (failedAgentId : Nat) :
    (enhancedNetworkHandleFailure network failedAgentId).1.Wf := by
  obtain same | ⟨activeAgents, failed⟩ := enhancedNetworkHandleFailure_cases network failedAgentId
  · rwa [same]
  · rw [failed]
    exact { wf with
      count := by simp [wf.count, failAgent]
      healthy := forall_mem_redistributeLoad (P := NetworkNode.Healthy) (fun _ => .boost) activeAgents
        (forall_mem_modifyFirst (P := NetworkNode.Healthy) (fun _ => .fail) wf.healthy) }

theorem Wf.step (wf : network.Wf) (op : NetworkOp) : (network.step rand pos op).1.Wf := by
  cases op with
  | addAgent agentId endpoint memoryCapacity reasoningCapability =>
    cases endpoint with
    | none => exact wf
    | some endpoint =>
      show (enhancedNetworkAddAgent network agentId (some endpoint) memoryCapacity
        reasoningCapability).1.Wf
      refine { wf with count := by simp [enhancedNetworkAddAgent, wf.count], healthy := ?_ }
      simpa [enhancedNetworkAddAgent] using And.intro (newNetworkNode_healthy _ _ _) wf.healthy
  | routeMessage message => exact wf.route rand pos message
  | coordinateReasoning reasoningTask coordinatorAgentId =>
    exact enhancedNetworkCoordinateReasoning_induction network rand pos reasoningTask
      coordinatorAgentId (fun _ _ _ wf => wf.route rand _ _) wf
  | handleFailure failedAgentId => exact wf.handleFailure failedAgentId
  | calculateCoherence =>
    show (enhancedNetworkCalculateCoherence network).1.Wf
    obtain same | stored := enhancedNetworkCalculateCoherence_cases network
    · rwa [same]
    · rw [stored]
      exact { wf with }

end EnhancedCognitiveNetwork

/-! ## Runs -/

/-- What every allowed call keeps holds at the end of every run that starts where it holds. -/
theorem NetworkRun.induction {allowed : NetworkOp → Prop} {rand : Nat → Nat}
    {P : EnhancedCognitiveNetwork → Prop}
    (step : ∀ network pos op, allowed op → P network → P (network.step rand pos op).1)
    {start finish : EnhancedCognitiveNetwork × Nat} (run : NetworkRun allowed rand start finish)
    (holds : P start.1) : P finish.1 := by
  induction run with
  | refl => exact holds
  | tail _ next ih =>
    obtain ⟨op, ok, rfl⟩ := next
    exact step _ _ op ok ih

/-- The network and the next `rand()` position after a sequence of calls. -/
def EnhancedCognitiveNetwork.runCalls (rand : Nat → Nat) (start : EnhancedCognitiveNetwork × Nat)
    (ops : List NetworkOp) : EnhancedCognitiveNetwork × Nat :=
  ops.foldl (fun a op => a.1.step rand a.2 op) start

/-- A sequence of allowed calls is a run. -/
theorem networkRun_runCalls {allowed : NetworkOp → Prop} (rand : Nat → Nat) :
    ∀ (start : EnhancedCognitiveNetwork × Nat) (ops : List NetworkOp),
      (∀ op ∈ ops, allowed op) →
        NetworkRun allowed rand start (EnhancedCognitiveNetwork.runCalls rand start ops)
  | _, [], _ => .refl
  | start, op :: ops, ok =>
    .head ⟨op, ok op (List.mem_cons_self _ _), rfl⟩
      (networkRun_runCalls rand (start.1.step rand start.2 op) ops
        fun op mem => ok op (List.mem_cons_of_mem _ mem))

/-- Every `rand()` returning 0, so that every routing to an active agent delivers. -/
def alwaysDeliver : Nat → Nat := fun _ => 0

/-- Three registrations: two agents able to reason, the third not. -/
def testAgentCalls : List NetworkOp :=
  [.addAgent 1 (some (cstr "node1")) 0.8 0.9,
   .addAgent 2 (some (cstr "node2")) 0.5 0.75,
   .addAgent 3 (some (cstr "node3")) 0.25 0.25]

/-- The three agents, newest first. -/
def testAgents : EnhancedCognitiveNetwork :=
  (EnhancedCognitiveNetwork.runCalls alwaysDeliver (enhancedNetworkInit, 0) testAgentCalls).1

/-- A round of reasoning coordinated by agent 1, a coherence calculation, and a fourth agent. -/
def testLaterCalls : List NetworkOp :=
  [.coordinateReasoning (some (cstr "plan")) 1, .calculateCoherence,
   .addAgent 4 (some (cstr "node4")) 0.6 0.8]

/-- The registrations, the failure of agent 2 and the later calls. -/
def testNetworkCalls : List NetworkOp :=
  testAgentCalls ++ .handleFailure 2 :: testLaterCalls

/-- Every run from the initial network keeps `node_count` equal to the length of the list,
every node's reliability in `(0, 1]` and attention in `[0.5, 1]`, and the efficiency average
nonnegative, whatever the calls and whatever `rand()` returns. -/
theorem network_nodes_stay_healthy {allowed : NetworkOp → Prop} {rand : Nat → Nat}
    {pos pos' : Nat} {network : EnhancedCognitiveNetwork}
    (run : NetworkRun allowed rand (enhancedNetworkInit, pos) (network, pos')) : network.Wf :=
  NetworkRun.induction (fun _ pos op _ wf => wf.step rand pos op) run
    EnhancedCognitiveNetwork.wf_enhancedNetworkInit

/-- The test network stays well formed through its calls. -/
theorem testNetwork_healthy :
    (EnhancedCognitiveNetwork.runCalls alwaysDeliver (enhancedNetworkInit, 0)
      testNetworkCalls).1.Wf :=
  network_nodes_stay_healthy
    (@networkRun_runCalls (fun _ => True) _ _ _ fun _ _ => trivial)

/-! ## Unit ranges for an in-range caller -/

/-- A delivery probability is at most 1 for a healthy target and a priority at most 1. -/
theorem deliveryProbability_le_one {target : NetworkNode} (healthy : target.Healthy)
    {priority : ℚ} (le : priority ≤ 1) : target.reliabilityScore * (0.5 + priority * 0.5) ≤ 1 :=
  calc target.reliabilityScore * (0.5 + priority * 0.5)
      ≤ target.reliabilityScore * 1 :=
        mul_le_mul_of_nonneg_left (by linarith only [le]) healthy.reliability_pos.le
    _ ≤ 1 := (mul_one _).trans_le healthy.reliability_le_one

namespace EnhancedCognitiveNetwork

/-- What runs of an in-range caller keep besides: reasoning capabilities, the efficiency
average and the stored coherence in `[0, 1]`. -/
structure InUnit (network : EnhancedCognitiveNetwork) : Prop where
  reasoning : ∀ node ∈ network.nodes, 0 ≤ node.reasoningCapability ∧ node.reasoningCapability ≤ 1
  efficiency_le_one : network.communicationEfficiency ≤ 1
  coherence_nonneg : 0 ≤ network.networkCoherence
  coherence_le_one : network.networkCoherence ≤ 1

variable {network : EnhancedCognitiveNetwork} (rand : Nat → Nat) (pos : Nat)

theorem inUnit_enhancedNetworkInit : enhancedNetworkInit.InUnit :=
  ⟨by simp [enhancedNetworkInit], by norm_num [enhancedNetworkInit], le_rfl,
    by norm_num [enhancedNetworkInit]⟩

/-- The coherence of a network whose nodes and efficiency are in range is in `[0, 1]`: the mean
of three averages that are. -/
theorem InUnit.calculateCoherence_mem_unit (wf : network.Wf) (inUnit : network.InUnit) :
    0 ≤ (enhancedNetworkCalculateCoherence network).2 ∧
      (enhancedNetworkCalculateCoherence network).2 ≤ 1 := by
  unfold enhancedNetworkCalculateCoherence
  split
  · norm_num
  dsimp only
  split
  · norm_num
  rename_i nonempty
  have active : ∀ node ∈ network.nodes.filter (·.isActive), node ∈ network.nodes :=
    fun node mem => (List.mem_filter.1 mem).1
  obtain ⟨reliabilityLow, reliabilityHigh⟩ :=
    @mean_mem_unit ((network.nodes.filter (·.isActive)).map (·.reliabilityScore))
      (mt List.map_eq_nil_iff.1 nonempty) fun x mem => by
        obtain ⟨node, kept, rfl⟩ := List.mem_map.1 mem
        exact ⟨(wf.healthy node (active node kept)).reliability_pos.le,
          (wf.healthy node (active node kept)).reliability_le_one⟩
  obtain ⟨reasoningLow, reasoningHigh⟩ :=
    @mean_mem_unit ((network.nodes.filter (·.isActive)).map (·.reasoningCapability))
      (mt List.map_eq_nil_iff.1 nonempty) fun x mem => by
        obtain ⟨node, kept, rfl⟩ := List.mem_map.1 mem
        exact inUnit.reasoning node (active node kept)
  rw [List.length_map] at reliabilityLow reliabilityHigh reasoningLow reasoningHigh
  constructor
  · exact div_nonneg (add_nonneg (add_nonneg reliabilityLow reasoningLow) wf.efficiency_nonneg)
      (by norm_num)
  · refine div_le_one_of_le₀ ?_ (by norm_num)
    calc _ ≤ (1 : ℚ) + 1 + 1 :=
          add_le_add (add_le_add reliabilityHigh reasoningHigh) inUnit.efficiency_le_one
      _ = 3 := by norm_num

theorem InUnit.route (wf : network.Wf) (inUnit : network.InUnit)
    (message : EnhancedCognitiveMessage)
    (priority : message.attentionWeight * message.salienceScore ≤ 1) :
    (enhancedNetworkRouteMessage network message rand pos).1.InUnit := by
  obtain same | ⟨target, mem, -, moved⟩ :=
    enhancedNetworkRouteMessage_cases network rand pos message
  · rwa [same]
  · rw [moved]
    have delivery := deliveryProbability_le_one (wf.healthy target mem) priority
    refine { inUnit with efficiency_le_one := ?_ }
    calc _ ≤ 1 * 0.9 + 1 * 0.1 :=
          add_le_add (mul_le_mul_of_nonneg_right inUnit.efficiency_le_one (by norm_num))
            (mul_le_mul_of_nonneg_right delivery (by norm_num))
      _ = 1 := by norm_num

theorem InUnit.step (wf : network.Wf) (inUnit : network.InUnit) {op : NetworkOp}
    (inRange : op.InRange) : (network.step rand pos op).1.InUnit := by
  cases op with
  | addAgent agentId endpoint memoryCapacity reasoningCapability =>
    cases endpoint with
    | none => exact inUnit
    | some endpoint =>
      show (enhancedNetworkAddAgent network agentId (some endpoint) memoryCapacity
        reasoningCapability).1.InUnit
      refine { inUnit with reasoning := ?_ }
      simpa [enhancedNetworkAddAgent, newNetworkNode] using And.intro inRange inUnit.reasoning
  | routeMessage message => exact inUnit.route rand pos wf message inRange
  | coordinateReasoning reasoningTask coordinatorAgentId =>
    exact (enhancedNetworkCoordinateReasoning_induction (P := fun network => network.Wf ∧
      network.InUnit) network rand pos reasoningTask coordinatorAgentId
      (fun _ agentId _ both => ⟨both.1.route rand _ _, both.2.route rand _ both.1 _
        (reasoningTaskMessage_priority _ agentId)⟩) ⟨wf, inUnit⟩).2
  | handleFailure failedAgentId =>
    show (enhancedNetworkHandleFailure network failedAgentId).1.InUnit
    obtain same | ⟨activeAgents, failed⟩ :=
      enhancedNetworkHandleFailure_cases network failedAgentId
    · rwa [same]
    · rw [failed]
      exact { inUnit with
        reasoning := forall_mem_redistributeLoad (fun _ inRange => inRange) activeAgents
          (forall_mem_modifyFirst (g := NetworkNode.fail) (fun _ inRange => inRange)
            inUnit.reasoning) }
  | calculateCoherence =>
    show (enhancedNetworkCalculateCoherence network).1.InUnit
    obtain same | stored := enhancedNetworkCalculateCoherence_cases network
    · rwa [same]
    · rw [stored]
      have coherence := inUnit.calculateCoherence_mem_unit wf
      exact { inUnit with coherence_nonneg := coherence.1, coherence_le_one := coherence.2 }

end EnhancedCognitiveNetwork

/-- Along every run from the initial network whose calls register reasoning capabilities in
`[0, 1]` and route only messages with `attention_weight * salience_score ≤ 1`, the
communication efficiency, the stored network coherence and the value
`enhanced_network_calculate_coherence` returns all stay in `[0, 1]`. -/
theorem in_range_metrics_stay_in_unit {rand : Nat → Nat} {pos pos' : Nat}
    {network : EnhancedCognitiveNetwork}
    (run : NetworkRun NetworkOp.InRange rand (enhancedNetworkInit, pos) (network, pos')) :
    0 ≤ network.communicationEfficiency ∧ network.communicationEfficiency ≤ 1 ∧
      0 ≤ network.networkCoherence ∧ network.networkCoherence ≤ 1 ∧
      0 ≤ (enhancedNetworkCalculateCoherence network).2 ∧
      (enhancedNetworkCalculateCoherence network).2 ≤ 1 := by
  obtain ⟨wf, inUnit⟩ := NetworkRun.induction (P := fun network => network.Wf ∧ network.InUnit)
    (fun _ pos _ inRange both => ⟨both.1.step rand pos _, both.2.step rand pos both.1 inRange⟩)
    run ⟨EnhancedCognitiveNetwork.wf_enhancedNetworkInit,
      EnhancedCognitiveNetwork.inUnit_enhancedNetworkInit⟩
  exact ⟨wf.efficiency_nonneg, inUnit.efficiency_le_one, inUnit.coherence_nonneg,
    inUnit.coherence_le_one, inUnit.calculateCoherence_mem_unit wf⟩

/-- The test network's metrics are in the unit interval after its calls. -/
theorem testNetwork_metrics_in_unit :
    let network := (EnhancedCognitiveNetwork.runCalls alwaysDeliver (enhancedNetworkInit, 0)
      testNetworkCalls).1
    0 ≤ network.communicationEfficiency ∧ network.communicationEfficiency ≤ 1 ∧
      0 ≤ network.networkCoherence ∧ network.networkCoherence ≤ 1 ∧
      0 ≤ (enhancedNetworkCalculateCoherence network).2 ∧
      (enhancedNetworkCalculateCoherence network).2 ≤ 1 :=
  in_range_metrics_stay_in_unit (networkRun_runCalls _ _ _ fun op mem => by
    simp only [testNetworkCalls, testAgentCalls, testLaterCalls, List.cons_append,
      List.nil_append, List.mem_cons, List.not_mem_nil, or_false] at mem
    rcases mem with rfl | rfl | rfl | rfl | rfl | rfl | rfl <;> norm_num [NetworkOp.InRange])

/-! ## A failed agent stays unreachable -/

section Silence

variable {f : NetworkNode → NetworkNode} {nodes : List NetworkNode} {agentId : Nat}

/-- A write that keeps ids and never reactivates a node keeps an id's first node inactive. -/
theorem inactive_find?_modifyFirst (keeps : ∀ node, (f node).agentId = node.agentId)
    (stays : ∀ node, node.isActive = false → (f node).isActive = false) (written : Nat)
    (inactive : ∀ node ∈ nodes.find? (·.agentId == agentId), node.isActive = false) :
    ∀ node ∈ (modifyFirst (·.agentId == written) f nodes).find? (·.agentId == agentId),
      node.isActive = false := by
  rw [find?_modifyFirst keeps]
  split
  · intro node mem
    obtain ⟨old, found, rfl⟩ := Option.mem_map.1 mem
    exact stays old (inactive old found)
  · exact inactive

/-- After the failing search, the failed id's first node is inactive. -/
theorem inactive_find?_failAgent :
    ∀ node ∈ (failAgent agentId nodes).find? (·.agentId == agentId), node.isActive = false := by
  rw [failAgent, find?_modifyFirst (f := NetworkNode.fail) (fun _ => rfl), if_pos rfl]
  intro node mem
  obtain ⟨old, -, rfl⟩ := Option.mem_map.1 mem
  rfl

/-- The redistribution loop reactivates nothing. -/
theorem inactive_find?_redistributeLoad (activeAgents : List Nat)
    (inactive : ∀ node ∈ nodes.find? (·.agentId == agentId), node.isActive = false) :
    ∀ node ∈ (redistributeLoad activeAgents nodes).find? (·.agentId == agentId),
      node.isActive = false := by
  induction activeAgents generalizing nodes with
  | nil => exact inactive
  | cons written rest ih =>
    exact ih (inactive_find?_modifyFirst (f := NetworkNode.boost) (fun _ => rfl) (fun _ => id)
      written inactive)

end Silence

namespace EnhancedCognitiveNetwork

/-- The first node with the id, if any, is inactive: routing refuses every message to it. -/
def Silenced (agentId : Nat) (network : EnhancedCognitiveNetwork) : Prop :=
  ∀ node ∈ network.findAgent agentId, node.isActive = false

variable {network : EnhancedCognitiveNetwork} {agentId : Nat} (rand : Nat → Nat) (pos : Nat)

/-- Handling the failure of an id silences it, whether or not a node had it. -/
theorem silenced_handleFailure :
    (enhancedNetworkHandleFailure network agentId).1.Silenced agentId := by
  by_cases present : network.nodes.any (·.agentId == agentId)
  · rw [enhancedNetworkHandleFailure_of_present present]
    exact inactive_find?_redistributeLoad _ inactive_find?_failAgent
  · have absent : network.findAgent agentId = none := by
      simpa [findAgent, List.find?_eq_none] using present
    simp [enhancedNetworkHandleFailure, present, Silenced, absent]

theorem Silenced.route (silenced : network.Silenced agentId) (message : EnhancedCognitiveMessage) :
    (enhancedNetworkRouteMessage network message rand pos).1.Silenced agentId := by
  obtain same | ⟨_, _, _, moved⟩ := enhancedNetworkRouteMessage_cases network rand pos message
  · rwa [same]
  · rw [moved]
    exact silenced

/-- Every call but the registration of an agent under the id keeps the id silenced. -/
theorem Silenced.step (silenced : network.Silenced agentId) {op : NetworkOp}
    (other : op.addsAgent agentId = false) : (network.step rand pos op).1.Silenced agentId := by
  cases op with
  | addAgent added endpoint memoryCapacity reasoningCapability =>
    cases endpoint with
    | none => exact silenced
    | some endpoint =>
      show (enhancedNetworkAddAgent network added (some endpoint) memoryCapacity
        reasoningCapability).1.Silenced agentId
      simp only [NetworkOp.addsAgent, beq_eq_false_iff_ne] at other
      simpa [Silenced, findAgent, enhancedNetworkAddAgent, newNetworkNode, other] using silenced
  | routeMessage message => exact silenced.route rand pos message
  | coordinateReasoning reasoningTask coordinatorAgentId =>
    exact enhancedNetworkCoordinateReasoning_induction network rand pos reasoningTask
      coordinatorAgentId (fun _ _ _ silenced => silenced.route rand _ _) silenced
  | handleFailure failedAgentId =>
    show (enhancedNetworkHandleFailure network failedAgentId).1.Silenced agentId
    obtain same | ⟨activeAgents, failed⟩ :=
      enhancedNetworkHandleFailure_cases network failedAgentId
    · rwa [same]
    · rw [failed]
      exact inactive_find?_redistributeLoad activeAgents
        (inactive_find?_modifyFirst (f := NetworkNode.fail) (fun _ => rfl) (fun _ _ => rfl)
          failedAgentId silenced)
  | calculateCoherence =>
    show (enhancedNetworkCalculateCoherence network).1.Silenced agentId
    obtain same | stored := enhancedNetworkCalculateCoherence_cases network
    · rwa [same]
    · rw [stored]
      exact silenced

end EnhancedCognitiveNetwork

/-- Once `enhanced_network_handle_failure` has run for an id, every later call to
`enhanced_network_route_message` for a message addressed to it is refused, changing nothing
and drawing nothing, for as long as no agent is registered again under that id: whatever other
agents are added, failed or coordinated, and whatever `rand()` returns. -/
theorem failed_agent_receives_nothing {rand : Nat → Nat} {network network' : EnhancedCognitiveNetwork}
    {failedAgentId pos pos' : Nat}
    (run : NetworkRun (fun op => op.addsAgent failedAgentId = false) rand
      ((enhancedNetworkHandleFailure network failedAgentId).1, pos) (network', pos'))
    (message : EnhancedCognitiveMessage) (addressed : message.targetAgentId = failedAgentId)
    (draw : Nat) :
    enhancedNetworkRouteMessage network' message rand draw = (network', message, false, draw) := by
  have silenced : network'.Silenced failedAgentId :=
    NetworkRun.induction (fun _ pos _ other silenced => silenced.step rand pos other) run
      EnhancedCognitiveNetwork.silenced_handleFailure
  exact enhancedNetworkRouteMessage_of_inactive network' rand draw message (addressed ▸ silenced)

/-- After agent 2 fails, a message to it is not delivered. -/
theorem testAgents_failed_receives_nothing :
    enhancedNetworkRouteMessage
        (EnhancedCognitiveNetwork.runCalls alwaysDeliver
          ((enhancedNetworkHandleFailure testAgents 2).1, 0) testLaterCalls).1
        (reasoningTaskMessage 1 2) alwaysDeliver 0 =
      ((EnhancedCognitiveNetwork.runCalls alwaysDeliver
          ((enhancedNetworkHandleFailure testAgents 2).1, 0) testLaterCalls).1,
        reasoningTaskMessage 1 2, false, 0) :=
  failed_agent_receives_nothing (networkRun_runCalls _ _ _ (by decide)) _ rfl 0

/-! ## Load redistribution with distinct ids -/

/-- With distinct agent ids, handling the failure of a present id fails exactly that node and
boosts exactly the other active nodes with memory and reasoning at least 0.2, each once; the
call answers whether there is such a node. -/
theorem handle_failure_redistributes {network : EnhancedCognitiveNetwork} {failedAgentId : Nat}
    (distinct : (network.nodes.map (·.agentId)).Nodup)
    (present : network.nodes.any (·.agentId == failedAgentId)) :
    enhancedNetworkHandleFailure network failedAgentId =
      ({ network with
          nodes := network.nodes.map fun node =>
            if node.agentId = failedAgentId then node.fail
            else if node.capable 0.2 0.2 then node.boost else node },
        network.nodes.any fun node => node.agentId != failedAgentId && node.capable 0.2 0.2) := by
  have failed : failAgent failedAgentId network.nodes = network.nodes.map fun node =>
      if node.agentId = failedAgentId then node.fail else node :=
    modifyFirst_eq_map distinct failedAgentId
  have distinct' : ((failAgent failedAgentId network.nodes).map (·.agentId)).Nodup := by
    rw [failed, List.map_map]
    convert distinct using 2
    funext node
    by_cases h : node.agentId = failedAgentId <;> simp [h]
  have once := distinct'.sublist
    (((List.filter_sublist (p := NetworkNode.capable 0.2 0.2) _).map (·.agentId)))
  have chosen : ∀ node ∈ failAgent failedAgentId network.nodes,
      node.agentId ∈ ((failAgent failedAgentId network.nodes).filter
        (NetworkNode.capable 0.2 0.2)).map (·.agentId) ↔ node.capable 0.2 0.2 := fun node mem =>
    ⟨fun listed => by
      obtain ⟨other, kept, same⟩ := List.mem_map.1 listed
      rw [List.mem_filter] at kept
      rw [← List.inj_on_of_nodup_map distinct' kept.1 mem same]
      exact kept.2,
    fun capable => List.mem_map_of_mem _ (List.mem_filter.2 ⟨mem, capable⟩)⟩
  rw [enhancedNetworkHandleFailure_of_present present, discover_agents_filter,
    redistributeLoad_eq_map distinct' once]
  simp only [Prod.mk.injEq]
  constructor
  · congr 1
    rw [List.map_congr_left fun node mem => by rw [if_congr (chosen node mem) rfl rfl], failed,
      List.map_map]
    refine List.map_congr_left fun node _ => ?_
    by_cases h : node.agentId = failedAgentId <;> simp [h]
  · rw [failed, Bool.eq_iff_iff]
    simp only [Bool.not_eq_true', List.isEmpty_eq_false, List.any_eq_true, ne_eq,
      List.map_eq_nil_iff, List.filter_eq_nil_iff, List.mem_map, not_forall]
    constructor
    · rintro ⟨_, ⟨node, mem, rfl⟩, capable⟩
      by_cases h : node.agentId = failedAgentId
      · simp [h] at capable
      · exact ⟨node, mem, by simpa [h] using capable⟩
    · rintro ⟨node, mem, both⟩
      simp only [Bool.and_eq_true, bne_iff_ne] at both
      exact ⟨node, ⟨node, mem, if_neg both.1⟩, by simp [both.2]⟩

/-- The failure of agent 2 marks it failed and boosts every other capable agent. -/
theorem testAgents_failure_redistributes :
    (testAgents.nodes.map (·.agentId)).Nodup ∧ testAgents.nodes.any (·.agentId == 2) ∧
      enhancedNetworkHandleFailure testAgents 2 =
        ({ testAgents with
            nodes := testAgents.nodes.map fun node =>
              if node.agentId = 2 then node.fail
              else if node.capable 0.2 0.2 then node.boost else node },
          testAgents.nodes.any fun node => node.agentId != 2 && node.capable 0.2 0.2) :=
  ⟨by decide, by decide, handle_failure_redistributes (by decide) (by decide)⟩

end Coggml

import Coggml.Consensus
import Coggml.AtomSpace.Ops
/-!
# The phase-3 self-modification system

`phase3_self_modification_system_t` holds four tables (rules, behaviour patterns, consensus
protocols and coherence metrics), two `uint32_t` modification counters, and the AtomSpace, MOSES
system and architecture it was initialised with; this module translates every public function of
`ggml-phase3-self-modification.c` that reads or changes that state. `rand()` and `time(NULL)`
are streams read at positions (`Environment`), so a statement over every environment is one
over every sequence of results. Fields no modelled function reads, and the printed messages, are
left out.
-/

namespace Coggml

/-! ## Limits, types and records -/

/-- `PHASE3_MAX_EVOLUTION_RULES`. -/
def phase3MaxEvolutionRules : Nat := 256
/-- `PHASE3_MAX_BEHAVIORAL_PATTERNS`. -/
def phase3MaxBehavioralPatterns : Nat := 128
/-- `PHASE3_MAX_COHERENCE_METRICS`. -/
def phase3MaxCoherenceMetrics : Nat := 32
/-- `sizeof(rule->description)`, also the buffer the generated descriptions are printed into. -/
def ruleDescriptionSize : Nat := 128
/-- `sizeof(pattern->pattern_name)` and `sizeof(metric->metric_name)`. -/
def phase3NameSize : Nat := 64
/-- `metric->history_capacity`. -/
def metricHistoryCapacity : Nat := 100

/-- `self_modification_type_t`. -/
inductive SelfModificationType
  | ruleCreation
  | ruleDeletion
  | ruleMutation
  | archExpansion
  | archPruning
  | behaviorAdaptation
  deriving DecidableEq, Repr

/-- `meta_evolution_rule_t`, the fields the modelled functions read. -/
structure MetaEvolutionRule where
  /-- Slot number plus one. -/
  ruleId : Nat
  /-- `description[128]`. -/
  description : CString
  /-- What executing the rule does. -/
  modType : SelfModificationType
  /-- How well the rule performs. -/
  effectivenessScore : ℚ
  /-- How novel the rule is. -/
  noveltyScore : ℚ
  /-- How stable the rule is. -/
  stabilityScore : ℚ
  /-- The effectiveness at which recursive self-improvement runs the rule. -/
  activationThreshold : ℚ
  /-- Whether the rule may still be executed. -/
  isActive : Bool
  deriving DecidableEq

/-- `emergent_behavior_pattern_t`, the fields the modelled functions read. -/
structure EmergentBehaviorPattern where
  /-- Slot number plus one. -/
  patternId : Nat
  /-- `pattern_name[64]`. -/
  patternName : CString
  /-- Participating agents over ten. -/
  emergenceStrength : ℚ
  /-- How coherent the pattern is. -/
  coherenceLevel : ℚ
  /-- How long the pattern persists. -/
  stabilityDuration : ℚ
  /-- Evolution generation. -/
  generation : Nat
  /-- Overall fitness. -/
  fitnessScore : ℚ
  /-- `time(NULL)` at detection. -/
  firstObserved : UInt64
  /-- Fitness above 0.6. -/
  isBeneficial : Bool
  deriving DecidableEq

/-- `coherence_metric_t`. -/
structure CoherenceMetric where
  /-- `metric_name[64]`. -/
  metricName : CString
  /-- Measured value. -/
  currentValue : ℚ
  /-- Value aimed at. -/
  targetValue : ℚ
  /-- Allowed deviation. -/
  tolerance : ℚ
  /-- Whether the last update was within tolerance. -/
  isWithinBounds : Bool
  /-- `history_buffer[0 .. history_size - 1]`. -/
  historyBuffer : List ℚ
  /-- Allocated history slots. -/
  historyCapacity : Nat
  /-- Id of the rule created to correct the metric, 0 for none. -/
  correctionRuleId : Nat
  /-- Fraction of the deviation a correction removes. -/
  correctionStrength : ℚ
  deriving DecidableEq

/-- `phase3_self_modification_system_t`. The MOSES system and the distributed architecture are
read only for being non-`NULL`. -/
structure Phase3SelfModificationSystem where
  /-- Rules `0 .. rule_count - 1`. -/
  evolutionRules : List MetaEvolutionRule
  /-- Fixed at initialisation. -/
  ruleCapacity : Nat
  /-- Patterns `0 .. pattern_count - 1`. -/
  behaviorPatterns : List EmergentBehaviorPattern
  /-- Fixed at initialisation. -/
  patternCapacity : Nat
  /-- The consensus table. -/
  consensus : Phase3System
  /-- Metrics `0 .. metric_count - 1`. -/
  coherenceMetrics : List CoherenceMetric
  /-- Fixed at initialisation. -/
  metricCapacity : Nat
  /-- `moses_system != NULL`. -/
  mosesSystem : Bool
  /-- The AtomSpace, `none` for `NULL`. -/
  atomspace : Option AtomSpace
  /-- `distributed_arch != NULL`. -/
  distributedArch : Bool
  /-- Executions of active rules, a `uint32_t` that wraps. -/
  totalModifications : UInt32
  /-- Executions that succeeded, a `uint32_t` that wraps. -/
  successfulModifications : UInt32
  /-- Performance change of the last recursive self-improvement. -/
  systemImprovementRate : ℚ

/-- The results of `rand()` and the readings of `time(NULL)`, each a stream with the number of
calls made so far. -/
structure Environment where
  /-- `rand()` results in call order. -/
  rand : Nat → Nat
  /-- `time(NULL)` readings in call order. -/
  clock : Nat → UInt64
  /-- Calls of `rand()` so far. -/
  randPos : Nat
  /-- Calls of `time(NULL)` so far. -/
  clockPos : Nat

namespace Environment

/-- What the next `time(NULL)` returns. -/
def now (env : Environment) : UInt64 := env.clock env.clockPos

/-- After one `time(NULL)`. -/
def tick (env : Environment) : Environment := { env with clockPos := env.clockPos + 1 }

/-- After `n` calls of `rand()`. -/
def draw (n : Nat) (env : Environment) : Environment := { env with randPos := env.randPos + n }

end Environment

/-- `phase3_init`, given the three pointers it stores; `phase3Init` is its consensus table. -/
def phase3InitSystem (mosesSystem : Bool) (atomspace : Option AtomSpace)
    (distributedArch : Bool) : Phase3SelfModificationSystem where
  evolutionRules := []
  ruleCapacity := phase3MaxEvolutionRules
  behaviorPatterns := []
  patternCapacity := phase3MaxBehavioralPatterns
  consensus := phase3Init
  coherenceMetrics := []
  metricCapacity := phase3MaxCoherenceMetrics
  mosesSystem := mosesSystem
  atomspace := atomspace
  distributedArch := distributedArch
  totalModifications := 0
  successfulModifications := 0
  systemImprovementRate := 0

/-- `calculate_fitness_score`. -/
def calculateFitnessScore (effectiveness novelty stability : ℚ) : ℚ :=
  0.5 * effectiveness + 0.3 * novelty + 0.2 * stability

/-! ## Meta-evolution rules -/

/-- The record `phase3_create_evolution_rule` writes into the next slot. -/
def newEvolutionRule (ruleId : Nat) (description : CString) (modType : SelfModificationType)
    (activationThreshold : ℚ) : MetaEvolutionRule where
  ruleId := ruleId
  description := copyName ruleDescriptionSize description
  modType := modType
  effectivenessScore := 0.5
  noveltyScore := 1
  stabilityScore := 0
  activationThreshold := activationThreshold
  isActive := true

/-- `phase3_create_evolution_rule` — refused on a full table; a new rule reads the clock for its
creation time. -/
def phase3CreateEvolutionRule (system : Phase3SelfModificationSystem) (env : Environment)
    (description : CString) (modType : SelfModificationType) (activationThreshold : ℚ) :
    Phase3SelfModificationSystem × Environment × Bool :=
  if system.ruleCapacity ≤ system.evolutionRules.length then (system, env, false)
  else
    let rule := newEvolutionRule (system.evolutionRules.length + 1) description modType
      activationThreshold
    ({ system with evolutionRules := system.evolutionRules ++ [rule] }, env.tick, true)

/-! ## Behaviour patterns -/

/-- One round of `phase3_analyze_behavioral_patterns` on a pattern, with the clock reading
`now`: a pattern older than 300 seconds grows more stable and coherent, its fitness is
recomputed, and a beneficial pattern below generation 10 is promoted. -/
def EmergentBehaviorPattern.analyze (now : UInt64) (pattern : EmergentBehaviorPattern) :
    EmergentBehaviorPattern :=
  let aged := decide (300 < now - pattern.firstObserved)
  let stabilityDuration :=
    if aged then pattern.stabilityDuration * 1.1 else pattern.stabilityDuration
  let coherenceLevel :=
    if aged then min 1 (pattern.coherenceLevel + 0.05) else pattern.coherenceLevel
  let fitnessScore := calculateFitnessScore pattern.emergenceStrength coherenceLevel
    (min 1 (stabilityDuration / 10000))
  let isBeneficial := decide (0.6 < fitnessScore)
  { pattern with
    stabilityDuration, coherenceLevel, fitnessScore, isBeneficial
    generation :=
      if isBeneficial ∧ pattern.generation < 10 then pattern.generation + 1
      else pattern.generation }

/-- The loop of `phase3_analyze_behavioral_patterns`: pattern `k` reads clock position
`pos + k`. -/
def analyzePatterns (clock : Nat → UInt64) : Nat → List EmergentBehaviorPattern →
    List EmergentBehaviorPattern
  | _, [] => []
  | pos, pattern :: rest => pattern.analyze (clock pos) :: analyzePatterns clock (pos + 1) rest

/-- `phase3_analyze_behavioral_patterns`. -/
def phase3AnalyzeBehavioralPatterns (system : Phase3SelfModificationSystem) (env : Environment) :
    Phase3SelfModificationSystem × Environment :=
  ({ system with behaviorPatterns := analyzePatterns env.clock env.clockPos system.behaviorPatterns },
    { env with clockPos := env.clockPos + system.behaviorPatterns.length })

/-- The record `phase3_detect_emergent_behavior` writes for `agentCount` agents, from the two
`rand()` results `r1` and `r2` and the clock reading `now`. -/
def newBehaviorPattern (patternId agentCount r1 r2 : Nat) (now : UInt64) :
    EmergentBehaviorPattern :=
  let emergenceStrength : ℚ := agentCount / 10
  let coherenceLevel : ℚ := 0.7 + ((r1 % 30 : Nat) : ℚ) / 100
  let stabilityDuration : ℚ := 1000 + ((r2 % 5000 : Nat) : ℚ)
  let fitnessScore := calculateFitnessScore emergenceStrength coherenceLevel
    (stabilityDuration / 10000)
  { patternId
    patternName := copyName phase3NameSize (cstr "EmergentPattern_" ++ decimalBytes patternId)
    emergenceStrength, coherenceLevel, stabilityDuration
    generation := 1
    fitnessScore
    firstObserved := now
    isBeneficial := decide (0.6 < fitnessScore) }

/-- `phase3_detect_emergent_behavior` — refused for a `NULL` or empty agent list and a full
table. -/
def phase3DetectEmergentBehavior (system : Phase3SelfModificationSystem) (env : Environment)
    (agentIds : Option (List Nat)) : Phase3SelfModificationSystem × Environment × Bool :=
  match agentIds with
  | none => (system, env, false)
  | some agentIds =>
    if agentIds = [] then (system, env, false)
    else if system.patternCapacity ≤ system.behaviorPatterns.length then (system, env, false)
    else
      let pattern := newBehaviorPattern (system.behaviorPatterns.length + 1) agentIds.length
        (env.rand env.randPos) (env.rand (env.randPos + 1)) env.now
      ({ system with behaviorPatterns := system.behaviorPatterns ++ [pattern] },
        (env.draw 2).tick, true)

/-! ## Executing rules -/

/-- The switch of `phase3_execute_self_modification`: the system and environment after the
modification, and whether it succeeded. Rule creation adds the concept `SelfGeneratedRule` to
the AtomSpace and succeeds on a nonzero id; deletion and pruning always fail. -/
def runSelfModification (system : Phase3SelfModificationSystem) (env : Environment) :
    SelfModificationType → Phase3SelfModificationSystem × Environment × Bool
  | .ruleCreation =>
    match system.atomspace with
    | none => (system, env, false)
    | some atomspace =>
      let added := opencogAddNode atomspace .conceptNode (some (cstr "SelfGeneratedRule"))
      ({ system with atomspace := some added.1 }, env, decide (added.2 ≠ 0))
  | .ruleMutation => (system, env, system.mosesSystem)
  | .archExpansion => (system, env, system.distributedArch)
  | .behaviorAdaptation =>
    let analyzed := phase3AnalyzeBehavioralPatterns system env
    (analyzed.1, analyzed.2, true)
  | .ruleDeletion | .archPruning => (system, env, false)

/-- The score update after an execution: 0.1 more effectiveness, at most 1, on success; 0.1
less, at least 0, on failure, deactivating the rule below 0.2. -/
def MetaEvolutionRule.recordOutcome (success : Bool) (rule : MetaEvolutionRule) :
    MetaEvolutionRule :=
  if success then { rule with effectivenessScore := min 1 (rule.effectivenessScore + 0.1) }
  else
    let effectivenessScore := max 0 (rule.effectivenessScore - 0.1)
    { rule with
      effectivenessScore
      isActive := if effectivenessScore < 0.2 then false else rule.isActive }

/-- `phase3_execute_self_modification` — refused for id 0, an id past the table, or an inactive
rule; otherwise counted, run, timestamped and scored. -/
def phase3ExecuteSelfModification (system : Phase3SelfModificationSystem) (env : Environment)
    (ruleId : Nat) : Phase3SelfModificationSystem × Environment × Bool :=
  if ruleId = 0 ∨ system.evolutionRules.length < ruleId then (system, env, false)
  else match system.evolutionRules[ruleId - 1]? with
    | none => (system, env, false)
    | some rule =>
      if !rule.isActive then (system, env, false)
      else
        let counted := { system with totalModifications := system.totalModifications + 1 }
        let done := runSelfModification counted env rule.modType
        let success := done.2.2
        ({ done.1 with
            evolutionRules :=
              done.1.evolutionRules.modify (MetaEvolutionRule.recordOutcome success) (ruleId - 1)
            successfulModifications :=
              if success then done.1.successfulModifications + 1
              else done.1.successfulModifications },
          done.2.1.tick, success)

/-- The performance terms `phase3_measure_system_performance` averages: the success rate once a
modification was made, the mean effectiveness of the active rules if there are any, and the
fraction of metrics within bounds if there are any. -/
def performanceComponents (system : Phase3SelfModificationSystem) : List ℚ :=
  let active := system.evolutionRules.filter (·.isActive)
  (if system.totalModifications = 0 then []
    else [(system.successfulModifications.toNat : ℚ) / system.totalModifications.toNat]) ++
  (if active = [] then []
    else [(active.map (·.effectivenessScore)).sum / active.length]) ++
  (if system.coherenceMetrics = [] then []
    else [((system.coherenceMetrics.filter (·.isWithinBounds)).length : ℚ) /
      system.coherenceMetrics.length])

/-- `phase3_measure_system_performance` — the mean of its terms, 0.5 with none. -/
def phase3MeasureSystemPerformance (system : Phase3SelfModificationSystem) : ℚ :=
  let components := performanceComponents system
  if components = [] then 0.5 else components.sum / components.length

/-- The per-rule update of `phase3_evolve_rules` for an active rule: stability up 0.05 (at most 1)
when performance exceeds 0.7 and down 0.05 (at least 0) otherwise; novelty decays by 5%, not
below 0.1. -/
def MetaEvolutionRule.evolve (performance : ℚ) (rule : MetaEvolutionRule) : MetaEvolutionRule :=
  if rule.isActive then
    { rule with
      stabilityScore :=
        if 0.7 < performance then min 1 (rule.stabilityScore + 0.05)
        else max 0 (rule.stabilityScore - 0.05)
      noveltyScore := max 0.1 (rule.noveltyScore * 0.95) }
  else rule

/-- `snprintf(new_rule_desc, 128, "PerformanceImprover_%zu", rule_count)`. -/
def improverDescription (ruleCount : Nat) : CString :=
  copyName ruleDescriptionSize (cstr "PerformanceImprover_" ++ decimalBytes ruleCount)

/-- `phase3_evolve_rules` — every active rule evolves with the measured performance, and a
performance below 0.5 adds a behaviour-adaptation rule while fewer than `rule_capacity - 1`
rules exist. -/
def phase3EvolveRules (system : Phase3SelfModificationSystem) (env : Environment) :
    Phase3SelfModificationSystem × Environment :=
  let performance := phase3MeasureSystemPerformance system
  let evolved :=
    { system with evolutionRules := system.evolutionRules.map (MetaEvolutionRule.evolve performance) }
  if performance < 0.5 ∧ evolved.evolutionRules.length < evolved.ruleCapacity - 1 then
    let created := phase3CreateEvolutionRule evolved env
      (improverDescription evolved.evolutionRules.length) .behaviorAdaptation 0.3
    (created.1, created.2.1)
  else (evolved, env)

/-- The loop of `phase3_recursive_self_improvement` over the given rule slots: an active rule
whose effectiveness reaches its activation threshold is executed under its own id, and the flag
records whether any execution succeeded. -/
def improveRules : List Nat → Phase3SelfModificationSystem → Environment → Bool →
    Phase3SelfModificationSystem × Environment × Bool
  | [], system, env, improved => (system, env, improved)
  | i :: rest, system, env, improved =>
    match system.evolutionRules[i]? with
    | some rule =>
      if rule.isActive ∧ rule.activationThreshold ≤ rule.effectivenessScore then
        let executed := phase3ExecuteSelfModification system env rule.ruleId
        improveRules rest executed.1 executed.2.1 (improved || executed.2.2)
      else improveRules rest system env improved
    | none => improveRules rest system env improved

/-- `phase3_recursive_self_improvement` — run the eligible rules over every slot (execution
never changes the rule count), evolve the rules, record the performance change, and answer
whether some execution succeeded and performance rose. -/
def phase3RecursiveSelfImprovement (system : Phase3SelfModificationSystem) (env : Environment) :
    Phase3SelfModificationSystem × Environment × Bool :=
  let initial := phase3MeasureSystemPerformance system
  let improved := improveRules (List.range system.evolutionRules.length) system env false
  let evolved := phase3EvolveRules improved.1 improved.2.1
  let rate := phase3MeasureSystemPerformance evolved.1 - initial
  ({ evolved.1 with systemImprovementRate := rate }, evolved.2, improved.2.2 && decide (0 < rate))

/-! ## Coherence metrics -/

/-- `phase3_add_coherence_metric` — refused for a `NULL` name or a full table; the metric starts
at its target with an empty history. -/
def phase3AddCoherenceMetric (system : Phase3SelfModificationSystem) (metricName : Option CString)
    (targetValue tolerance : ℚ) : Phase3SelfModificationSystem × Bool :=
  match metricName with
  | none => (system, false)
  | some metricName =>
    if system.metricCapacity ≤ system.coherenceMetrics.length then (system, false)
    else
      let metric : CoherenceMetric :=
        { metricName := copyName phase3NameSize metricName, currentValue := targetValue,
          targetValue, tolerance, isWithinBounds := true, historyBuffer := [],
          historyCapacity := metricHistoryCapacity, correctionRuleId := 0,
          correctionStrength := 0.1 }
      ({ system with coherenceMetrics := system.coherenceMetrics ++ [metric] }, true)

/-- The history after recording a value: appended while there is room, otherwise shifted down
one slot (`memmove`) with the value in the last slot. -/
def recordHistory (capacity : Nat) (history : List ℚ) (value : ℚ) : List ℚ :=
  if history.length < capacity then history ++ [value] else history.tail ++ [value]

/-- `((rand() % 200) - 100) / 1000.0f`. -/
def metricNoise (r : Nat) : ℚ := (((r % 200 : Nat) : Int) - 100 : Int) / 1000

/-- One metric's update in `phase3_update_coherence_metrics`: add the noise, record the value,
and recheck the tolerance. -/
def CoherenceMetric.update (noise : ℚ) (metric : CoherenceMetric) : CoherenceMetric :=
  let currentValue := metric.currentValue + noise
  { metric with
    currentValue
    historyBuffer := recordHistory metric.historyCapacity metric.historyBuffer currentValue
    isWithinBounds := decide (|currentValue - metric.targetValue| ≤ metric.tolerance) }

/-- The loop of `phase3_update_coherence_metrics`: metric `k` reads `rand()` position `pos + k`. -/
def updateMetrics (rand : Nat → Nat) : Nat → List CoherenceMetric → List CoherenceMetric
  | _, [] => []
  | pos, metric :: rest =>
    metric.update (metricNoise (rand pos)) :: updateMetrics rand (pos + 1) rest

/-- `phase3_update_coherence_metrics`. -/
def phase3UpdateCoherenceMetrics (system : Phase3SelfModificationSystem) (env : Environment) :
    Phase3SelfModificationSystem × Environment :=
  ({ system with coherenceMetrics := updateMetrics env.rand env.randPos system.coherenceMetrics },
    env.draw system.coherenceMetrics.length)

/-- The corrective step: move the value `correction_strength` of the way back to the target. -/
def CoherenceMetric.correct (metric : CoherenceMetric) : CoherenceMetric :=
  { metric with
    currentValue :=
      metric.currentValue + (metric.targetValue - metric.currentValue) * metric.correctionStrength }

/-- `snprintf(rule_desc, 128, "CoherenceCorrector_%s", metric->metric_name)`. -/
def correctorDescription (metricName : CString) : CString :=
  copyName ruleDescriptionSize (cstr "CoherenceCorrector_" ++ metricName)

/-- Write a correction rule id into metric slot `i`. -/
def Phase3SelfModificationSystem.linkCorrection (system : Phase3SelfModificationSystem) (i : Nat)
    (ruleId : Nat) : Phase3SelfModificationSystem :=
  { system with
    coherenceMetrics :=
      system.coherenceMetrics.modify (fun m => { m with correctionRuleId := ruleId }) i }

/-- The body of the loop of `phase3_maintain_global_coherence` for metric slot `i`: an
out-of-bounds metric is corrected, clears the flag, and the first time, while fewer than
`rule_capacity - 1` rules exist, gets a behaviour-adaptation rule of its own. -/
def maintainMetric (acc : Phase3SelfModificationSystem × Environment × Bool) (i : Nat) :
    Phase3SelfModificationSystem × Environment × Bool :=
  match acc.1.coherenceMetrics[i]? with
  | none => acc
  | some metric =>
    if metric.isWithinBounds then acc
    else
      let corrected :=
        { acc.1 with coherenceMetrics := acc.1.coherenceMetrics.set i metric.correct }
      if metric.correctionRuleId = 0 ∧
          corrected.evolutionRules.length < corrected.ruleCapacity - 1 then
        let created := phase3CreateEvolutionRule corrected acc.2.1
          (correctorDescription metric.metricName) .behaviorAdaptation 0.5
        let linked := if created.2.2
          then created.1.linkCorrection i created.1.evolutionRules.length else created.1
        (linked, created.2.1, false)
      else (corrected, acc.2.1, false)

/-- `phase3_maintain_global_coherence` — update the metrics, then correct every metric out of
bounds; true when none was. -/
def phase3MaintainGlobalCoherence (system : Phase3SelfModificationSystem) (env : Environment) :
    Phase3SelfModificationSystem × Environment × Bool :=
  let updated := phase3UpdateCoherenceMetrics system env
  (List.range updated.1.coherenceMetrics.length).foldl maintainMetric (updated.1, updated.2, true)

/-! ## Coordination and the whole update -/

/-- The AtomSpace part of `phase3_coordinate_with_phase2`: every beneficial pattern's name
becomes a concept node, in pattern order. The MOSES part only prints. -/
def phase3CoordinateWithPhase2 (system : Phase3SelfModificationSystem) :
    Phase3SelfModificationSystem :=
  match system.atomspace with
  | none => system
  | some atomspace =>
    { system with
      atomspace := some ((system.behaviorPatterns.filter (·.isBeneficial)).foldl
        (fun s pattern => (opencogAddNode s .conceptNode (some pattern.patternName)).1)
        atomspace) }

/-- The loop of `phase3_update_system_state` over the consensus slots: each check reads the
clock once. -/
def checkConsensusSlots : List Nat → Phase3System → Environment → Phase3System × Environment
  | [], consensus, env => (consensus, env)
  | k :: rest, consensus, env =>
    checkConsensusSlots rest (phase3CheckConsensusStatus consensus (k + 1) env.now).1 env.tick

/-- `phase3_update_system_state` — analyse the patterns, maintain coherence, check every
consensus protocol, and coordinate with phase 2. -/
def phase3UpdateSystemState (system : Phase3SelfModificationSystem) (env : Environment) :
    Phase3SelfModificationSystem × Environment :=
  let analyzed := phase3AnalyzeBehavioralPatterns system env
  let maintained := phase3MaintainGlobalCoherence analyzed.1 analyzed.2
  let checked := checkConsensusSlots (List.range maintained.1.consensus.activeConsensus.length)
    maintained.1.consensus maintained.2.1
  (phase3CoordinateWithPhase2 { maintained.1 with consensus := checked.1 }, checked.2)

/-! ## Calls in any order -/

/-- A call of the public phase-3 API that changes the system. -/
inductive Phase3Op
  | createEvolutionRule (description : CString) (modType : SelfModificationType)
      (activationThreshold : ℚ)
  | executeSelfModification (ruleId : Nat)
  | evolveRules
  | recursiveSelfImprovement
  | detectEmergentBehavior (agentIds : Option (List Nat))
  | analyzeBehavioralPatterns
  | initiateConsensus (topic : Option CString) (participants : Option (List Nat))
  | consensusVote (consensusId agentId : Nat) (agreement : Bool)
  | checkConsensusStatus (consensusId : Nat)
  | addCoherenceMetric (metricName : Option CString) (targetValue tolerance : ℚ)
  | updateCoherenceMetrics
  | maintainGlobalCoherence
  | coordinateWithPhase2
  | updateSystemState

/-- The system and environment after one call, its result discarded. The consensus calls read
the clock when they get past their argument checks. -/
def Phase3SelfModificationSystem.step (system : Phase3SelfModificationSystem) (env : Environment) :
    Phase3Op → Phase3SelfModificationSystem × Environment
  | .createEvolutionRule description modType activationThreshold =>
    let r := phase3CreateEvolutionRule system env description modType activationThreshold
    (r.1, r.2.1)
  | .executeSelfModification ruleId =>
    let r := phase3ExecuteSelfModification system env ruleId
    (r.1, r.2.1)
  | .evolveRules => phase3EvolveRules system env
  | .recursiveSelfImprovement =>
    let r := phase3RecursiveSelfImprovement system env
    (r.1, r.2.1)
  | .detectEmergentBehavior agentIds =>
    let r := phase3DetectEmergentBehavior system env agentIds
    (r.1, r.2.1)
  | .analyzeBehavioralPatterns => phase3AnalyzeBehavioralPatterns system env
  | .initiateConsensus topic participants =>
    let r := phase3InitiateConsensus system.consensus topic participants env.now
    ({ system with consensus := r.1 }, if r.2 = 0 then env else env.tick)
  | .consensusVote consensusId agentId agreement =>
    ({ system with
      consensus := (phase3ConsensusVote system.consensus consensusId agentId agreement).1 }, env)
  | .checkConsensusStatus consensusId =>
    ({ system with
        consensus := (phase3CheckConsensusStatus system.consensus consensusId env.now).1 },
      if consensusId = 0 ∨ system.consensus.activeConsensus.length < consensusId then env
      else env.tick)
  | .addCoherenceMetric metricName targetValue tolerance =>
    ((phase3AddCoherenceMetric system metricName targetValue tolerance).1, env)
  | .updateCoherenceMetrics => phase3UpdateCoherenceMetrics system env
  | .maintainGlobalCoherence =>
    let r := phase3MaintainGlobalCoherence system env
    (r.1, r.2.1)
  | .coordinateWithPhase2 => (phase3CoordinateWithPhase2 system, env)
  | .updateSystemState => phase3UpdateSystemState system env

/-- Some call takes the first system and environment to the second. -/
def Phase3Transition (a b : Phase3SelfModificationSystem × Environment) : Prop :=
  ∃ op, b = a.1.step a.2 op

/-- A finite sequence of calls takes the first system and environment to the second. -/
def Phase3Run : Phase3SelfModificationSystem × Environment →
    Phase3SelfModificationSystem × Environment → Prop :=
  Relation.ReflTransGen Phase3Transition

/-- Every system some sequence of calls reaches from `phase3_init`. -/
def Phase3SelfModificationSystem.Reachable (system : Phase3SelfModificationSystem) : Prop :=
  ∃ (mosesSystem : Bool) (atomspace : Option AtomSpace) (distributedArch : Bool)
    (env env' : Environment),
    Phase3Run (phase3InitSystem mosesSystem atomspace distributedArch, env) (system, env')

end Coggml

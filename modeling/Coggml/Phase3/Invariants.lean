import Coggml.Phase3.System
import Coggml.Distributed.Dashboard
/-!
# What every run of the phase-3 system keeps

Every public call, in any order and for every sequence of `rand()` results and clock readings,
keeps `Phase3SelfModificationSystem.Wf`: rule and pattern ids are their slot numbers plus one,
scores stay in their ranges, every history holds at most 100 values, and a metric's correction
id names the behaviour-adaptation rule created for it. Rules only grow at the end and keep their
roles, and a deactivated rule is never changed again (`RulesEvolve`). The two modification
counters are `uint32_t`, and every execution reads the clock once: while a run has read it fewer
than `2 ^ 32` times they have not wrapped, successes never outnumber executions, and
`phase3_measure_system_performance` is in `[0, 1]` (`Phase3SelfModificationSystem.Counted`).
-/

namespace Coggml

/-! ## Lists written in place -/

section Lists

variable {α β : Type} {f : α → α} {l : List α}

/-- An element of a list after a write to one slot is an old element or the image of one. -/
theorem mem_of_mem_modify {i : Nat} {a : α} (mem : a ∈ l.modify f i) :
    a ∈ l ∨ ∃ b ∈ l, a = f b := by
  obtain ⟨k, found⟩ := List.mem_iff_getElem?.1 mem
  rw [List.getElem?_modify] at found
  obtain ⟨b, old, rfl⟩ := Option.map_eq_some'.1 found
  have mem := List.mem_iff_getElem?.2 ⟨k, old⟩
  split
  · exact .inr ⟨b, mem, rfl⟩
  · exact .inl mem

/-- A write that keeps a property keeps it for every element. -/
theorem forall_mem_modify {p : α → Prop} (keep : ∀ a, p a → p (f a)) (all : ∀ a ∈ l, p a)
    (i : Nat) : ∀ a ∈ l.modify f i, p a := fun a mem => by
  rcases mem_of_mem_modify mem with mem | ⟨b, old, rfl⟩
  exacts [all a mem, keep b (all b old)]

/-- A write that keeps a projection keeps the projected list. -/
theorem map_modify_of_comp {g : α → β} (same : ∀ a, g (f a) = g a) (i : Nat) :
    (l.modify f i).map g = l.map g := by
  induction l generalizing i with
  | nil => cases i <;> rfl
  | cons a rest ih => cases i <;> simp [same, ih]

/-- A map that keeps a projection keeps the projected list. -/
theorem map_map_of_comp {g : α → β} (same : ∀ a, g (f a) = g a) :
    (l.map f).map g = l.map g := by
  simp [same]

/-- Slots numbered from one stay so after appending the next number. -/
theorem range_concat_of_map {g : α → Nat} {a : α} (ids : l.map g = List.range' 1 l.length)
    (next : g a = l.length + 1) : (l ++ [a]).map g = List.range' 1 (l ++ [a]).length := by
  rw [List.map_append, ids, List.length_append, List.length_singleton, List.range'_concat,
    List.map_singleton, next]
  simp [Nat.add_comm]

/-- A prefix keeps every slot it has. -/
theorem getElem?_of_prefixed {l₁ l₂ : List α} (pre : l₁ <+: l₂) {k : Nat} {a : α}
    (found : l₁[k]? = some a) : l₂[k]? = some a := by
  obtain ⟨t, rfl⟩ := pre
  rwa [List.getElem?_append_left (List.getElem?_eq_some_iff.1 found).1]

end Lists

/-- Two `strncpy` copies into one buffer size are one. -/
@[simp] theorem copyName_copyName (size : Nat) (src : CString) :
    copyName size (copyName size src) = copyName size src := by
  simp [copyName, List.take_take]

/-! ## Rules -/

namespace MetaEvolutionRule

variable {rule : MetaEvolutionRule} {success : Bool} {performance : ℚ}

/-- What a rule is for: its type, activation threshold and description. -/
def role (rule : MetaEvolutionRule) : SelfModificationType × ℚ × CString :=
  (rule.modType, rule.activationThreshold, rule.description)

@[simp] theorem recordOutcome_ruleId : (rule.recordOutcome success).ruleId = rule.ruleId := by
  unfold recordOutcome; split <;> rfl

@[simp] theorem recordOutcome_role : (rule.recordOutcome success).role = rule.role := by
  unfold recordOutcome; split <;> rfl

@[simp] theorem evolve_ruleId : (rule.evolve performance).ruleId = rule.ruleId := by
  unfold evolve; split <;> rfl

@[simp] theorem evolve_role : (rule.evolve performance).role = rule.role := by
  unfold evolve; split <;> rfl

/-- Evolution leaves an inactive rule alone. -/
theorem evolve_of_inactive (inactive : rule.isActive = false) : rule.evolve performance = rule := by
  simp [evolve, inactive]

/-- Effectiveness and stability in `[0, 1]`, novelty in `[0.1, 1]`. -/
structure Scored (rule : MetaEvolutionRule) : Prop where
  effectiveness_nonneg : 0 ≤ rule.effectivenessScore
  effectiveness_le_one : rule.effectivenessScore ≤ 1
  stability_nonneg : 0 ≤ rule.stabilityScore
  stability_le_one : rule.stabilityScore ≤ 1
  novelty_ge : 0.1 ≤ rule.noveltyScore
  novelty_le_one : rule.noveltyScore ≤ 1

/-- A new rule starts at effectiveness 0.5, novelty 1 and stability 0. -/
theorem newEvolutionRule_scored (ruleId : Nat) (description : CString)
    (modType : SelfModificationType) (activationThreshold : ℚ) :
    (newEvolutionRule ruleId description modType activationThreshold).Scored := by
  constructor <;> norm_num [newEvolutionRule]

/-- Scoring an execution keeps the ranges. -/
theorem Scored.recordOutcome (scored : rule.Scored) (success : Bool) :
    (rule.recordOutcome success).Scored := by
  have := scored.effectiveness_nonneg
  have := scored.effectiveness_le_one
  unfold MetaEvolutionRule.recordOutcome
  split
  · exact { scored with
      effectiveness_nonneg := le_min zero_le_one (by linarith)
      effectiveness_le_one := min_le_left _ _ }
  · exact { scored with
      effectiveness_nonneg := le_max_left _ _
      effectiveness_le_one := max_le zero_le_one (by linarith) }

/-- Evolution keeps the ranges. -/
theorem Scored.evolve (scored : rule.Scored) (performance : ℚ) :
    (rule.evolve performance).Scored := by
  unfold MetaEvolutionRule.evolve
  split
  · refine { scored with
      stability_nonneg := ?_, stability_le_one := ?_
      novelty_ge := le_max_left _ _
      novelty_le_one := max_le (by norm_num)
        (mul_le_one₀ scored.novelty_le_one (by norm_num) (by norm_num)) }
    all_goals split
    exacts [le_min zero_le_one (add_nonneg scored.stability_nonneg (by norm_num)),
      le_max_left _ _, min_le_left _ _,
      max_le zero_le_one (by linarith only [scored.stability_le_one])]
  · exact scored

end MetaEvolutionRule

/-! ## Patterns and metrics -/

/-- A pattern's generation in `[1, 10]`, its coherence in `[0.7, 1]`, and its fitness and
benefit flag those of its current characteristics. -/
structure EmergentBehaviorPattern.Settled (pattern : EmergentBehaviorPattern) : Prop where
  generation_pos : 1 ≤ pattern.generation
  generation_le : pattern.generation ≤ 10
  coherence_ge : 0.7 ≤ pattern.coherenceLevel
  coherence_le_one : pattern.coherenceLevel ≤ 1
  fitness : pattern.fitnessScore = calculateFitnessScore pattern.emergenceStrength
    pattern.coherenceLevel (min 1 (pattern.stabilityDuration / 10000))
  beneficial : pattern.isBeneficial = decide (0.6 < pattern.fitnessScore)

/-- A detected pattern is settled: its two `rand()` draws keep coherence below 1 and stability
below 10000. -/
theorem newBehaviorPattern_settled (patternId agentCount r1 r2 : Nat) (now : UInt64) :
    (newBehaviorPattern patternId agentCount r1 r2 now).Settled := by
  have low : ((r1 % 30 : Nat) : ℚ) < 30 := by exact_mod_cast Nat.mod_lt r1 (by norm_num)
  have short : ((r2 % 5000 : Nat) : ℚ) < 5000 := by exact_mod_cast Nat.mod_lt r2 (by norm_num)
  have below : (1000 + ((r2 % 5000 : Nat) : ℚ)) / 10000 ≤ 1 := by
    rw [div_le_one₀ (by norm_num)]; linarith only [short]
  refine ⟨le_rfl, (by decide : 1 ≤ 10), ?_, ?_, ?_, rfl⟩
  · exact le_add_of_nonneg_right (div_nonneg (Nat.cast_nonneg _) (by norm_num))
  · show 0.7 + ((r1 % 30 : Nat) : ℚ) / 100 ≤ 1
    linarith only [low]
  · simp only [newBehaviorPattern, min_eq_right below]

/-- Promotion below generation 10 keeps a generation in `[1, 10]`. -/
theorem promote_mem_range {b : Prop} [Decidable b] {g : Nat} (pos : 1 ≤ g) (le : g ≤ 10) :
    1 ≤ (if b ∧ g < 10 then g + 1 else g) ∧ (if b ∧ g < 10 then g + 1 else g) ≤ 10 := by
  split
  next promoted => have := promoted.2; omega
  next => omega

/-- One round of analysis keeps a pattern settled. -/
theorem EmergentBehaviorPattern.Settled.analyze {pattern : EmergentBehaviorPattern}
    (settled : pattern.Settled) (now : UInt64) : (pattern.analyze now).Settled := by
  refine ⟨(promote_mem_range settled.generation_pos settled.generation_le).1,
    (promote_mem_range settled.generation_pos settled.generation_le).2, ?_, ?_, rfl, rfl⟩ <;>
    simp only [EmergentBehaviorPattern.analyze]
  · split
    · exact le_min (by norm_num) (le_add_of_le_of_nonneg settled.coherence_ge (by norm_num))
    · exact settled.coherence_ge
  · split
    · exact min_le_left _ _
    · exact settled.coherence_le_one

/-- Analysis keeps every pattern's id, and every pattern settled. -/
theorem analyzePatterns_spec (clock : Nat → UInt64) :
    ∀ (pos : Nat) (patterns : List EmergentBehaviorPattern),
      (analyzePatterns clock pos patterns).map (·.patternId) = patterns.map (·.patternId) ∧
      ((∀ p ∈ patterns, p.Settled) → ∀ p ∈ analyzePatterns clock pos patterns, p.Settled)
  | _, [] => ⟨rfl, fun _ p mem => nomatch mem⟩
  | pos, pattern :: rest => by
    obtain ⟨ids, settled⟩ := analyzePatterns_spec clock (pos + 1) rest
    refine ⟨by simp [analyzePatterns, ids, EmergentBehaviorPattern.analyze], fun all p mem => ?_⟩
    simp only [analyzePatterns, List.mem_cons] at mem all
    rcases mem with rfl | mem
    exacts [(all pattern (.inl rfl)).analyze _, settled (fun p mem => all p (.inr mem)) p mem]

/-- The history's capacity and length, and the correction strength. -/
structure CoherenceMetric.Settled (metric : CoherenceMetric) : Prop where
  capacity : metric.historyCapacity = metricHistoryCapacity
  history_le : metric.historyBuffer.length ≤ metricHistoryCapacity
  strength : metric.correctionStrength = 0.1

/-- What a metric is known by: its name and correction rule id. -/
def CoherenceMetric.label (metric : CoherenceMetric) : CString × Nat :=
  (metric.metricName, metric.correctionRuleId)

/-- Recording keeps a history within a positive capacity. -/
theorem length_recordHistory_le {capacity : Nat} {history : List ℚ}
    (within : history.length ≤ capacity) (positive : 0 < capacity) (value : ℚ) :
    (recordHistory capacity history value).length ≤ capacity := by
  unfold recordHistory
  split <;> simp <;> omega

/-- An update keeps a metric settled and its label. -/
theorem CoherenceMetric.Settled.update {metric : CoherenceMetric} (settled : metric.Settled)
    (noise : ℚ) : (metric.update noise).Settled := by
  obtain ⟨capacity, history, strength⟩ := settled
  refine ⟨capacity, ?_, strength⟩
  show (recordHistory metric.historyCapacity metric.historyBuffer _).length ≤ _
  rw [capacity]
  exact length_recordHistory_le history (by decide) _

/-- A correction keeps a metric settled. -/
theorem CoherenceMetric.Settled.correct {metric : CoherenceMetric} (settled : metric.Settled) :
    metric.correct.Settled :=
  ⟨settled.capacity, settled.history_le, settled.strength⟩

/-- The metric update loop keeps every label, and every metric settled. -/
theorem updateMetrics_spec (rand : Nat → Nat) :
    ∀ (pos : Nat) (metrics : List CoherenceMetric),
      (updateMetrics rand pos metrics).map CoherenceMetric.label =
        metrics.map CoherenceMetric.label ∧
      ((∀ m ∈ metrics, m.Settled) → ∀ m ∈ updateMetrics rand pos metrics, m.Settled)
  | _, [] => ⟨rfl, fun _ m mem => nomatch mem⟩
  | pos, metric :: rest => by
    obtain ⟨labels, settled⟩ := updateMetrics_spec rand (pos + 1) rest
    refine ⟨by simp [updateMetrics, labels, CoherenceMetric.label, CoherenceMetric.update],
      fun all m mem => ?_⟩
    simp only [updateMetrics, List.mem_cons] at mem all
    rcases mem with rfl | mem
    exacts [(all metric (.inl rfl)).update _, settled (fun m mem => all m (.inr mem)) m mem]

/-! ## The invariant -/

/-- A metric's correction id is 0 or names a behaviour-adaptation rule with threshold 0.5
described after the metric. -/
def CorrectsMetric (rules : List MetaEvolutionRule) (metric : CoherenceMetric) : Prop :=
  metric.correctionRuleId = 0 ∨
    (rules.map MetaEvolutionRule.role)[metric.correctionRuleId - 1]? =
      some (.behaviorAdaptation, 0.5, correctorDescription metric.metricName)

/-- How the rule table may change: rules are only appended, every rule keeps its role, and an
inactive rule is never written again. -/
structure RulesEvolve (old new : List MetaEvolutionRule) : Prop where
  roles : old.map MetaEvolutionRule.role <+: new.map MetaEvolutionRule.role
  frozen : ∀ (k : Nat) (rule : MetaEvolutionRule), old[k]? = some rule →
    rule.isActive = false → new[k]? = some rule

namespace RulesEvolve

variable {rules rules' rules'' : List MetaEvolutionRule}

theorem refl (rules : List MetaEvolutionRule) : RulesEvolve rules rules :=
  ⟨List.prefix_refl _, fun _ _ found _ => found⟩

theorem trans (first : RulesEvolve rules rules') (second : RulesEvolve rules' rules'') :
    RulesEvolve rules rules'' :=
  ⟨first.roles.trans second.roles, fun k rule found inactive =>
    second.frozen k rule (first.frozen k rule found inactive) inactive⟩

/-- Appending a rule. -/
theorem append (rules : List MetaEvolutionRule) (rule : MetaEvolutionRule) :
    RulesEvolve rules (rules ++ [rule]) :=
  ⟨by simp, fun _ _ found _ => getElem?_of_prefixed (List.prefix_append _ _) found⟩

/-- Writing an active slot with an update that keeps roles. -/
theorem modify {f : MetaEvolutionRule → MetaEvolutionRule} (keeps : ∀ r, (f r).role = r.role)
    {i : Nat} {rule : MetaEvolutionRule} (found : rules[i]? = some rule)
    (active : rule.isActive = true) : RulesEvolve rules (rules.modify f i) := by
  refine ⟨by rw [map_modify_of_comp keeps], fun k r old inactive => ?_⟩
  rw [List.getElem?_modify, old]
  by_cases same : i = k
  · subst same
    rw [found] at old
    cases old
    simp [active] at inactive
  · simp [same]

/-- Mapping an update that keeps roles and leaves inactive rules alone. -/
theorem map {f : MetaEvolutionRule → MetaEvolutionRule} (keeps : ∀ r, (f r).role = r.role)
    (idle : ∀ r, r.isActive = false → f r = r) : RulesEvolve rules (rules.map f) :=
  ⟨by rw [map_map_of_comp keeps], fun k r found inactive => by
    simp [List.getElem?_map, found, idle r inactive]⟩

end RulesEvolve

/-- A correction link survives every evolution of the rules. -/
theorem CorrectsMetric.of_evolve {rules rules' : List MetaEvolutionRule}
    {metric : CoherenceMetric} (corrects : CorrectsMetric rules metric)
    (evolve : RulesEvolve rules rules') : CorrectsMetric rules' metric :=
  corrects.imp_right (getElem?_of_prefixed evolve.roles)

/-- A correction link depends only on the metric's label. -/
theorem CorrectsMetric.of_label {rules : List MetaEvolutionRule}
    {metric metric' : CoherenceMetric} (corrects : CorrectsMetric rules metric)
    (same : metric.label = metric'.label) : CorrectsMetric rules metric' := by
  simp only [CoherenceMetric.label, Prod.mk.injEq] at same
  unfold CorrectsMetric
  rwa [← same.1, ← same.2]

/-- What every run of the phase-3 system keeps: fixed capacities, tables within them, ids that
are slot numbers plus one, settled rules, patterns and metrics, and correction ids naming their
rules. -/
structure Phase3SelfModificationSystem.Wf (system : Phase3SelfModificationSystem) : Prop where
  ruleCapacity : system.ruleCapacity = phase3MaxEvolutionRules
  patternCapacity : system.patternCapacity = phase3MaxBehavioralPatterns
  metricCapacity : system.metricCapacity = phase3MaxCoherenceMetrics
  rules_le : system.evolutionRules.length ≤ system.ruleCapacity
  ruleIds : system.evolutionRules.map (·.ruleId) = List.range' 1 system.evolutionRules.length
  scored : ∀ rule ∈ system.evolutionRules, rule.Scored
  patterns_le : system.behaviorPatterns.length ≤ system.patternCapacity
  patternIds :
    system.behaviorPatterns.map (·.patternId) = List.range' 1 system.behaviorPatterns.length
  patterns : ∀ pattern ∈ system.behaviorPatterns, pattern.Settled
  metrics_le : system.coherenceMetrics.length ≤ system.metricCapacity
  metrics : ∀ metric ∈ system.coherenceMetrics, metric.Settled
  corrections : ∀ metric ∈ system.coherenceMetrics, CorrectsMetric system.evolutionRules metric

/-- The AtomSpace after well-typed calls of its API; a `NULL` AtomSpace stays `NULL`. -/
def AtomSpaceRun : Option AtomSpace → Option AtomSpace → Prop
  | none, atomspace => atomspace = none
  | some s, atomspace => ∃ s', atomspace = some s' ∧ s.TypedRun s'

namespace AtomSpaceRun

theorem refl : ∀ atomspace, AtomSpaceRun atomspace atomspace
  | none => rfl
  | some s => ⟨s, rfl, .refl⟩

theorem trans : ∀ {a b c : Option AtomSpace}, AtomSpaceRun a b → AtomSpaceRun b c →
    AtomSpaceRun a c
  | none, _, _, rfl, second => second
  | some _, _, _, ⟨_, rfl, first⟩, ⟨u, rfl, second⟩ => ⟨u, rfl, first.trans second⟩

/-- One `opencog_add_node` with a node type. -/
theorem addNode (s : AtomSpace) {type : AtomType} (node : type.isNode = true)
    (name : Option CString) : AtomSpaceRun (some s) (some (opencogAddNode s type name).1) :=
  ⟨_, rfl, .single ⟨.addNode type name, node, rfl⟩⟩

end AtomSpaceRun

/-- What a call may do to the system: keep the invariant, evolve the rules, extend the
consensus table's run by consensus calls, and change the AtomSpace only by well-typed calls. -/
structure Phase3SelfModificationSystem.Follows (system system' : Phase3SelfModificationSystem) :
    Prop where
  wf : system.Wf → system'.Wf
  rules : RulesEvolve system.evolutionRules system'.evolutionRules
  consensus : ∀ (start : Phase3System) (log : List Ballot), ConsensusRun start log system.consensus →
    ∃ log', ConsensusRun start log' system'.consensus
  atomspace : AtomSpaceRun system.atomspace system'.atomspace

namespace Phase3SelfModificationSystem

variable {system system' system'' : Phase3SelfModificationSystem}

theorem Follows.refl (system : Phase3SelfModificationSystem) : system.Follows system :=
  ⟨id, RulesEvolve.refl _, fun _ log run => ⟨log, run⟩, .refl _⟩

theorem Follows.trans (first : system.Follows system') (second : system'.Follows system'') :
    system.Follows system'' :=
  ⟨second.wf ∘ first.wf, first.rules.trans second.rules, fun start log run =>
    let ⟨log', run'⟩ := first.consensus start log run
    second.consensus start log' run', first.atomspace.trans second.atomspace⟩

/-- A call that changes neither rules, consensus table nor AtomSpace, and keeps the invariant. -/
theorem Follows.of_wf (wf : system.Wf → system'.Wf)
    (rules : system'.evolutionRules = system.evolutionRules)
    (consensus : system'.consensus = system.consensus)
    (atomspace : system'.atomspace = system.atomspace) : system.Follows system' :=
  ⟨wf, rules ▸ RulesEvolve.refl _, fun _ log run => ⟨log, consensus ▸ run⟩,
    atomspace ▸ .refl _⟩

/-- The initial system. -/
theorem wf_phase3InitSystem (mosesSystem : Bool) (atomspace : Option AtomSpace)
    (distributedArch : Bool) : (phase3InitSystem mosesSystem atomspace distributedArch).Wf := by
  constructor <;> simp [phase3InitSystem, phase3MaxEvolutionRules, phase3MaxBehavioralPatterns,
    phase3MaxCoherenceMetrics]

/-- New patterns within the table, numbered and settled. -/
theorem Wf.withPatterns (wf : system.Wf) {patterns : List EmergentBehaviorPattern}
    (le : patterns.length ≤ system.patternCapacity)
    (ids : patterns.map (·.patternId) = List.range' 1 patterns.length)
    (settled : ∀ pattern ∈ patterns, pattern.Settled) :
    { system with behaviorPatterns := patterns }.Wf :=
  { wf with patterns_le := le, patternIds := ids, patterns := settled }

/-- Analysing the patterns. -/
theorem Wf.analyze (wf : system.Wf) (clock : Nat → UInt64) (pos : Nat) :
    { system with behaviorPatterns := analyzePatterns clock pos system.behaviorPatterns }.Wf := by
  obtain ⟨ids, settled⟩ := analyzePatterns_spec clock pos system.behaviorPatterns
  have length := congrArg List.length ids
  simp only [List.length_map] at length
  exact wf.withPatterns (length ▸ wf.patterns_le) (by rw [ids, wf.patternIds, length])
    (settled wf.patterns)

/-- The improvement rate is no part of the invariant. -/
theorem Wf.withRate (wf : system.Wf) (rate : ℚ) : { system with systemImprovementRate := rate }.Wf :=
  { wf with }

/-- New rules within the table, numbered, scored, evolved from the old. -/
theorem Wf.withRules (wf : system.Wf) {rules : List MetaEvolutionRule}
    (le : rules.length ≤ system.ruleCapacity)
    (ids : rules.map (·.ruleId) = List.range' 1 rules.length)
    (scored : ∀ rule ∈ rules, rule.Scored) (evolve : RulesEvolve system.evolutionRules rules) :
    { system with evolutionRules := rules }.Wf :=
  { wf with rules_le := le, ruleIds := ids, scored := scored
            corrections := fun metric mem => (wf.corrections metric mem).of_evolve evolve }

/-! ## One lemma per call -/

/-- What `phase3_create_evolution_rule` can do: nothing, or append the next rule. -/
theorem phase3CreateEvolutionRule_cases (system : Phase3SelfModificationSystem)
    (env : Environment) (description : CString) (modType : SelfModificationType)
    (activationThreshold : ℚ) :
    phase3CreateEvolutionRule system env description modType activationThreshold =
        (system, env, false) ∨
      system.evolutionRules.length < system.ruleCapacity ∧
        phase3CreateEvolutionRule system env description modType activationThreshold =
          ({ system with evolutionRules := system.evolutionRules ++
              [newEvolutionRule (system.evolutionRules.length + 1) description modType
                activationThreshold] }, env.tick, true) := by
  unfold phase3CreateEvolutionRule
  split
  · exact .inl rfl
  · exact .inr ⟨by omega, rfl⟩

theorem follows_create (system : Phase3SelfModificationSystem) (env : Environment)
    (description : CString) (modType : SelfModificationType) (activationThreshold : ℚ) :
    system.Follows (phase3CreateEvolutionRule system env description modType
      activationThreshold).1 := by
  rcases phase3CreateEvolutionRule_cases system env description modType activationThreshold
    with same | ⟨room, created⟩
  · rw [same]; exact .refl system
  rw [created]
  refine ⟨fun wf => wf.withRules (by simp; omega) (range_concat_of_map wf.ruleIds rfl)
    ?_ (.append _ _), .append _ _, fun _ log run => ⟨log, run⟩, .refl _⟩
  exact List.forall_mem_append.2 ⟨wf.scored, by simp [MetaEvolutionRule.newEvolutionRule_scored]⟩

theorem follows_analyze (system : Phase3SelfModificationSystem) (env : Environment) :
    system.Follows (phase3AnalyzeBehavioralPatterns system env).1 :=
  .of_wf (fun wf => wf.analyze _ _) rfl rfl rfl

/-- What `phase3_detect_emergent_behavior` can do: nothing, or append the next pattern. -/
theorem phase3DetectEmergentBehavior_cases (system : Phase3SelfModificationSystem)
    (env : Environment) (agentIds : Option (List Nat)) :
    (phase3DetectEmergentBehavior system env agentIds).1 = system ∨
      system.behaviorPatterns.length < system.patternCapacity ∧
        ∃ agentCount r1 r2 now, (phase3DetectEmergentBehavior system env agentIds).1 =
          { system with behaviorPatterns := system.behaviorPatterns ++
              [newBehaviorPattern (system.behaviorPatterns.length + 1) agentCount r1 r2 now] } := by
  unfold phase3DetectEmergentBehavior
  split
  · exact .inl rfl
  · split
    · exact .inl rfl
    · split
      · exact .inl rfl
      · exact .inr ⟨by omega, _, _, _, _, rfl⟩

theorem follows_detect (system : Phase3SelfModificationSystem) (env : Environment)
    (agentIds : Option (List Nat)) :
    system.Follows (phase3DetectEmergentBehavior system env agentIds).1 := by
  rcases phase3DetectEmergentBehavior_cases system env agentIds with
    same | ⟨room, agentCount, r1, r2, now, detected⟩
  · rw [same]; exact .refl system
  rw [detected]
  refine .of_wf (fun wf => wf.withPatterns (by simp; omega) (range_concat_of_map wf.patternIds rfl)
    (List.forall_mem_append.2 ⟨wf.patterns, ?_⟩)) rfl rfl rfl
  simp [newBehaviorPattern_settled]

/-- What the switch of `phase3_execute_self_modification` can change: the AtomSpace, by one
concept node, and the patterns, by one analysis. -/
theorem runSelfModification_eq (system : Phase3SelfModificationSystem) (env : Environment)
    (type : SelfModificationType) :
    ∃ (atomspace : Option AtomSpace) (patterns : List EmergentBehaviorPattern),
      (atomspace = system.atomspace ∨ ∃ s, system.atomspace = some s ∧
        atomspace = some (opencogAddNode s .conceptNode (some (cstr "SelfGeneratedRule"))).1) ∧
      (patterns = system.behaviorPatterns ∨
        patterns = analyzePatterns env.clock env.clockPos system.behaviorPatterns) ∧
      (runSelfModification system env type).1 =
        { system with atomspace := atomspace, behaviorPatterns := patterns } := by
  cases type with
  | ruleCreation =>
    dsimp only [runSelfModification]
    split
    · exact ⟨_, _, .inl rfl, .inl rfl, rfl⟩
    · next s found => exact ⟨_, _, .inr ⟨s, found, rfl⟩, .inl rfl, rfl⟩
  | behaviorAdaptation => exact ⟨_, _, .inl rfl, .inr rfl, rfl⟩
  | _ => exact ⟨_, _, .inl rfl, .inl rfl, rfl⟩

/-- What `phase3_execute_self_modification` can do: nothing, or count an execution of an active
rule, run its switch, and score the rule in its slot. -/
theorem phase3ExecuteSelfModification_cases (system : Phase3SelfModificationSystem)
    (env : Environment) (ruleId : Nat) :
    phase3ExecuteSelfModification system env ruleId = (system, env, false) ∨
      ∃ rule, system.evolutionRules[ruleId - 1]? = some rule ∧ rule.isActive = true ∧
        let done := runSelfModification
          { system with totalModifications := system.totalModifications + 1 } env rule.modType
        phase3ExecuteSelfModification system env ruleId =
          ({ done.1 with
            evolutionRules :=
              done.1.evolutionRules.modify (MetaEvolutionRule.recordOutcome done.2.2) (ruleId - 1)
            successfulModifications :=
              if done.2.2 then done.1.successfulModifications + 1
              else done.1.successfulModifications }, done.2.1.tick, done.2.2) := by
  unfold phase3ExecuteSelfModification
  split
  · exact .inl rfl
  · split
    · exact .inl rfl
    · next rule found =>
      split
      · exact .inl rfl
      · next active => exact .inr ⟨rule, found, by simpa using active, rfl⟩

theorem follows_execute (system : Phase3SelfModificationSystem) (env : Environment)
    (ruleId : Nat) : system.Follows (phase3ExecuteSelfModification system env ruleId).1 := by
  rcases phase3ExecuteSelfModification_cases system env ruleId with
    same | ⟨rule, found, active, executed⟩
  · rw [same]; exact .refl system
  rw [executed]
  obtain ⟨atomspace, patterns, grown, analyzed, done⟩ := runSelfModification_eq
    { system with totalModifications := system.totalModifications + 1 } env rule.modType
  generalize (runSelfModification _ env rule.modType).2.2 = success
  rw [done]
  refine ⟨fun wf => ?_, .modify (fun _ => MetaEvolutionRule.recordOutcome_role) found active,
    fun _ log run => ⟨log, run⟩, ?_⟩
  swap
  · rcases grown with rfl | ⟨s, present, rfl⟩
    exacts [.refl _, present ▸ @AtomSpaceRun.addNode s .conceptNode rfl _]
  have patternsWf : { system with behaviorPatterns := patterns }.Wf := by
    rcases analyzed with rfl | rfl
    exacts [wf, wf.analyze _ _]
  exact { patternsWf.withRules (by simpa using wf.rules_le)
      (by rw [map_modify_of_comp (fun _ => MetaEvolutionRule.recordOutcome_ruleId), wf.ruleIds,
        List.length_modify])
      (forall_mem_modify (fun r scored => scored.recordOutcome success) wf.scored _)
      (.modify (fun _ => MetaEvolutionRule.recordOutcome_role) found active) with }

theorem follows_evolve (system : Phase3SelfModificationSystem) (env : Environment) :
    system.Follows (phase3EvolveRules system env).1 := by
  set evolved := { system with
    evolutionRules := system.evolutionRules.map
      (MetaEvolutionRule.evolve (phase3MeasureSystemPerformance system)) }
  have first : system.Follows evolved := by
    have rules : RulesEvolve system.evolutionRules evolved.evolutionRules :=
      .map (fun _ => MetaEvolutionRule.evolve_role)
        (fun _ inactive => MetaEvolutionRule.evolve_of_inactive inactive)
    refine ⟨fun wf => wf.withRules (by simpa using wf.rules_le) ?_ ?_ rules, rules,
      fun _ log run => ⟨log, run⟩, .refl _⟩
    · rw [map_map_of_comp (fun _ => MetaEvolutionRule.evolve_ruleId), wf.ruleIds,
        List.length_map]
    · simpa using fun rule mem => (wf.scored rule mem).evolve _
  dsimp only [phase3EvolveRules]
  split
  · exact first.trans (follows_create _ _ _ _ _)
  · exact first

/-- The recursive loop is a sequence of executions. -/
theorem follows_improveRules :
    ∀ (slots : List Nat) (system : Phase3SelfModificationSystem) (env : Environment)
      (improved : Bool), system.Follows (improveRules slots system env improved).1
  | [], system, _, _ => .refl system
  | i :: rest, system, env, improved => by
    unfold improveRules
    split
    · split
      · exact (follows_execute _ _ _).trans (follows_improveRules rest _ _ _)
      · exact follows_improveRules rest _ _ _
    · exact follows_improveRules rest _ _ _

/-! ## Performance -/

/-- Every term the performance measure averages is in `[0, 1]` while successes do not
outnumber executions. -/
theorem Wf.performanceComponents_mem_unit (wf : system.Wf)
    (successful_le : system.successfulModifications.toNat ≤ system.totalModifications.toNat) :
    ∀ x ∈ performanceComponents system, 0 ≤ x ∧ x ≤ 1 := by
  intro x mem
  simp only [performanceComponents, List.mem_append] at mem
  rcases mem with (rate | effectiveness) | fraction
  · split at rate
    · simp at rate
    · next attempted =>
      rw [List.mem_singleton.1 rate]
      have positive : (0 : ℚ) < system.totalModifications.toNat := by
        exact_mod_cast Nat.pos_of_ne_zero fun zero => attempted (UInt32.toNat.inj zero)
      exact ⟨div_nonneg (Nat.cast_nonneg _) positive.le,
        div_le_one_of_le₀ (by exact_mod_cast successful_le) positive.le⟩
  · split at effectiveness
    · simp at effectiveness
    · next active =>
      rw [List.mem_singleton.1 effectiveness, ← List.length_map _ MetaEvolutionRule.effectivenessScore]
      refine mean_mem_unit (by simpa using active) fun e mem => ?_
      obtain ⟨rule, member, rfl⟩ := List.mem_map.1 mem
      have scored := wf.scored rule (List.mem_of_mem_filter member)
      exact ⟨scored.effectiveness_nonneg, scored.effectiveness_le_one⟩
  · split at fraction
    · simp at fraction
    · rw [List.mem_singleton.1 fraction]
      exact ⟨div_nonneg (Nat.cast_nonneg _) (Nat.cast_nonneg _),
        div_le_one_of_le₀ (by exact_mod_cast List.length_filter_le _ _) (Nat.cast_nonneg _)⟩

/-- `phase3_measure_system_performance` is in `[0, 1]` on a well-formed system whose successes do
not outnumber its executions. -/
theorem Wf.measure_mem_unit (wf : system.Wf)
    (successful_le : system.successfulModifications.toNat ≤ system.totalModifications.toNat) :
    0 ≤ phase3MeasureSystemPerformance system ∧ phase3MeasureSystemPerformance system ≤ 1 := by
  dsimp only [phase3MeasureSystemPerformance]
  split
  · norm_num
  · exact mean_mem_unit ‹_› (wf.performanceComponents_mem_unit successful_le)

theorem follows_recursive (system : Phase3SelfModificationSystem) (env : Environment) :
    system.Follows (phase3RecursiveSelfImprovement system env).1 := by
  dsimp only [phase3RecursiveSelfImprovement]
  set improved := improveRules (List.range system.evolutionRules.length) system env false
  set evolved := phase3EvolveRules improved.1 improved.2.1
  have follows : system.Follows evolved.1 :=
    (follows_improveRules _ system env false).trans (follows_evolve improved.1 improved.2.1)
  exact ⟨fun wf => (follows.wf wf).withRate _, follows.rules, follows.consensus, follows.atomspace⟩

/-! ## Coherence metrics -/

/-- New metrics within the table, settled, with correction links. -/
theorem Wf.withMetrics (wf : system.Wf) {metrics : List CoherenceMetric}
    (le : metrics.length ≤ system.metricCapacity) (settled : ∀ metric ∈ metrics, metric.Settled)
    (corrects : ∀ metric ∈ metrics, CorrectsMetric system.evolutionRules metric) :
    { system with coherenceMetrics := metrics }.Wf :=
  { wf with metrics_le := le, metrics := settled, corrections := corrects }

/-- What `phase3_add_coherence_metric` can do: nothing, or append a settled metric without a
correction rule. -/
theorem phase3AddCoherenceMetric_cases (system : Phase3SelfModificationSystem)
    (metricName : Option CString) (targetValue tolerance : ℚ) :
    (phase3AddCoherenceMetric system metricName targetValue tolerance).1 = system ∨
      system.coherenceMetrics.length < system.metricCapacity ∧
        ∃ metric : CoherenceMetric, metric.Settled ∧ metric.correctionRuleId = 0 ∧
          (phase3AddCoherenceMetric system metricName targetValue tolerance).1 =
            { system with coherenceMetrics := system.coherenceMetrics ++ [metric] } := by
  unfold phase3AddCoherenceMetric
  split
  · exact .inl rfl
  · split
    · exact .inl rfl
    · exact .inr ⟨by omega, _, ⟨rfl, by simp [metricHistoryCapacity], rfl⟩, rfl, rfl⟩

theorem follows_addMetric (system : Phase3SelfModificationSystem) (metricName : Option CString)
    (targetValue tolerance : ℚ) :
    system.Follows (phase3AddCoherenceMetric system metricName targetValue tolerance).1 := by
  rcases phase3AddCoherenceMetric_cases system metricName targetValue tolerance with
    same | ⟨room, metric, settled, unlinked, added⟩
  · rw [same]; exact .refl system
  rw [added]
  refine .of_wf (fun wf => wf.withMetrics (by simp; omega) ?_ ?_) rfl rfl rfl
  · exact List.forall_mem_append.2 ⟨wf.metrics, by simpa using settled⟩
  · exact List.forall_mem_append.2 ⟨wf.corrections, by simpa using .inl unlinked⟩

theorem follows_updateMetrics (system : Phase3SelfModificationSystem) (env : Environment) :
    system.Follows (phase3UpdateCoherenceMetrics system env).1 := by
  obtain ⟨labels, settled⟩ := updateMetrics_spec env.rand env.randPos system.coherenceMetrics
  have length := congrArg List.length labels
  simp only [List.length_map] at length
  refine .of_wf (fun wf => wf.withMetrics (length ▸ wf.metrics_le) (settled wf.metrics)
    fun metric mem => ?_) rfl rfl rfl
  obtain ⟨old, mem, same⟩ := List.mem_map.1
    (labels ▸ List.mem_map_of_mem CoherenceMetric.label mem)
  exact (wf.corrections old mem).of_label same

/-- Linking metric slot `i` to a rule whose role is the one created for that metric. -/
theorem Wf.linkCorrection (wf : system.Wf) {i : Nat} {metric : CoherenceMetric}
    (found : system.coherenceMetrics[i]? = some metric) {ruleId : Nat}
    (names : (system.evolutionRules.map MetaEvolutionRule.role)[ruleId - 1]? =
      some (.behaviorAdaptation, 0.5, correctorDescription metric.metricName)) :
    (system.linkCorrection i ruleId).Wf := by
  refine wf.withMetrics (by simpa using wf.metrics_le)
    (forall_mem_modify (fun m settled => ⟨settled.1, settled.2, settled.3⟩) wf.metrics _)
    fun m mem => ?_
  obtain ⟨k, slot⟩ := List.mem_iff_getElem?.1 mem
  rw [List.getElem?_modify] at slot
  obtain ⟨old, oldSlot, rfl⟩ := Option.map_eq_some'.1 slot
  by_cases same : i = k
  · subst same
    rw [found] at oldSlot
    cases oldSlot
    simpa using .inr names
  · simpa [same] using wf.corrections old (List.mem_iff_getElem?.2 ⟨k, oldSlot⟩)

theorem follows_maintainMetric (acc : Phase3SelfModificationSystem × Environment × Bool)
    (i : Nat) : acc.1.Follows (maintainMetric acc i).1 := by
  unfold maintainMetric
  split
  · exact .refl _
  next metric found =>
  split
  · exact .refl _
  set corrected := { acc.1 with coherenceMetrics := acc.1.coherenceMetrics.set i metric.correct }
  have inside : i < acc.1.coherenceMetrics.length := (List.getElem?_eq_some_iff.1 found).1
  have first : acc.1.Follows corrected := by
    refine .of_wf (fun wf => wf.withMetrics (by simpa using wf.metrics_le) ?_ ?_) rfl rfl rfl
    all_goals intro m mem
    all_goals rcases List.mem_or_eq_of_mem_set mem with mem | rfl
    · exact wf.metrics m mem
    · exact (wf.metrics metric (List.mem_iff_getElem?.2 ⟨i, found⟩)).correct
    · exact wf.corrections m mem
    · exact (wf.corrections metric (List.mem_iff_getElem?.2 ⟨i, found⟩)).of_label rfl
  dsimp only
  split
  · rcases phase3CreateEvolutionRule_cases corrected acc.2.1 (correctorDescription metric.metricName)
      .behaviorAdaptation 0.5 with refused | ⟨room, added⟩
    · simpa only [refused, Bool.false_eq_true, ↓reduceIte] using first
    · have created := follows_create corrected acc.2.1 (correctorDescription metric.metricName)
        .behaviorAdaptation 0.5
      simp only [added, ↓reduceIte]
      rw [added] at created
      refine (first.trans created).trans
        (.of_wf (fun wf => @Wf.linkCorrection _ wf i metric.correct ?_ _ ?_) rfl rfl rfl)
      · simp [corrected, List.getElem?_set, inside]
      · simp [newEvolutionRule, MetaEvolutionRule.role, correctorDescription,
          CoherenceMetric.correct]
  · exact first

theorem follows_maintainSlots :
    ∀ (slots : List Nat) (acc : Phase3SelfModificationSystem × Environment × Bool),
      acc.1.Follows (slots.foldl maintainMetric acc).1
  | [], acc => .refl acc.1
  | i :: rest, acc => (follows_maintainMetric acc i).trans (follows_maintainSlots rest _)

theorem follows_maintain (system : Phase3SelfModificationSystem) (env : Environment) :
    system.Follows (phase3MaintainGlobalCoherence system env).1 :=
  let updated := phase3UpdateCoherenceMetrics system env
  (follows_updateMetrics system env).trans
    (follows_maintainSlots (List.range updated.1.coherenceMetrics.length) (updated.1, updated.2, true))

/-! ## Coordination, consensus and the whole update -/

/-- A new consensus table reached by consensus calls. -/
theorem follows_withConsensus (system : Phase3SelfModificationSystem) (consensus : Phase3System)
    (run : ∀ (start : Phase3System) (log : List Ballot), ConsensusRun start log system.consensus →
      ∃ log', ConsensusRun start log' consensus) :
    system.Follows { system with consensus := consensus } :=
  ⟨fun wf => { wf with }, RulesEvolve.refl _, run, .refl _⟩

/-- The consensus checks of `phase3_update_system_state` are consensus calls. -/
theorem consensusRun_checkConsensusSlots {start : Phase3System} :
    ∀ (slots : List Nat) (consensus : Phase3System) (env : Environment) (log : List Ballot),
      ConsensusRun start log consensus →
        ConsensusRun start log (checkConsensusSlots slots consensus env).1
  | [], _, _, _, run => run
  | k :: rest, _, env, log, run =>
    consensusRun_checkConsensusSlots rest _ env.tick log (run.check (k + 1) env.now)

/-- Adding concept nodes one after another. -/
theorem atomSpaceRun_addPatterns (patterns : List EmergentBehaviorPattern) (s : AtomSpace) :
    AtomSpaceRun (some s) (some (patterns.foldl
      (fun s pattern => (opencogAddNode s .conceptNode (some pattern.patternName)).1) s)) := by
  induction patterns generalizing s with
  | nil => exact .refl _
  | cons pattern rest ih => exact (@AtomSpaceRun.addNode s .conceptNode rfl _).trans (ih _)

theorem follows_coordinate (system : Phase3SelfModificationSystem) :
    system.Follows (phase3CoordinateWithPhase2 system) := by
  unfold phase3CoordinateWithPhase2
  split
  · exact .refl system
  · next s present =>
    exact ⟨fun wf => { wf with }, RulesEvolve.refl _, fun _ log run => ⟨log, run⟩,
      present ▸ atomSpaceRun_addPatterns _ s⟩

theorem follows_updateSystemState (system : Phase3SelfModificationSystem) (env : Environment) :
    system.Follows (phase3UpdateSystemState system env).1 :=
  ((follows_analyze system env).trans (follows_maintain _ _)).trans
    ((follows_withConsensus _ _ fun _ log run =>
      ⟨log, consensusRun_checkConsensusSlots _ _ _ log run⟩).trans (follows_coordinate _))

/-- Every call keeps the invariant and evolves the rules. -/
theorem follows_step (system : Phase3SelfModificationSystem) (env : Environment) (op : Phase3Op) :
    system.Follows (system.step env op).1 := by
  cases op with
  | createEvolutionRule description modType activationThreshold =>
    exact follows_create system env description modType activationThreshold
  | executeSelfModification ruleId => exact follows_execute system env ruleId
  | evolveRules => exact follows_evolve system env
  | recursiveSelfImprovement => exact follows_recursive system env
  | detectEmergentBehavior agentIds => exact follows_detect system env agentIds
  | analyzeBehavioralPatterns => exact follows_analyze system env
  | addCoherenceMetric metricName targetValue tolerance =>
    exact follows_addMetric system metricName targetValue tolerance
  | updateCoherenceMetrics => exact follows_updateMetrics system env
  | maintainGlobalCoherence => exact follows_maintain system env
  | coordinateWithPhase2 => exact follows_coordinate system
  | updateSystemState => exact follows_updateSystemState system env
  | initiateConsensus topic participants =>
    exact follows_withConsensus system _ fun _ log run => ⟨log, run.initiate topic participants _⟩
  | consensusVote consensusId agentId agreement =>
    exact follows_withConsensus system _ fun _ _ run => ⟨_, run.vote consensusId agentId agreement⟩
  | checkConsensusStatus consensusId =>
    exact follows_withConsensus system _ fun _ log run => ⟨log, run.check consensusId _⟩

/-- Along every run the invariant is kept and the rules evolve. -/
theorem follows_of_run {a b : Phase3SelfModificationSystem × Environment} (run : Phase3Run a b) :
    a.1.Follows b.1 := by
  induction run with
  | refl => exact .refl _
  | tail _ step follows =>
    obtain ⟨op, rfl⟩ := step
    exact follows.trans (follows_step _ _ op)

/-- Every reachable system is well formed. -/
theorem Reachable.wf (reachable : system.Reachable) : system.Wf := by
  obtain ⟨mosesSystem, atomspace, distributedArch, env, env', run⟩ := reachable
  exact (follows_of_run run).wf (wf_phase3InitSystem mosesSystem atomspace distributedArch)

/-! ## The execution counters -/

/-- A system whose executions since clock position `start` were counted without wrapping:
each read the clock once, successes never outnumber executions, and the improvement rate is in
`[-1, 1]`. -/
structure Counted (start : Nat) (system : Phase3SelfModificationSystem) (env : Environment) :
    Prop where
  wf : system.Wf
  successful_le : system.successfulModifications.toNat ≤ system.totalModifications.toNat
  total_le : start + system.totalModifications.toNat ≤ env.clockPos
  rate_ge : -1 ≤ system.systemImprovementRate
  rate_le : system.systemImprovementRate ≤ 1

/-- What a call does to the counters, seen from clock position `start`: the clock only moves
forward, and a counted system stays counted while the clock stays below `start + 2 ^ 32`. -/
structure Counts (start : Nat) (a b : Phase3SelfModificationSystem × Environment) : Prop where
  clock_le : a.2.clockPos ≤ b.2.clockPos
  counted : b.2.clockPos < start + 2 ^ 32 → a.1.Counted start a.2 → b.1.Counted start b.2

/-- A call that leaves both counters and the rate alone and only moves the clock forward. -/
structure Frame (a b : Phase3SelfModificationSystem × Environment) : Prop where
  clock_le : a.2.clockPos ≤ b.2.clockPos
  total : b.1.totalModifications = a.1.totalModifications
  successful : b.1.successfulModifications = a.1.successfulModifications
  rate : b.1.systemImprovementRate = a.1.systemImprovementRate

variable {start : Nat} {a b c : Phase3SelfModificationSystem × Environment}

theorem Counts.refl (start : Nat) (a : Phase3SelfModificationSystem × Environment) :
    Counts start a a :=
  ⟨le_rfl, fun _ => id⟩

theorem Counts.trans (first : Counts start a b) (second : Counts start b c) : Counts start a c :=
  ⟨first.clock_le.trans second.clock_le, fun below counted =>
    second.counted below (first.counted (second.clock_le.trans_lt below) counted)⟩

theorem Frame.refl (a : Phase3SelfModificationSystem × Environment) : Frame a a :=
  ⟨le_rfl, rfl, rfl, rfl⟩

theorem Frame.trans (first : Frame a b) (second : Frame b c) : Frame a c :=
  ⟨first.clock_le.trans second.clock_le, second.total.trans first.total,
    second.successful.trans first.successful, second.rate.trans first.rate⟩

/-- A call that keeps the invariant and the counters keeps a system counted. -/
theorem Counts.of_frame (follows : a.1.Follows b.1) (frame : Frame a b) : Counts start a b :=
  ⟨frame.clock_le, fun _ counted =>
    ⟨follows.wf counted.wf, frame.successful ▸ frame.total ▸ counted.successful_le,
      frame.total ▸ counted.total_le.trans frame.clock_le, frame.rate ▸ counted.rate_ge,
      frame.rate ▸ counted.rate_le⟩⟩

theorem frame_create (system : Phase3SelfModificationSystem) (env : Environment)
    (description : CString) (modType : SelfModificationType) (activationThreshold : ℚ) :
    Frame (system, env)
      ((phase3CreateEvolutionRule system env description modType activationThreshold).1,
        (phase3CreateEvolutionRule system env description modType activationThreshold).2.1) := by
  rcases phase3CreateEvolutionRule_cases system env description modType activationThreshold
    with same | ⟨-, created⟩
  · rw [same]; exact .refl _
  · rw [created]; exact ⟨Nat.le_succ _, rfl, rfl, rfl⟩

theorem frame_detect (system : Phase3SelfModificationSystem) (env : Environment)
    (agentIds : Option (List Nat)) :
    Frame (system, env) ((phase3DetectEmergentBehavior system env agentIds).1,
      (phase3DetectEmergentBehavior system env agentIds).2.1) := by
  unfold phase3DetectEmergentBehavior
  split
  · exact .refl _
  · split
    · exact .refl _
    · split
      · exact .refl _
      · exact ⟨Nat.le_succ _, rfl, rfl, rfl⟩

theorem frame_evolve (system : Phase3SelfModificationSystem) (env : Environment) :
    Frame (system, env) (phase3EvolveRules system env) := by
  dsimp only [phase3EvolveRules]
  split
  · refine .trans ?_ (frame_create _ _ _ _ _)
    exact ⟨le_rfl, rfl, rfl, rfl⟩
  · exact ⟨le_rfl, rfl, rfl, rfl⟩

theorem frame_addMetric (system : Phase3SelfModificationSystem) (env : Environment)
    (metricName : Option CString) (targetValue tolerance : ℚ) :
    Frame (system, env) ((phase3AddCoherenceMetric system metricName targetValue tolerance).1, env) := by
  rcases phase3AddCoherenceMetric_cases system metricName targetValue tolerance with
    same | ⟨-, _, -, -, added⟩
  · rw [same]; exact .refl _
  · rw [added]; exact ⟨le_rfl, rfl, rfl, rfl⟩

theorem frame_maintainMetric (acc : Phase3SelfModificationSystem × Environment × Bool) (i : Nat) :
    Frame (acc.1, acc.2.1) ((maintainMetric acc i).1, (maintainMetric acc i).2.1) := by
  unfold maintainMetric
  split
  · exact .refl _
  next metric _ =>
  split
  · exact .refl _
  dsimp only
  split
  · refine .trans ?_ ((frame_create
      { acc.1 with coherenceMetrics := acc.1.coherenceMetrics.set i metric.correct } acc.2.1
      (correctorDescription metric.metricName) .behaviorAdaptation 0.5).trans ?_)
    · exact ⟨le_rfl, rfl, rfl, rfl⟩
    · split <;> exact ⟨le_rfl, rfl, rfl, rfl⟩
  · exact ⟨le_rfl, rfl, rfl, rfl⟩

theorem frame_maintainSlots :
    ∀ (slots : List Nat) (acc : Phase3SelfModificationSystem × Environment × Bool),
      Frame (acc.1, acc.2.1) ((slots.foldl maintainMetric acc).1, (slots.foldl maintainMetric acc).2.1)
  | [], _ => .refl _
  | i :: rest, acc => (frame_maintainMetric acc i).trans (frame_maintainSlots rest _)

theorem frame_maintain (system : Phase3SelfModificationSystem) (env : Environment) :
    Frame (system, env) ((phase3MaintainGlobalCoherence system env).1,
      (phase3MaintainGlobalCoherence system env).2.1) :=
  let updated := phase3UpdateCoherenceMetrics system env
  (⟨le_rfl, rfl, rfl, rfl⟩ : Frame (system, env) updated).trans
    (frame_maintainSlots (List.range updated.1.coherenceMetrics.length) (updated.1, updated.2, true))

/-- The consensus checks read the clock once each and change only the consensus table. -/
theorem frame_checkConsensusSlots (system : Phase3SelfModificationSystem) :
    ∀ (slots : List Nat) (consensus : Phase3System) (env : Environment),
      Frame (system, env) ({ system with consensus := (checkConsensusSlots slots consensus env).1 },
        (checkConsensusSlots slots consensus env).2)
  | [], _, _ => ⟨le_rfl, rfl, rfl, rfl⟩
  | k :: rest, consensus, env =>
    let next := frame_checkConsensusSlots system rest
      (phase3CheckConsensusStatus consensus (k + 1) env.now).1 env.tick
    ⟨(Nat.le_succ _).trans next.clock_le, rfl, rfl, rfl⟩

theorem frame_coordinate (system : Phase3SelfModificationSystem) (env : Environment) :
    Frame (system, env) (phase3CoordinateWithPhase2 system, env) := by
  unfold phase3CoordinateWithPhase2
  split <;> exact ⟨le_rfl, rfl, rfl, rfl⟩

theorem frame_updateSystemState (system : Phase3SelfModificationSystem) (env : Environment) :
    Frame (system, env) (phase3UpdateSystemState system env) :=
  let analyzed := phase3AnalyzeBehavioralPatterns system env
  let maintained := phase3MaintainGlobalCoherence analyzed.1 analyzed.2
  (⟨Nat.le_add_right _ _, rfl, rfl, rfl⟩ : Frame (system, env) analyzed).trans
    ((frame_maintain analyzed.1 analyzed.2).trans
      ((frame_checkConsensusSlots maintained.1 _ maintained.1.consensus maintained.2.1).trans
        (frame_coordinate _ _)))

/-- The switch of an execution moves the clock forward only. -/
theorem runSelfModification_clock (system : Phase3SelfModificationSystem) (env : Environment)
    (type : SelfModificationType) : env.clockPos ≤ (runSelfModification system env type).2.1.clockPos := by
  cases type with
  | ruleCreation => dsimp only [runSelfModification]; split <;> exact le_rfl
  | behaviorAdaptation => exact Nat.le_add_right _ _
  | _ => exact le_rfl

/-- An execution counts itself and its success once each and reads the clock once. -/
theorem counts_execute (system : Phase3SelfModificationSystem) (env : Environment) (ruleId : Nat)
    (start : Nat) :
    Counts start (system, env) ((phase3ExecuteSelfModification system env ruleId).1,
      (phase3ExecuteSelfModification system env ruleId).2.1) := by
  have follows := follows_execute system env ruleId
  rcases phase3ExecuteSelfModification_cases system env ruleId with same | ⟨rule, -, -, executed⟩
  · rw [same]; exact .refl start _
  rw [executed] at follows ⊢
  have clock := runSelfModification_clock
    { system with totalModifications := system.totalModifications + 1 } env rule.modType
  obtain ⟨_, _, -, -, done⟩ := runSelfModification_eq
    { system with totalModifications := system.totalModifications + 1 } env rule.modType
  rw [done] at follows ⊢
  generalize (runSelfModification _ env rule.modType).2.1 = env' at clock ⊢
  generalize (runSelfModification _ env rule.modType).2.2 = success at follows ⊢
  refine ⟨Nat.le_succ_of_le clock, fun below counted => ?_⟩
  have total : start + system.totalModifications.toNat ≤ env.clockPos := counted.total_le
  have successful : system.successfulModifications.toNat ≤ system.totalModifications.toNat :=
    counted.successful_le
  have reads : env'.clockPos + 1 < start + 2 ^ 32 := below
  have next := uint32_toNat_add_one (n := system.totalModifications) (by omega)
  refine ⟨follows.wf counted.wf, ?_, ?_, counted.rate_ge, counted.rate_le⟩
  · dsimp only
    split
    · rw [uint32_toNat_add_one (by omega), next]; omega
    · rw [next]; omega
  · show start + (system.totalModifications + 1).toNat ≤ env'.clockPos + 1
    rw [next]; omega

theorem counts_improveRules (start : Nat) :
    ∀ (slots : List Nat) (system : Phase3SelfModificationSystem) (env : Environment)
      (improved : Bool), Counts start (system, env)
        ((improveRules slots system env improved).1, (improveRules slots system env improved).2.1)
  | [], _, _, _ => .refl start _
  | i :: rest, system, env, improved => by
    unfold improveRules
    split
    · split
      · exact (counts_execute _ _ _ start).trans (counts_improveRules start rest _ _ _)
      · exact counts_improveRules start rest _ _ _
    · exact counts_improveRules start rest _ _ _

/-- The recursive self-improvement keeps the counters, and sets the rate to the difference of two
performances in `[0, 1]`. -/
theorem counts_recursive (system : Phase3SelfModificationSystem) (env : Environment) (start : Nat) :
    Counts start (system, env) ((phase3RecursiveSelfImprovement system env).1,
      (phase3RecursiveSelfImprovement system env).2.1) := by
  dsimp only [phase3RecursiveSelfImprovement]
  set improved := improveRules (List.range system.evolutionRules.length) system env false
  have counts : Counts start (system, env) (phase3EvolveRules improved.1 improved.2.1) :=
    (counts_improveRules start _ system env false).trans
      (.of_frame (follows_evolve _ _) (frame_evolve _ _))
  refine ⟨counts.clock_le, fun below counted => ?_⟩
  have after := counts.counted below counted
  have before : 0 ≤ phase3MeasureSystemPerformance system ∧
      phase3MeasureSystemPerformance system ≤ 1 :=
    counted.wf.measure_mem_unit counted.successful_le
  have now := after.wf.measure_mem_unit after.successful_le
  exact ⟨after.wf.withRate _, after.successful_le, after.total_le,
    show -1 ≤ _ - phase3MeasureSystemPerformance system by linarith only [now.1, before.2],
    show _ - phase3MeasureSystemPerformance system ≤ 1 by linarith only [now.2, before.1]⟩

/-- Every call keeps the counters. -/
theorem counts_step (system : Phase3SelfModificationSystem) (env : Environment) (op : Phase3Op)
    (start : Nat) : Counts start (system, env) (system.step env op) := by
  cases op with
  | executeSelfModification ruleId => exact counts_execute system env ruleId start
  | recursiveSelfImprovement => exact counts_recursive system env start
  | createEvolutionRule description modType activationThreshold =>
    exact .of_frame (follows_create _ _ _ _ _) (frame_create _ _ _ _ _)
  | evolveRules => exact .of_frame (follows_evolve _ _) (frame_evolve _ _)
  | detectEmergentBehavior agentIds => exact .of_frame (follows_detect _ _ _) (frame_detect _ _ _)
  | analyzeBehavioralPatterns =>
    exact .of_frame (follows_analyze _ _) ⟨Nat.le_add_right _ _, rfl, rfl, rfl⟩
  | addCoherenceMetric metricName targetValue tolerance =>
    exact .of_frame (follows_addMetric _ _ _ _) (frame_addMetric _ _ _ _ _)
  | updateCoherenceMetrics => exact .of_frame (follows_updateMetrics _ _) ⟨le_rfl, rfl, rfl, rfl⟩
  | maintainGlobalCoherence => exact .of_frame (follows_maintain _ _) (frame_maintain _ _)
  | coordinateWithPhase2 => exact .of_frame (follows_coordinate _) (frame_coordinate _ _)
  | updateSystemState =>
    exact .of_frame (follows_updateSystemState _ _) (frame_updateSystemState _ _)
  | initiateConsensus topic participants =>
    refine .of_frame (follows_step _ _ _) ⟨?_, rfl, rfl, rfl⟩
    dsimp only [step]
    split <;> simp [Environment.tick]
  | consensusVote consensusId agentId agreement =>
    exact .of_frame (follows_step _ _ _) ⟨le_rfl, rfl, rfl, rfl⟩
  | checkConsensusStatus consensusId =>
    refine .of_frame (follows_step _ _ _) ⟨?_, rfl, rfl, rfl⟩
    dsimp only [step]
    split <;> simp [Environment.tick]

/-- Along every run the counters are kept. -/
theorem counts_of_run (run : Phase3Run a b) (start : Nat) : Counts start a b := by
  induction run with
  | refl => exact .refl start _
  | tail _ step counts =>
    obtain ⟨op, rfl⟩ := step
    exact counts.trans (counts_step _ _ op start)

end Phase3SelfModificationSystem

/-! ## Every run -/

section Runs

variable {system : Phase3SelfModificationSystem}

/-- The system and environment after a sequence of calls. -/
def Phase3SelfModificationSystem.runCalls (start : Phase3SelfModificationSystem × Environment)
    (ops : List Phase3Op) : Phase3SelfModificationSystem × Environment :=
  ops.foldl (fun a op => a.1.step a.2 op) start

/-- A sequence of calls is a run. -/
theorem phase3Run_runCalls :
    ∀ (start : Phase3SelfModificationSystem × Environment) (ops : List Phase3Op),
      Phase3Run start (Phase3SelfModificationSystem.runCalls start ops)
  | _, [] => .refl
  | start, op :: ops =>
    .head ⟨op, rfl⟩ (phase3Run_runCalls (start.1.step start.2 op) ops)

/-- Every `rand()` and clock reading 0. -/
def quietEnvironment : Environment := ⟨fun _ => 0, fun _ => 0, 0, 0⟩

/-- The opening calls of `test-phase3-self-modification`: a mutation rule, a pattern of four
agents, and the `NetworkStability` metric, then one coherence maintenance, whose noise of -0.1
takes the metric out of its tolerance of 0.05. -/
def testCalls : List Phase3Op :=
  [.createEvolutionRule (cstr "RuleImprover") .ruleMutation 0.6,
   .detectEmergentBehavior (some [5001, 5002, 5003, 5004]),
   .addCoherenceMetric (some (cstr "NetworkStability")) 0.9 0.05,
   .maintainGlobalCoherence]

/-- The system after `testCalls` from a fresh AtomSpace. -/
def testSystem : Phase3SelfModificationSystem :=
  (Phase3SelfModificationSystem.runCalls
    (phase3InitSystem true (some opencogAtomspaceInit) true, quietEnvironment) testCalls).1

/-- The metric after one out-of-bounds update and its correction. -/
def testMetric : CoherenceMetric where
  metricName := copyName phase3NameSize (cstr "NetworkStability")
  currentValue := 0.81
  targetValue := 0.9
  tolerance := 0.05
  isWithinBounds := false
  historyBuffer := [0.8]
  historyCapacity := metricHistoryCapacity
  correctionRuleId := 2
  correctionStrength := 0.1

/-- `testCalls` reach `testSystem` from `phase3_init_system`. -/
theorem testSystem_reachable : testSystem.Reachable :=
  ⟨true, some opencogAtomspaceInit, true, quietEnvironment, _,
    phase3Run_runCalls (phase3InitSystem true (some opencogAtomspaceInit) true, quietEnvironment)
      testCalls⟩

/-- The three tables after `testCalls`: the maintenance created rule 2 for the metric. -/
theorem testSystem_tables :
    testSystem.evolutionRules =
        [newEvolutionRule 1 (cstr "RuleImprover") .ruleMutation 0.6,
         newEvolutionRule 2 (correctorDescription (copyName phase3NameSize (cstr "NetworkStability")))
           .behaviorAdaptation 0.5] ∧
      testSystem.behaviorPatterns = [newBehaviorPattern 1 4 0 0 0] ∧
      testSystem.coherenceMetrics = [testMetric] := by
  norm_num [testSystem, testCalls, Phase3SelfModificationSystem.runCalls,
    Phase3SelfModificationSystem.step, phase3CreateEvolutionRule, phase3InitSystem,
    phase3MaxEvolutionRules, phase3DetectEmergentBehavior, phase3MaxBehavioralPatterns,
    phase3AddCoherenceMetric, phase3MaxCoherenceMetrics, phase3MaintainGlobalCoherence,
    phase3UpdateCoherenceMetrics, updateMetrics, CoherenceMetric.update, maintainMetric,
    Phase3SelfModificationSystem.linkCorrection, CoherenceMetric.correct, quietEnvironment,
    metricNoise, List.range_succ, abs_le, Environment.draw, Environment.tick, Environment.now,
    List.cons_ne_nil, testMetric, recordHistory, metricHistoryCapacity]

/-- In every run from `phase3_init` that reads the clock fewer than `2 ^ 32` times, the two
`uint32_t` counters have not wrapped: there were no more executions than clock readings and no
more successes than executions, `phase3_measure_system_performance` is in `[0, 1]` and the
improvement rate in `[-1, 1]`. -/
theorem performance_in_unit_interval {mosesSystem distributedArch : Bool}
    {atomspace : Option AtomSpace} {env env' : Environment}
    (run : Phase3Run (phase3InitSystem mosesSystem atomspace distributedArch, env) (system, env'))
    (reads : env'.clockPos < env.clockPos + 2 ^ 32) :
    0 ≤ phase3MeasureSystemPerformance system ∧ phase3MeasureSystemPerformance system ≤ 1 ∧
      -1 ≤ system.systemImprovementRate ∧ system.systemImprovementRate ≤ 1 ∧
      system.successfulModifications.toNat ≤ system.totalModifications.toNat ∧
      system.totalModifications.toNat ≤ env'.clockPos - env.clockPos := by
  have counted : system.Counted env.clockPos env' :=
    (Phase3SelfModificationSystem.counts_of_run run env.clockPos).counted reads
      ⟨Phase3SelfModificationSystem.wf_phase3InitSystem mosesSystem atomspace distributedArch,
        le_rfl, le_rfl, by norm_num [phase3InitSystem], by norm_num [phase3InitSystem]⟩
  have performance := counted.wf.measure_mem_unit counted.successful_le
  have total := counted.total_le
  exact ⟨performance.1, performance.2, counted.rate_ge, counted.rate_le, counted.successful_le,
    by omega⟩

/-- A mutation rule created, executed twice and then improved recursively, with a MOSES system
present: every execution succeeds. -/
def executionCalls : List Phase3Op :=
  [.createEvolutionRule (cstr "RuleImprover") .ruleMutation 0.6, .executeSelfModification 1,
   .executeSelfModification 1, .recursiveSelfImprovement]

/-- The system and environment after `executionCalls`. -/
def executedRun : Phase3SelfModificationSystem × Environment :=
  Phase3SelfModificationSystem.runCalls (phase3InitSystem true none true, quietEnvironment)
    executionCalls

/-- The run reads the clock four times, once per rule creation and execution. -/
theorem executedRun_clockPos : executedRun.2.clockPos = 4 := by
  with_unfolding_all decide

/-- Three executions within four clock readings: the counters and the performance measure as
every such run has them. -/
theorem executedRun_performance :
    Phase3Run (phase3InitSystem true none true, quietEnvironment) (executedRun.1, executedRun.2) ∧
      executedRun.2.clockPos < quietEnvironment.clockPos + 2 ^ 32 ∧
      0 ≤ phase3MeasureSystemPerformance executedRun.1 ∧
      phase3MeasureSystemPerformance executedRun.1 ≤ 1 ∧
      -1 ≤ executedRun.1.systemImprovementRate ∧ executedRun.1.systemImprovementRate ≤ 1 ∧
      executedRun.1.successfulModifications.toNat ≤ executedRun.1.totalModifications.toNat ∧
      executedRun.1.totalModifications.toNat ≤ executedRun.2.clockPos - quietEnvironment.clockPos :=
  have run := phase3Run_runCalls (phase3InitSystem true none true, quietEnvironment) executionCalls
  have reads : executedRun.2.clockPos < quietEnvironment.clockPos + 2 ^ 32 := by
    rw [executedRun_clockPos]; decide
  ⟨run, reads, performance_in_unit_interval run reads⟩

/-- In a well-formed system the rule in slot `k` has id `k + 1`. -/
theorem Phase3SelfModificationSystem.Wf.ruleId_of_getElem? (wf : system.Wf) {k : Nat}
    {rule : MetaEvolutionRule} (found : system.evolutionRules[k]? = some rule) :
    rule.ruleId = k + 1 := by
  have ids := congrArg (·[k]?) wf.ruleIds
  have inside := (List.getElem?_eq_some_iff.1 found).1
  simp only [List.getElem?_map, found, Option.map_some', List.getElem?_range' _ _ inside] at ids
  simpa [Nat.add_comm] using ids

/-- In every reachable system the rule in slot `k` has id `k + 1`, effectiveness and stability
in `[0, 1]` and novelty in `[0.1, 1]`. -/
theorem rules_numbered_and_scored (reachable : system.Reachable) {k : Nat}
    {rule : MetaEvolutionRule} (found : system.evolutionRules[k]? = some rule) :
    rule.ruleId = k + 1 ∧ 0 ≤ rule.effectivenessScore ∧ rule.effectivenessScore ≤ 1 ∧
      0 ≤ rule.stabilityScore ∧ rule.stabilityScore ≤ 1 ∧
      0.1 ≤ rule.noveltyScore ∧ rule.noveltyScore ≤ 1 := by
  have wf := reachable.wf
  have scored := wf.scored rule (List.mem_iff_getElem?.2 ⟨k, found⟩)
  exact ⟨wf.ruleId_of_getElem? found, scored.1, scored.2, scored.3, scored.4, scored.5,
    scored.6⟩

/-- The rule the test run's maintenance created for `NetworkStability`. -/
def testCorrector : MetaEvolutionRule :=
  newEvolutionRule 2 (correctorDescription (copyName phase3NameSize (cstr "NetworkStability")))
    .behaviorAdaptation 0.5

/-- The corrector created by the test system has the next rule id and scores in range. -/
theorem testCorrector_numbered :
    testSystem.Reachable ∧ testSystem.evolutionRules[1]? = some testCorrector ∧
      testCorrector.ruleId = 1 + 1 ∧ 0 ≤ testCorrector.effectivenessScore ∧
      testCorrector.effectivenessScore ≤ 1 ∧ 0 ≤ testCorrector.stabilityScore ∧
      testCorrector.stabilityScore ≤ 1 ∧ 0.1 ≤ testCorrector.noveltyScore ∧
      testCorrector.noveltyScore ≤ 1 :=
  have found : testSystem.evolutionRules[1]? = some testCorrector := by
    rw [testSystem_tables.1]; rfl
  ⟨testSystem_reachable, found, rules_numbered_and_scored testSystem_reachable found⟩

/-- A deactivated rule is never changed again: along every run it stays in its slot with every
field as it was. -/
theorem deactivated_rule_frozen {a b : Phase3SelfModificationSystem × Environment}
    (run : Phase3Run a b) {k : Nat} {rule : MetaEvolutionRule}
    (found : a.1.evolutionRules[k]? = some rule) (inactive : rule.isActive = false) :
    b.1.evolutionRules[k]? = some rule :=
  (Phase3SelfModificationSystem.follows_of_run run).rules.frozen k rule found inactive

/-- A pruning rule that failed until it was deactivated. -/
def retiredRule : MetaEvolutionRule :=
  { newEvolutionRule 1 (cstr "SystemPruner") .archPruning 0.9 with
    effectivenessScore := 0.1, isActive := false }

/-- A system holding only `retiredRule`. -/
def retiredSystem : Phase3SelfModificationSystem :=
  { phase3InitSystem true none true with evolutionRules := [retiredRule] }

/-- A retired rule survives a round of recursive self-improvement. -/
theorem retiredRule_survives_improvement :
    Phase3Run (retiredSystem, quietEnvironment)
        (retiredSystem.step quietEnvironment .recursiveSelfImprovement) ∧
      retiredSystem.evolutionRules[0]? = some retiredRule ∧ retiredRule.isActive = false ∧
      (retiredSystem.step quietEnvironment .recursiveSelfImprovement).1.evolutionRules[0]? =
        some retiredRule :=
  have run : Phase3Run (retiredSystem, quietEnvironment)
      (retiredSystem.step quietEnvironment .recursiveSelfImprovement) := .single ⟨_, rfl⟩
  ⟨run, rfl, rfl, deactivated_rule_frozen run rfl rfl⟩

/-- In every reachable system a metric's nonzero correction id is the id of a
behaviour-adaptation rule with activation threshold 0.5 described
`CoherenceCorrector_<metric name>`. -/
theorem correction_rule_matches_metric (reachable : system.Reachable)
    {metric : CoherenceMetric} (mem : metric ∈ system.coherenceMetrics)
    (linked : metric.correctionRuleId ≠ 0) :
    ∃ rule, system.evolutionRules[metric.correctionRuleId - 1]? = some rule ∧
      rule.ruleId = metric.correctionRuleId ∧ rule.modType = .behaviorAdaptation ∧
      rule.activationThreshold = 0.5 ∧
      rule.description = correctorDescription metric.metricName := by
  have wf := reachable.wf
  rcases wf.corrections metric mem with unlinked | named
  · exact absurd unlinked linked
  rw [List.getElem?_map] at named
  obtain ⟨rule, found, role⟩ := Option.map_eq_some'.1 named
  simp only [MetaEvolutionRule.role, Prod.mk.injEq] at role
  have numbered := wf.ruleId_of_getElem? found
  exact ⟨rule, found, by omega, role.1, role.2.1, role.2.2⟩

/-- The test system's metric points at its behaviour-adaptation corrector. -/
theorem testMetric_corrector :
    testSystem.Reachable ∧ testMetric ∈ testSystem.coherenceMetrics ∧
      testMetric.correctionRuleId ≠ 0 ∧
      ∃ rule, testSystem.evolutionRules[testMetric.correctionRuleId - 1]? = some rule ∧
        rule.ruleId = testMetric.correctionRuleId ∧ rule.modType = .behaviorAdaptation ∧
        rule.activationThreshold = 0.5 ∧
        rule.description = correctorDescription testMetric.metricName :=
  have mem : testMetric ∈ testSystem.coherenceMetrics := by
    rw [testSystem_tables.2.2]; exact List.mem_singleton_self _
  have linked : testMetric.correctionRuleId ≠ 0 := by decide
  ⟨testSystem_reachable, mem, linked,
    correction_rule_matches_metric testSystem_reachable mem linked⟩

/-- In every reachable system each pattern's generation is in `[1, 10]`, its coherence in
`[0.7, 1]`, its fitness that of its current characteristics, and it is flagged beneficial
exactly when that fitness exceeds 0.6. -/
theorem patterns_stay_settled (reachable : system.Reachable)
    {pattern : EmergentBehaviorPattern} (mem : pattern ∈ system.behaviorPatterns) :
    1 ≤ pattern.generation ∧ pattern.generation ≤ 10 ∧
      0.7 ≤ pattern.coherenceLevel ∧ pattern.coherenceLevel ≤ 1 ∧
      pattern.fitnessScore = calculateFitnessScore pattern.emergenceStrength
        pattern.coherenceLevel (min 1 (pattern.stabilityDuration / 10000)) ∧
      (pattern.isBeneficial = true ↔ 0.6 < pattern.fitnessScore) := by
  have settled := reachable.wf.patterns pattern mem
  exact ⟨settled.1, settled.2, settled.3, settled.4, settled.5, by simp [settled.6]⟩

/-- The pattern the test run detected for four agents. -/
def testPattern : EmergentBehaviorPattern := newBehaviorPattern 1 4 0 0 0

/-- The test system's behaviour pattern is settled: generation, coherence and fitness in range. -/
theorem testPattern_settled :
    testSystem.Reachable ∧ testPattern ∈ testSystem.behaviorPatterns ∧
      1 ≤ testPattern.generation ∧ testPattern.generation ≤ 10 ∧
      0.7 ≤ testPattern.coherenceLevel ∧ testPattern.coherenceLevel ≤ 1 ∧
      testPattern.fitnessScore = calculateFitnessScore testPattern.emergenceStrength
        testPattern.coherenceLevel (min 1 (testPattern.stabilityDuration / 10000)) ∧
      (testPattern.isBeneficial = true ↔ 0.6 < testPattern.fitnessScore) :=
  have mem : testPattern ∈ testSystem.behaviorPatterns := by
    rw [testSystem_tables.2.1]; exact List.mem_singleton_self _
  ⟨testSystem_reachable, mem, patterns_stay_settled testSystem_reachable mem⟩

/-- The consensus table of every reachable system is one the consensus calls alone reach, so
each protocol's levels are its counts of accepted votes over its participant count; this covers
the checks `phase3_update_system_state` makes. -/
theorem consensus_levels_count_votes (reachable : system.Reachable) :
    ∃ log, ConsensusRun phase3Init log system.consensus ∧ system.consensus.Tally log := by
  obtain ⟨mosesSystem, atomspace, distributedArch, env, env', run⟩ := reachable
  obtain ⟨log, consensusRun⟩ := (Phase3SelfModificationSystem.follows_of_run run).consensus
    phase3Init [] .refl
  exact ⟨log, consensusRun, consensusRun.tally phase3Init_tally⟩

/-- A protocol opened over two agents, one vote from each, and a check. -/
def votingCalls : List Phase3Op :=
  [.initiateConsensus (some (cstr "ExpandCognitiveCapabilities")) (some [5001, 5002]),
   .consensusVote 1 5001 true, .consensusVote 1 5002 false, .checkConsensusStatus 1]

/-- The system after `votingCalls` from `phase3_init`. -/
def votingSystem : Phase3SelfModificationSystem :=
  (Phase3SelfModificationSystem.runCalls (phase3InitSystem true none true, quietEnvironment)
    votingCalls).1

/-- The consensus table of the voting run counts its two votes. -/
theorem votingSystem_consensus_tally : votingSystem.Reachable ∧
    ∃ log, ConsensusRun phase3Init log votingSystem.consensus ∧ votingSystem.consensus.Tally log :=
  have reachable : votingSystem.Reachable :=
    ⟨true, none, true, quietEnvironment, _, phase3Run_runCalls _ votingCalls⟩
  ⟨reachable, consensus_levels_count_votes reachable⟩

/-- A system given a fresh AtomSpace only ever writes it through well-typed AtomSpace calls: in
every reachable state its AtomSpace is reached from `opencog_atomspace_init` by a run of typed
calls, and keeps the AtomSpace invariant, so everything the AtomSpace model proves of such runs
holds of it. -/
theorem phase3_atomspace_well_formed {mosesSystem distributedArch : Bool}
    {env env' : Environment}
    (run : Phase3Run (phase3InitSystem mosesSystem (some opencogAtomspaceInit) distributedArch, env)
      (system, env')) :
    ∃ s, system.atomspace = some s ∧ opencogAtomspaceInit.TypedRun s ∧ s.Wf := by
  obtain ⟨s, found, typed⟩ := (Phase3SelfModificationSystem.follows_of_run run).atomspace
  exact ⟨s, found, typed, typed.run.wf wf_init⟩

/-- A rule-creation rule created and executed, which adds the concept `SelfGeneratedRule`, then a
pattern detected and the beneficial patterns coordinated into the AtomSpace. -/
def writingCalls : List Phase3Op :=
  [.createEvolutionRule (cstr "SelfGenerator") .ruleCreation 0.5, .executeSelfModification 1,
   .detectEmergentBehavior (some [5001, 5002, 5003, 5004, 5005, 5006, 5007]),
   .coordinateWithPhase2]

/-- The system and environment after `writingCalls` from a fresh AtomSpace. -/
def writingRun : Phase3SelfModificationSystem × Environment :=
  Phase3SelfModificationSystem.runCalls
    (phase3InitSystem true (some opencogAtomspaceInit) true, quietEnvironment) writingCalls

/-- The AtomSpace the writing run leaves is reached by typed calls and well formed. -/
theorem writingRun_atomspace :
    Phase3Run (phase3InitSystem true (some opencogAtomspaceInit) true, quietEnvironment)
        (writingRun.1, writingRun.2) ∧
      ∃ s, writingRun.1.atomspace = some s ∧ opencogAtomspaceInit.TypedRun s ∧ s.Wf :=
  have run := phase3Run_runCalls
    (phase3InitSystem true (some opencogAtomspaceInit) true, quietEnvironment) writingCalls
  ⟨run, phase3_atomspace_well_formed run⟩

end Runs

/-- Recording values one after another into an empty history of positive capacity keeps exactly
the last `capacity` of them, oldest first: the `memmove` shift of
`phase3_update_coherence_metrics` is a sliding window. -/
theorem recordHistory_keeps_last {capacity : Nat} (positive : 0 < capacity) (values : List ℚ) :
    values.foldl (recordHistory capacity) [] = values.drop (values.length - capacity) := by
  induction values using List.reverseRecOn with
  | nil => simp
  | append_singleton values value ih =>
    rw [List.foldl_append, ih, List.foldl_cons, List.foldl_nil, List.length_append,
      List.length_singleton]
    unfold recordHistory
    rw [List.length_drop]
    split
    · rw [Nat.sub_eq_zero_of_le (by omega), Nat.sub_eq_zero_of_le (by omega)]
      simp
    · rw [List.tail_drop, List.drop_append_of_le_length (by omega)]
      congr 2
      omega

/-- A history of length 2 keeps the last two of three records. -/
theorem recordHistory_keeps_last_two :
    0 < 2 ∧ [0.5, 0.7, 0.6].foldl (recordHistory 2) [] = [0.5, 0.7, 0.6].drop (3 - 2) :=
  ⟨by decide, recordHistory_keeps_last (by decide) _⟩

end Coggml

import Coggml.Distributed.Architecture
import Mathlib.Algebra.Order.BigOperators.Group.List
import Mathlib.Data.Rat.Sqrt
/-!
# Coherence and the meta-cognitive dashboard

`cogfluence_compute_coherence` stores and returns the mean pairwise similarity of the knowledge
units: the cosine of their encodings, or 0.5 or 0.1 by type when the cosine is undefined.
`dashboard_compute_coherence` averages it with the mean live strength and the kernel's constant
0.7; `dashboard_update` stores the Cogfluence value as `global_coherence`. A cosine can be
negative, so neither value stays in `[0, 1]` on every run (`opposedUnits_negative_coherence`);
both do when the similarities, the stored coherence and the live strengths do
(`dashboard_coherence_in_unit_range`). `sqrtf` is a parameter, and the dashboard fields no
modelled function reads are left out.
-/

namespace Coggml

/-! ## Coherence -/

/-- `cogfluence_compute_similarity` — the cosine of the tensor encodings when both exist, have
the same length and non-zero norms; otherwise 0.5 for one type and 0.1 for two. -/
def cogfluenceComputeSimilarity (sqrtf : ℚ → ℚ) (unit1 unit2 : KnowledgeUnit) : ℚ :=
  let cosine : Option ℚ :=
    match unit1.tensorEncoding, unit2.tensorEncoding with
    | some v, some w =>
      if v.length = w.length then
        let norm1 := dotProduct v v
        let norm2 := dotProduct w w
        if 0 < norm1 ∧ 0 < norm2 then some (dotProduct v w / (sqrtf norm1 * sqrtf norm2)) else none
      else none
    | _, _ => none
  cosine.getD (if unit1.type = unit2.type then 0.5 else 0.1)

/-- The similarities the double loop of `cogfluence_compute_coherence` adds, pair `(i, j)`
with `i < j` in loop order. -/
def pairwiseSimilarities (sqrtf : ℚ → ℚ) : List KnowledgeUnit → List ℚ
  | [] => []
  | unit :: rest => rest.map (cogfluenceComputeSimilarity sqrtf unit) ++ pairwiseSimilarities sqrtf rest

/-- `cogfluence_compute_coherence` — the system, with the mean similarity stored when there is
a pair, and the returned coherence. -/
def cogfluenceComputeCoherence (sqrtf : ℚ → ℚ) (system : CogfluenceSystem) :
    CogfluenceSystem × ℚ :=
  if system.knowledgeUnits = [] then (system, 0)
  else
    let similarities := pairwiseSimilarities sqrtf system.knowledgeUnits
    let system := if 0 < similarities.length then
        { system with systemCoherence := similarities.sum / similarities.length }
      else system
    (system, system.systemCoherence)

/-- `dashboard_compute_coherence` — the mean of the Cogfluence coherence, the mean strength of
the live atoms when there is one, and 0.7 for the kernel. -/
def dashboardComputeCoherence (sqrtf : ℚ → ℚ) (arch : Architecture) : Architecture × ℚ :=
  let computed := cogfluenceComputeCoherence sqrtf arch.cogfluence
  let live := arch.atomspace.atoms.filter fun a => !a.isDeleted
  let (coherence, components) : ℚ × ℚ :=
    if live = [] then (computed.2, 1)
    else (computed.2 + (live.map fun a => a.truthValue.strength).sum / live.length, 2)
  ({ arch with cogfluence := computed.1 }, (coherence + 0.7) / (components + 1))

/-! ## The dashboard -/

/-- `metacognitive_dashboard_t`, the fields `dashboard_update` writes from modelled data. -/
structure Dashboard where
  /-- Coherence of the Cogfluence system at the last update. -/
  globalCoherence : ℚ
  /-- Knowledge units over `COGFLUENCE_MAX_KNOWLEDGE_UNITS`. -/
  cognitiveLoad : ℚ
  /-- `attention_distribution[4]`. -/
  attentionDistribution : List ℚ
  /-- Transductions counted. -/
  totalOperations : Nat
  /-- Transductions that succeeded. -/
  successfulOperations : Nat
  /-- Their ratio, 0 before any. -/
  successRate : ℚ
  /-- Agents of the network. -/
  activeAgents : Nat
  /-- Workflows of the Cogfluence system. -/
  activeWorkflows : Nat
  /-- Success rates of past updates, oldest first. -/
  performanceHistory : List ℚ
  /-- Length at which the history starts shifting. -/
  historyCapacity : Nat
  deriving DecidableEq

/-- The dashboard `distributed_cognitive_init` allocates: zeroed, with room for 1000 rates. -/
def dashboardInit : Dashboard :=
  ⟨0, 0, [0, 0, 0, 0], 0, 0, 0, 0, 0, [], 1000⟩

/-- `dashboard_update`. -/
def dashboardUpdate (sqrtf : ℚ → ℚ) (arch : Architecture) (dash : Dashboard) :
    Architecture × Dashboard :=
  let computed := cogfluenceComputeCoherence sqrtf arch.cogfluence
  let total := arch.totalTransductions
  let successful := arch.successfulTransductions
  let successRate : ℚ := if 0 < total then (successful : ℚ) / total else 0
  let history := if dash.performanceHistory.length < dash.historyCapacity then
      dash.performanceHistory ++ [successRate]
    else dash.performanceHistory.tail ++ [successRate]
  ({ arch with cogfluence := computed.1 },
    { dash with
      globalCoherence := computed.2
      cognitiveLoad := (computed.1.knowledgeUnits.length : ℚ) / cogfluenceMaxKnowledgeUnits
      attentionDistribution := [0.25, 0.35, 0.30, 0.10]
      totalOperations := total
      successfulOperations := successful
      successRate := successRate
      activeAgents := 1
      activeWorkflows := computed.1.workflows.length
      performanceHistory := history })

/-! ## Ranges -/

section Ranges

/-- The mean of a non-empty list of values in `[0, 1]` is in `[0, 1]`. -/
theorem mean_mem_unit {xs : List ℚ} (nonempty : xs ≠ []) (unit : ∀ x ∈ xs, 0 ≤ x ∧ x ≤ 1) :
    0 ≤ xs.sum / xs.length ∧ xs.sum / xs.length ≤ 1 := by
  have positive : (0 : ℚ) < xs.length := by exact_mod_cast List.length_pos.2 nonempty
  have upper := List.sum_le_card_nsmul xs 1 fun x mem => (unit x mem).2
  rw [nsmul_eq_mul, mul_one] at upper
  exact ⟨div_nonneg (List.sum_nonneg fun x mem => (unit x mem).1) positive.le,
    (div_le_iff₀ positive).2 (by rwa [one_mul])⟩

/-- The Cogfluence coherence is in `[0, 1]` when the similarities and the stored value are. -/
theorem cogfluenceComputeCoherence_mem_unit (sqrtf : ℚ → ℚ) (system : CogfluenceSystem)
    (similar : ∀ x ∈ pairwiseSimilarities sqrtf system.knowledgeUnits, 0 ≤ x ∧ x ≤ 1)
    (stored : 0 ≤ system.systemCoherence ∧ system.systemCoherence ≤ 1) :
    0 ≤ (cogfluenceComputeCoherence sqrtf system).2 ∧
      (cogfluenceComputeCoherence sqrtf system).2 ≤ 1 := by
  unfold cogfluenceComputeCoherence
  dsimp only
  split_ifs with empty pairs
  · norm_num
  · exact mean_mem_unit (List.length_pos.1 pairs) similar
  · exact stored

/-- With pairwise similarities, stored coherence and live strengths in the unit interval, the
dashboard's coherence is in the unit interval, and its update stores the Cogfluence coherence. -/
theorem dashboard_coherence_in_unit_range (sqrtf : ℚ → ℚ) (arch : Architecture)
    (dash : Dashboard)
    (similar : ∀ x ∈ pairwiseSimilarities sqrtf arch.cogfluence.knowledgeUnits, 0 ≤ x ∧ x ≤ 1)
    (stored : 0 ≤ arch.cogfluence.systemCoherence ∧ arch.cogfluence.systemCoherence ≤ 1)
    (strengths : ∀ a ∈ arch.atomspace.atoms, a.isDeleted = false →
      0 ≤ a.truthValue.strength ∧ a.truthValue.strength ≤ 1) :
    (0 ≤ (dashboardComputeCoherence sqrtf arch).2 ∧ (dashboardComputeCoherence sqrtf arch).2 ≤ 1) ∧
      (dashboardUpdate sqrtf arch dash).2.globalCoherence =
        (cogfluenceComputeCoherence sqrtf arch.cogfluence).2 ∧
      0 ≤ (dashboardUpdate sqrtf arch dash).2.globalCoherence ∧
      (dashboardUpdate sqrtf arch dash).2.globalCoherence ≤ 1 := by
  obtain ⟨low, high⟩ := cogfluenceComputeCoherence_mem_unit sqrtf arch.cogfluence similar stored
  refine ⟨?_, rfl, low, high⟩
  unfold dashboardComputeCoherence
  dsimp only
  split_ifs with empty
  · constructor <;> linarith
  · have liveStrengths : ∀ x ∈ ((arch.atomspace.atoms.filter fun a => !a.isDeleted).map
        fun a => a.truthValue.strength), 0 ≤ x ∧ x ≤ 1 := by
      simp only [List.mem_map, List.mem_filter, Bool.not_eq_true']
      rintro x ⟨a, ⟨mem, live⟩, rfl⟩
      exact strengths a mem live
    obtain ⟨meanLow, meanHigh⟩ := mean_mem_unit (by simpa using empty) liveStrengths
    rw [List.length_map] at meanLow meanHigh
    constructor <;> linarith

/-- Two concept units with the same embedding `[1]`, as the integration test builds them. -/
def alignedUnits : Process :=
  ((processInit.step .init).step (.addKnowledgeUnit 0 (some (cstr "a")) .concept (some [1]))).step
    (.addKnowledgeUnit 0 (some (cstr "b")) .concept (some [1]))

/-- For two units with equal knowledge vectors the dashboard's coherence is in the unit range. -/
theorem alignedUnits_coherence :
    alignedUnits.Reachable ∧ ∀ arch ∈ alignedUnits.archs,
      0 ≤ (dashboardComputeCoherence Rat.sqrt arch).2 ∧ (dashboardComputeCoherence Rat.sqrt arch).2 ≤ 1 := by
  have archs : alignedUnits.archs = [{ distributedCognitiveInit with
      cogfluence := { cogfluenceInit with knowledgeUnits :=
        [newKnowledgeUnit cogfluenceInit 1 (cstr "a") .concept (some [1]),
          newKnowledgeUnit cogfluenceInit 2 (cstr "b") .concept (some [1])] } }] := rfl
  refine ⟨.tail (.tail (.tail .refl ⟨_, rfl⟩) ⟨_, rfl⟩) ⟨_, rfl⟩, ?_⟩
  rw [archs]
  intro arch mem
  rw [List.mem_singleton.1 mem]
  exact (dashboard_coherence_in_unit_range Rat.sqrt _ dashboardInit
    (by simp [pairwiseSimilarities, cogfluenceComputeSimilarity, newKnowledgeUnit, dotProduct])
    (by simp [cogfluenceInit]) (by simp [distributedCognitiveInit, opencogAtomspaceInit])).1

/-- Two concept units with the opposite one-entry embeddings `[1]` and `[-1]`. -/
def opposedUnits : Process :=
  ((processInit.step .init).step (.addKnowledgeUnit 0 (some (cstr "up")) .concept (some [1]))).step
    (.addKnowledgeUnit 0 (some (cstr "down")) .concept (some [-1]))

/-- Two units with opposite knowledge vectors give coherence -1, which the dashboard reports as
-3/20 and stores as -1. -/
theorem opposedUnits_negative_coherence :
    opposedUnits.Reachable ∧
      opposedUnits.archs.map (fun arch => (cogfluenceComputeCoherence Rat.sqrt arch.cogfluence).2) =
        [-1] ∧
      opposedUnits.archs.map (fun arch => (dashboardComputeCoherence Rat.sqrt arch).2) = [-3 / 20] ∧
      opposedUnits.archs.map (fun arch => (dashboardUpdate Rat.sqrt arch dashboardInit).2.globalCoherence) =
        [-1] := by
  have archs : opposedUnits.archs = [{ distributedCognitiveInit with
      cogfluence := { cogfluenceInit with knowledgeUnits :=
        [newKnowledgeUnit cogfluenceInit 1 (cstr "up") .concept (some [1]),
          newKnowledgeUnit cogfluenceInit 2 (cstr "down") .concept (some [-1])] } }] := rfl
  refine ⟨.tail (.tail (.tail .refl ⟨_, rfl⟩) ⟨_, rfl⟩) ⟨_, rfl⟩, ?_⟩
  rw [archs]
  simp [cogfluenceComputeCoherence, pairwiseSimilarities, cogfluenceComputeSimilarity,
    newKnowledgeUnit, dotProduct, dashboardComputeCoherence, dashboardUpdate,
    distributedCognitiveInit, opencogAtomspaceInit]
  norm_num

end Ranges

end Coggml

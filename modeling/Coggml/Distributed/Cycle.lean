import Coggml.Distributed.Optimization
import Coggml.Distributed.Dashboard
/-!
# A self-optimization cycle

`optimization_run_cycle` walks the loop table of an architecture whose `self_optimization_active`
flag is set (only callers set it; `distributed_cognitive_init` clears it). Each loop not yet
converged is updated under the id `i + 1` of its slot, with the coherence
`dashboard_compute_coherence` returns just before the update. Computing the coherence stores the
Cogfluence coherence it averages, and the updates touch only the loop table, so every computation
of a cycle returns the same value. A cycle is therefore one map over the table: every loop not
converged takes one update with the coherence of the architecture before the cycle, converged
loops are left as they are, and the cycle answers whether there was a loop to update
(`run_cycle_updates_unconverged`).
-/

namespace Coggml

/-- The loop of `optimization_run_cycle` over the given slots: a loop not converged is updated
under id `i + 1` with the coherence computed just before; the flag records an accepted update. -/
def runCycleLoops (sqrtf : ℚ → ℚ) : List Nat → Architecture → Bool → Architecture × Bool
  | [], arch, anyUpdated => (arch, anyUpdated)
  | i :: rest, arch, anyUpdated =>
    match arch.optimizationLoops[i]? with
    | some loop =>
      if loop.converged then runCycleLoops sqrtf rest arch anyUpdated
      else
        let computed := dashboardComputeCoherence sqrtf arch
        let updated := optimizationUpdateLoop computed.1 (UInt32.ofNat (i + 1)) computed.2
        runCycleLoops sqrtf rest updated.1 (anyUpdated || updated.2)
    | none => runCycleLoops sqrtf rest arch anyUpdated

/-- `optimization_run_cycle` — false with self-optimization off; otherwise one pass over the
loop table, answering whether some loop was updated. -/
def optimizationRunCycle (sqrtf : ℚ → ℚ) (selfOptimizationActive : Bool) (arch : Architecture) :
    Architecture × Bool :=
  if selfOptimizationActive then
    runCycleLoops sqrtf (List.range arch.optimizationLoops.length) arch false
  else (arch, false)

/-- What a cycle does to one loop: a loop not converged takes one update with the
performance. -/
def cycleUpdate (performance : ℚ) (loop : OptimizationLoop) : OptimizationLoop :=
  if loop.converged then loop else loop.update performance

section Coherence

variable (sqrtf : ℚ → ℚ)

/-- Computing the Cogfluence coherence twice stores and returns what the first computation
did: the similarities depend on the units only. -/
theorem cogfluenceComputeCoherence_idem (system : CogfluenceSystem) :
    cogfluenceComputeCoherence sqrtf (cogfluenceComputeCoherence sqrtf system).1 =
      cogfluenceComputeCoherence sqrtf system := by
  unfold cogfluenceComputeCoherence
  by_cases empty : system.knowledgeUnits = []
  · simp [empty]
  · by_cases pairs : 0 < (pairwiseSimilarities sqrtf system.knowledgeUnits).length <;>
      simp [empty, pairs]

/-- An architecture that differs from `arch` only in its loop table, and in a Cogfluence system
whose coherence computation agrees with `arch`'s, sees the same dashboard coherence. -/
theorem dashboardComputeCoherence_of_same {arch arch' : Architecture}
    (atomspace : arch'.atomspace = arch.atomspace)
    (cogfluence : cogfluenceComputeCoherence sqrtf arch'.cogfluence =
      cogfluenceComputeCoherence sqrtf arch.cogfluence) :
    dashboardComputeCoherence sqrtf arch' =
      ({ arch' with cogfluence := (cogfluenceComputeCoherence sqrtf arch.cogfluence).1 },
        (dashboardComputeCoherence sqrtf arch).2) := by
  simp only [dashboardComputeCoherence, atomspace, cogfluence]

end Coherence

/-- A write at the slot just past a prefix. -/
theorem modify_append_of_length {α : Type} {f : α → α} {l₁ : List α} {n : Nat}
    (length : l₁.length = n) (l₂ : List α) : (l₁ ++ l₂).modify f n = l₁ ++ l₂.modify f 0 := by
  subst length
  induction l₁ with
  | nil => rfl
  | cons a rest ih => simp [List.modify_succ_cons, ih]

section Cycle

variable (sqrtf : ℚ → ℚ) (arch : Architecture)

/-- The runs of the slot loop over two lists of slots compose. -/
theorem runCycleLoops_append (slots more : List Nat) (arch : Architecture) (anyUpdated : Bool) :
    runCycleLoops sqrtf (slots ++ more) arch anyUpdated =
      runCycleLoops sqrtf more (runCycleLoops sqrtf slots arch anyUpdated).1
        (runCycleLoops sqrtf slots arch anyUpdated).2 := by
  induction slots generalizing arch anyUpdated with
  | nil => rfl
  | cons i rest ih =>
    simp only [List.cons_append, runCycleLoops]
    split
    · split
      · exact ih _ _
      · exact ih _ _
    · exact ih _ _

/-- The architecture after the first `k` slots of a cycle: those loops cycle-updated, the
Cogfluence coherence stored once one of them was not converged. -/
def cycleState (k : Nat) : Architecture :=
  { arch with
    cogfluence := if (arch.optimizationLoops.take k).all (·.converged) then arch.cogfluence
      else (cogfluenceComputeCoherence sqrtf arch.cogfluence).1
    optimizationLoops :=
      (arch.optimizationLoops.take k).map
          (cycleUpdate (dashboardComputeCoherence sqrtf arch).2) ++
        arch.optimizationLoops.drop k }

/-- Every state of a cycle sees the coherence of the architecture the cycle started from. -/
theorem dashboardComputeCoherence_cycleState (k : Nat) :
    dashboardComputeCoherence sqrtf (cycleState sqrtf arch k) =
      ({ cycleState sqrtf arch k with
          cogfluence := (cogfluenceComputeCoherence sqrtf arch.cogfluence).1 },
        (dashboardComputeCoherence sqrtf arch).2) := by
  refine dashboardComputeCoherence_of_same sqrtf rfl ?_
  simp only [cycleState]
  split
  · rfl
  · exact cogfluenceComputeCoherence_idem sqrtf _

/-- A converged loop is its own cycle update. -/
@[simp] theorem cycleUpdate_of_converged {performance : ℚ} {loop : OptimizationLoop}
    (converged : loop.converged = true) : cycleUpdate performance loop = loop := by
  simp [cycleUpdate, converged]

/-- An update under the id of an existing slot writes that slot and is accepted. -/
theorem optimizationUpdateLoop_of_slot {loopId : UInt32} (positive : 0 < loopId.toNat)
    (within : loopId.toNat ≤ arch.optimizationLoops.length) (currentPerformance : ℚ) :
    optimizationUpdateLoop arch loopId currentPerformance =
      ({ arch with
          optimizationLoops := arch.optimizationLoops.modify
            (OptimizationLoop.update currentPerformance) (loopId.toNat - 1) }, true) := by
  unfold optimizationUpdateLoop
  rw [if_neg (by omega)]

/-- One slot of the cycle: slot `k` goes from its old value to its cycle update, and the flag
records whether some loop up to it was not converged. -/
theorem runCycleLoops_slot (bounded : arch.optimizationLoops.length < 2 ^ 32) {k : Nat}
    (slot : k < arch.optimizationLoops.length) :
    runCycleLoops sqrtf [k] (cycleState sqrtf arch k)
        (!(arch.optimizationLoops.take k).all (·.converged)) =
      (cycleState sqrtf arch (k + 1), !(arch.optimizationLoops.take (k + 1)).all (·.converged)) := by
  set loops := arch.optimizationLoops
  set performance := (dashboardComputeCoherence sqrtf arch).2
  have prefixLength : ((loops.take k).map (cycleUpdate performance)).length = k := by
    simp [Nat.min_eq_left slot.le]
  have tail : loops.drop k = loops[k] :: loops.drop (k + 1) := List.drop_eq_getElem_cons slot
  have current : (cycleState sqrtf arch k).optimizationLoops =
      (loops.take k).map (cycleUpdate performance) ++ loops[k] :: loops.drop (k + 1) := by
    rw [← tail]; rfl
  have found : (cycleState sqrtf arch k).optimizationLoops[k]? = some loops[k] := by
    rw [current, List.getElem?_append_right prefixLength.le, prefixLength, Nat.sub_self,
      List.getElem?_cons_zero]
  have extend : loops.take (k + 1) = loops.take k ++ [loops[k]] := by
    rw [List.take_succ, List.getElem?_eq_getElem slot, Option.toList_some]
  simp only [runCycleLoops, found]
  by_cases converged : loops[k].converged = true
  · simp only [converged, ite_true, extend, List.all_append, List.all_cons, List.all_nil,
      Bool.and_true]
    simp only [cycleState, extend, List.all_append, List.all_cons, converged, List.all_nil,
      Bool.and_true, List.map_append, List.map_cons, List.map_nil,
      cycleUpdate_of_converged converged, List.append_assoc, List.singleton_append, ← tail]
  · have id : (UInt32.ofNat (k + 1)).toNat = k + 1 :=
      UInt32.toNat_ofNat_of_lt (by simp only [UInt32.size]; omega)
    have modified : (cycleState sqrtf arch k).optimizationLoops.modify
        (OptimizationLoop.update performance) k =
          (loops.take (k + 1)).map (cycleUpdate performance) ++ loops.drop (k + 1) := by
      rw [current, modify_append_of_length prefixLength, List.modify_zero_cons, extend,
        List.map_append, List.map_singleton, List.append_assoc, List.singleton_append, cycleUpdate,
        if_neg converged]
    have unconverged : (loops.take (k + 1)).all (·.converged) = false := by
      rw [extend, List.all_append, List.all_cons, List.all_nil, Bool.eq_false_iff.2 converged,
        Bool.false_and, Bool.and_false]
    have within : k + 1 ≤ (cycleState sqrtf arch k).optimizationLoops.length := by
      rw [current, List.length_append, prefixLength, List.length_cons, List.length_drop]
      omega
    simp only [converged, Bool.false_eq_true, ite_false]
    rw [dashboardComputeCoherence_cycleState,
      optimizationUpdateLoop_of_slot _ (by omega) (by rw [id]; exact within)]
    simp only [id, Nat.add_sub_cancel, modified, runCycleLoops, Bool.or_true, unconverged,
      Bool.not_false]
    simp only [cycleState, unconverged, Bool.false_eq_true, ite_false]

/-- The first `k` slots of a cycle take the architecture to its `k`-th cycle state. -/
theorem runCycleLoops_range (bounded : arch.optimizationLoops.length < 2 ^ 32) {k : Nat}
    (within : k ≤ arch.optimizationLoops.length) :
    runCycleLoops sqrtf (List.range k) arch false =
      (cycleState sqrtf arch k, !(arch.optimizationLoops.take k).all (·.converged)) := by
  induction k with
  | zero => rfl
  | succ k ih =>
    rw [List.range_succ, runCycleLoops_append, ih (by omega)]
    exact runCycleLoops_slot sqrtf arch bounded (by omega)

end Cycle

/-- For fewer than `2^32` loops, so that every slot's id fits its `uint32_t`, a cycle of
`optimization_run_cycle` with self-optimization on leaves a table of converged loops as it is
and answers false; otherwise it stores the Cogfluence coherence, updates every loop not converged
once with the dashboard coherence of the architecture before the cycle, leaves converged loops,
and answers true. -/
theorem run_cycle_updates_unconverged (sqrtf : ℚ → ℚ) (arch : Architecture)
    (bounded : arch.optimizationLoops.length < 2 ^ 32) :
    optimizationRunCycle sqrtf true arch =
      if arch.optimizationLoops.all (·.converged) then (arch, false)
      else ({ (dashboardComputeCoherence sqrtf arch).1 with
          optimizationLoops := arch.optimizationLoops.map
            (cycleUpdate (dashboardComputeCoherence sqrtf arch).2) }, true) := by
  rw [optimizationRunCycle, if_pos rfl, runCycleLoops_range sqrtf arch bounded le_rfl]
  simp only [cycleState, List.take_length, List.drop_length, List.append_nil]
  split
  · next converged =>
    rw [List.map_congr_left fun loop mem =>
      cycleUpdate_of_converged (List.all_eq_true.1 converged loop mem), List.map_id']
    simp [converged]
  · next unconverged =>
    simp only [unconverged, Bool.false_eq_true, ite_false, Bool.not_false]
    rfl

/-- An architecture with two fresh loops: the process's first two loop ids, 1 and 2. -/
def twoLoops : Architecture :=
  let first := optimizationCreateLoop 1 distributedCognitiveInit (some (cstr "attention"))
    (some (cstr "decay")) 0.5 0.8
  (optimizationCreateLoop first.2.1 first.1 (some (cstr "memory")) (some (cstr "capacity"))
    2 1).1

/-- A cycle over two fresh, unconverged loops computes the coherence and updates both loops. -/
theorem twoLoops_cycle :
    twoLoops.optimizationLoops.length < 2 ^ 32 ∧
      optimizationRunCycle id true twoLoops =
        if twoLoops.optimizationLoops.all (·.converged) then (twoLoops, false)
        else ({ (dashboardComputeCoherence id twoLoops).1 with
            optimizationLoops := twoLoops.optimizationLoops.map
              (cycleUpdate (dashboardComputeCoherence id twoLoops).2) }, true) :=
  ⟨by decide, run_cycle_updates_unconverged id twoLoops (by decide)⟩


end Coggml

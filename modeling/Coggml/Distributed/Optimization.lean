import Coggml.Distributed.Architecture
/-!
# Self-optimization loops

`optimization_create_loop` puts the loop in the architecture's next slot but returns an id
from the process-wide `generate_optimization_loop_id`; `optimization_update_loop` reads that
id as the slot number plus one. So the id a creation returns updates the loop it created
exactly when the process's loop counter was this architecture's new loop count
(`created_loop_updated_iff`), which fails as soon as a second architecture has created a loop.
-/

namespace Coggml

section Loops

variable {counter : UInt32} {arch : Architecture}

/-- `optimization_create_loop` with both names and room: the loop goes to the next slot and
takes the counter's id. -/
theorem optimizationCreateLoop_of_room
    (room : arch.optimizationLoops.length < arch.optimizationLoopCapacity)
    (targetSystem targetParameter : CString) (initialValue targetValue : ℚ) :
    optimizationCreateLoop counter arch (some targetSystem) (some targetParameter) initialValue
        targetValue =
      ({ arch with optimizationLoops := arch.optimizationLoops ++
          [newOptimizationLoop targetSystem targetParameter initialValue targetValue] },
        counter + 1, counter) := by
  simp [optimizationCreateLoop, Nat.not_le.2 room, generateOptimizationLoopId]

/-- `optimization_update_loop` accepts exactly the ids `1 .. optimization_loop_count`. -/
theorem optimizationUpdateLoop_accepts (loopId : UInt32) (currentPerformance : ℚ) :
    (optimizationUpdateLoop arch loopId currentPerformance).2 = true ↔
      0 < loopId.toNat ∧ loopId.toNat ≤ arch.optimizationLoops.length := by
  unfold optimizationUpdateLoop
  split <;> simp_all <;> omega

/-- An accepted update writes slot `loop_id - 1` and nothing else. -/
theorem optimizationUpdateLoop_loops {loopId : UInt32} (positive : 0 < loopId.toNat)
    (within : loopId.toNat ≤ arch.optimizationLoops.length) (currentPerformance : ℚ) :
    (optimizationUpdateLoop arch loopId currentPerformance).1.optimizationLoops =
      arch.optimizationLoops.modify (OptimizationLoop.update currentPerformance)
        (loopId.toNat - 1) := by
  unfold optimizationUpdateLoop
  rw [if_neg (by omega)]

/-- An update is never the identity: it counts a cycle. -/
theorem update_ne (currentPerformance : ℚ) (loop : OptimizationLoop) :
    loop.update currentPerformance ≠ loop := fun same => by
  have cycles := congrArg OptimizationLoop.optimizationCycles same
  simp [OptimizationLoop.update] at cycles

/-- The id a creation returns is accepted on the same architecture exactly when the process's
loop counter was between 1 and the new loop count, and the update lands on the loop just
created exactly when the counter was the new loop count. -/
theorem created_loop_updated_iff
    (room : arch.optimizationLoops.length < arch.optimizationLoopCapacity)
    (targetSystem targetParameter : CString) (initialValue targetValue currentPerformance : ℚ) :
    let created := optimizationCreateLoop counter arch (some targetSystem) (some targetParameter)
      initialValue targetValue
    let updated := optimizationUpdateLoop created.1 created.2.2 currentPerformance
    (updated.2 = true ↔
        0 < counter.toNat ∧ counter.toNat ≤ arch.optimizationLoops.length + 1) ∧
      (updated.1.optimizationLoops = arch.optimizationLoops ++
          [(newOptimizationLoop targetSystem targetParameter initialValue targetValue).update
            currentPerformance] ↔
        counter.toNat = arch.optimizationLoops.length + 1) := by
  simp only [optimizationCreateLoop_of_room room]
  set loop := newOptimizationLoop targetSystem targetParameter initialValue targetValue
  refine ⟨by simp [optimizationUpdateLoop_accepts], ?_⟩
  by_cases accepted : 0 < counter.toNat ∧ counter.toNat ≤ arch.optimizationLoops.length + 1
  · rw [optimizationUpdateLoop_loops accepted.1 (by simpa using accepted.2)]
    constructor
    · intro written
      by_contra other
      have off : counter.toNat - 1 ≠ arch.optimizationLoops.length := by omega
      have last := congrArg (·[arch.optimizationLoops.length]?) written
      simp only [List.getElem?_modify_ne _ _ off, List.getElem?_concat_length] at last
      exact update_ne currentPerformance loop (Option.some.inj last).symm
    · intro newest
      rw [newest, Nat.add_sub_cancel, List.modify_eq_take_cons_drop (by simp)]
      simp
  · have rejected : (optimizationUpdateLoop { arch with optimizationLoops :=
        arch.optimizationLoops ++ [loop] } counter currentPerformance).1 =
        { arch with optimizationLoops := arch.optimizationLoops ++ [loop] } := by
      unfold optimizationUpdateLoop
      rw [if_pos (by simp; omega)]
    rw [rejected]
    constructor
    · intro written
      exact absurd (List.append_cancel_left written) (by simpa using (update_ne _ loop).symm)
    · intro newest; omega

end Loops

/-- Two architectures in one process. -/
def twoArchitectures : Process := (processInit.step .init).step .init

/-- Loop ids count across the process: a loop created in a second fresh architecture gets id 2,
which that architecture's table does not hold, so its update is rejected. -/
theorem second_architecture_loop_rejected :
    twoArchitectures.Reachable ∧
      twoArchitectures.archs = [distributedCognitiveInit, distributedCognitiveInit] ∧
      let first := optimizationCreateLoop twoArchitectures.loopCounter distributedCognitiveInit
        (some (cstr "atomspace")) (some (cstr "attention_decay_rate")) 0.95 0.9
      let second := optimizationCreateLoop first.2.1 distributedCognitiveInit
        (some (cstr "atomspace")) (some (cstr "attention_decay_rate")) 0.95 0.9
      first.2.2 = 1 ∧ (optimizationUpdateLoop first.1 first.2.2 0.5).2 = true ∧
        second.2.2 = 2 ∧ (optimizationUpdateLoop second.1 second.2.2 0.5).2 = false :=
  ⟨.tail (.tail .refl ⟨_, rfl⟩) ⟨_, rfl⟩, rfl, rfl, rfl, rfl, rfl⟩

end Coggml

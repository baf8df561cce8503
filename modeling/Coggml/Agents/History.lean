import Coggml.Basic
/-!
# The performance history of an attention economy

`attention_economy` keeps its last performances in a ring of 100 floats:
`update_performance_history` writes at `history_index`, advances the index modulo 100, and
counts up `history_size` until it reaches 100. `init_attention_economy` sets both counters to
0 and leaves the floats as `malloc` returned them.

Read from the `history_size` slots before `history_index`, wrapping around, the ring holds
exactly the last `min n 100` of the `n` performances recorded, oldest first, whatever the slots
held before (`performance_history_keeps_last`). The proof carries one invariant: each of the
last `min n 100` performances sits in the slot of its position modulo 100.
-/

namespace Coggml

/-- The performance tracking fields of `attention_economy`. -/
structure PerformanceHistory where
  /-- `performance_history[100]`, by slot. -/
  performanceHistory : Nat → ℚ
  /-- The slot the next performance goes to. -/
  historyIndex : Nat
  /-- The number of slots written, at most 100. -/
  historySize : Nat

/-- The tracking fields after `init_attention_economy`: counters at 0, the floats as
`malloc` returned them. -/
def initPerformanceHistory (uninitialized : Nat → ℚ) : PerformanceHistory :=
  ⟨uninitialized, 0, 0⟩

/-- `update_performance_history`. -/
def updatePerformanceHistory (attention : PerformanceHistory) (performance : ℚ) :
    PerformanceHistory where
  performanceHistory :=
    Function.update attention.performanceHistory attention.historyIndex performance
  historyIndex := (attention.historyIndex + 1) % 100
  historySize := if attention.historySize < 100 then attention.historySize + 1
    else attention.historySize

/-- The performances the ring holds, oldest first: the `history_size` slots before
`history_index`, wrapping around. -/
def PerformanceHistory.contents (attention : PerformanceHistory) : List ℚ :=
  (List.range attention.historySize).map fun k =>
    attention.performanceHistory ((attention.historyIndex + 100 - attention.historySize + k) % 100)

/-- After `n` performances: the index is `n` modulo 100, the size `min n 100`, and each of the
last `min n 100` performances is in the slot of its position modulo 100. -/
structure PerformanceHistory.Holds (attention : PerformanceHistory) (values : List ℚ) : Prop where
  index : attention.historyIndex = values.length % 100
  size : attention.historySize = min values.length 100
  slots : ∀ m, values.length - 100 ≤ m → ∀ h : m < values.length,
    attention.performanceHistory (m % 100) = values[m]

theorem holds_initPerformanceHistory (uninitialized : Nat → ℚ) :
    (initPerformanceHistory uninitialized).Holds [] :=
  ⟨rfl, rfl, fun _ _ h => absurd h (Nat.not_lt_zero _)⟩

/-- One update records the new performance as the last one. -/
theorem PerformanceHistory.Holds.update {attention : PerformanceHistory} {values : List ℚ}
    (holds : attention.Holds values) (performance : ℚ) :
    (updatePerformanceHistory attention performance).Holds (values ++ [performance]) := by
  obtain ⟨index, size, slots⟩ := holds
  refine ⟨?_, ?_, fun m recent h => ?_⟩
  · simp only [updatePerformanceHistory, index, List.length_append, List.length_singleton]
    omega
  · simp only [updatePerformanceHistory, size, List.length_append, List.length_singleton]
    split <;> omega
  · simp only [List.length_append, List.length_singleton] at recent h
    simp only [updatePerformanceHistory, Function.update, index]
    by_cases last : m = values.length
    · subst last
      simp
    · have older : m < values.length := by omega
      have other : m % 100 ≠ values.length % 100 := by omega
      rw [dif_neg other, slots m (by omega) older, List.getElem_append_left older]

/-- The slot the ring reads the `k`-th held performance from is the slot of its position. -/
theorem ring_slot {n k : Nat} :
    (n % 100 + 100 - min n 100 + k) % 100 = (n - 100 + k) % 100 := by
  rcases Nat.lt_or_ge n 100 with small | large
  · rw [Nat.min_eq_left small.le, Nat.mod_eq_of_lt small, Nat.sub_eq_zero_of_le small.le,
      Nat.add_sub_cancel_left, Nat.zero_add, Nat.add_mod_left]
  · rw [Nat.min_eq_right large]
    omega

/-- Whatever the slots held at `init_attention_economy`, after any sequence of calls to
`update_performance_history` the ring, read from the `history_size` slots before
`history_index`, holds the last 100 performances recorded (all of them while there are fewer),
oldest first. -/
theorem performance_history_keeps_last (uninitialized : Nat → ℚ) (values : List ℚ) :
    (values.foldl updatePerformanceHistory (initPerformanceHistory uninitialized)).contents =
      values.drop (values.length - 100) := by
  have holds : ∀ values : List ℚ,
      (values.foldl updatePerformanceHistory (initPerformanceHistory uninitialized)).Holds
        values := by
    intro values
    induction values using List.reverseRecOn with
    | nil => exact holds_initPerformanceHistory uninitialized
    | append_singleton values performance ih =>
      rw [List.foldl_append, List.foldl_cons, List.foldl_nil]
      exact ih.update performance
  obtain ⟨index, size, slots⟩ := holds values
  apply List.ext_getElem
  · simp only [PerformanceHistory.contents, List.length_map, List.length_range, List.length_drop,
      size]
    omega
  · intro k _ _
    simp only [PerformanceHistory.contents, List.getElem_map, List.getElem_range, List.getElem_drop,
      index, size, ring_slot]
    exact slots _ (Nat.le_add_right _ _) _

end Coggml

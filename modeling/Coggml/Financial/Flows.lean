import Coggml.Financial
/-!
# Transaction flows by hour

`ggml_financial_update_transaction_flows` clears the flow tensor and adds each transaction's
amount at `(from * max_accounts + to) * GGML_FINANCIAL_TEMPORAL_DIM + hour`, in `uint32_t`. A
pair's block has 12 slots and an hour runs to 23, so an afternoon transaction lands in the next
pair's block (`flowOffset_div`), past the tensor for the last pair
(`flowSize_le_last_afternoon`); with every hour before noon each block collects exactly its
pair's transactions (`update_flows_block_of_hour`). The hours are a function of the
transaction's slot, so any hour may stand for any transaction.
-/

namespace Coggml

/-- `GGML_FINANCIAL_TEMPORAL_DIM`. -/
def ggmlFinancialTemporalDim : UInt32 := 12

/-- `flow_size`, the floats of `transaction_flows` the call clears. -/
def flowSize (maxAccounts : UInt32) : UInt32 := maxAccounts * maxAccounts * ggmlFinancialTemporalDim

/-- `flow_offset` of a transaction between two account slots stamped at an hour. -/
def flowOffset (maxAccounts : UInt32) (fromId toId : Nat) (hourIdx : Fin 24) : UInt32 :=
  (fromId.toUInt32 * maxAccounts + toId.toUInt32) * ggmlFinancialTemporalDim + hourIdx.val.toUInt32

/-- The loop of `ggml_financial_update_transaction_flows` from slot `i` on. -/
def addFlows (maxAccounts : UInt32) (hourOf : Nat → Fin 24) :
    Nat → List FinancialTransaction → (Nat → ℚ) → Nat → ℚ
  | _, [], data => data
  | i, t :: ts, data => addFlows maxAccounts hourOf (i + 1) ts
      (addAt data (flowOffset maxAccounts t.fromAccountId t.toAccountId (hourOf i)).toNat t.amount)

/-- `ggml_financial_update_transaction_flows` — the flow data after the call, from the data
before it; `hourOf i` is `localtime(&transactions[i].timestamp)->tm_hour`. -/
def ggmlFinancialUpdateTransactionFlows (system : FinancialSystem) (hourOf : Nat → Fin 24)
    (flows : Nat → ℚ) : Nat → ℚ :=
  addFlows system.maxAccounts hourOf 0 system.transactions
    fun offset => if offset < (flowSize system.maxAccounts).toNat then 0 else flows offset

/-- The sum of the `GGML_FINANCIAL_TEMPORAL_DIM` slots of a block of flow data. -/
def blockSum (data : Nat → ℚ) (block : Nat) : ℚ :=
  ((List.range ggmlFinancialTemporalDim.toNat).map fun hour => data (block * 12 + hour)).sum

/-! ## Offsets -/

section Offsets

variable {maxAccounts : UInt32} {fromId toId : Nat}

/-- The tensor has at most `2^32 - 12` floats, so no offset of an account pair wraps. -/
def FitsUInt32 (maxAccounts : UInt32) : Prop :=
  maxAccounts.toNat * maxAccounts.toNat * 12 + 12 ≤ 2 ^ 32

instance : DecidablePred FitsUInt32 := fun maxAccounts =>
  inferInstanceAs (Decidable (maxAccounts.toNat * maxAccounts.toNat * 12 + 12 ≤ 2 ^ 32))

/-- Without wrapping, a flow offset is the row-major position of the pair's slot. -/
theorem flowOffset_toNat (fits : FitsUInt32 maxAccounts) (hfrom : fromId < maxAccounts.toNat)
    (hto : toId < maxAccounts.toNat) (hourIdx : Fin 24) :
    (flowOffset maxAccounts fromId toId hourIdx).toNat =
      (fromId * maxAccounts.toNat + toId) * 12 + hourIdx.val := by
  unfold FitsUInt32 at fits
  have pair := pair_lt_square hfrom hto
  have hour := hourIdx.isLt
  have bounded : maxAccounts.toNat < 2 ^ 32 := maxAccounts.toNat_lt_size
  simp only [flowOffset, ggmlFinancialTemporalDim, uint32_toNat_add, uint32_toNat_mul,
    uint32_toNat_ofNat, show (12 : UInt32).toNat = 12 from rfl]
  simp (disch := omega) only [Nat.mod_eq_of_lt]

/-- The cleared part of the tensor is every block of an account pair. -/
theorem flowSize_toNat (fits : FitsUInt32 maxAccounts) :
    (flowSize maxAccounts).toNat = maxAccounts.toNat * maxAccounts.toNat * 12 := by
  unfold FitsUInt32 at fits
  simp only [flowSize, ggmlFinancialTemporalDim, uint32_toNat_mul,
    show (12 : UInt32).toNat = 12 from rfl]
  simp (disch := omega) only [Nat.mod_eq_of_lt]

/-- A write lands in the block `from * max_accounts + to + hour / 12`: its own before noon, the
next pair's after. -/
theorem flowOffset_div (fits : FitsUInt32 maxAccounts) (hfrom : fromId < maxAccounts.toNat)
    (hto : toId < maxAccounts.toNat) (hourIdx : Fin 24) :
    (flowOffset maxAccounts fromId toId hourIdx).toNat / 12 =
      fromId * maxAccounts.toNat + toId + hourIdx.val / 12 := by
  rw [flowOffset_toNat fits hfrom hto]
  omega

/-- Row-major block indices of account pairs are distinct. -/
theorem block_eq_iff {i j : Nat} (hto : toId < maxAccounts.toNat) (hj : j < maxAccounts.toNat) :
    fromId * maxAccounts.toNat + toId = i * maxAccounts.toNat + j ↔ fromId = i ∧ toId = j := by
  refine ⟨fun same => ?_, fun ⟨hi, hj⟩ => hi ▸ hj ▸ rfl⟩
  have positive : 0 < maxAccounts.toNat := by omega
  have rows := congrArg (· / maxAccounts.toNat) same
  simp only [Nat.mul_comm _ maxAccounts.toNat, Nat.mul_add_div positive, Nat.div_eq_of_lt hto,
    Nat.div_eq_of_lt hj, Nat.add_zero] at rows
  subst rows
  exact ⟨rfl, by omega⟩

/-- For the last pair, an afternoon write lands past the `flow_size` floats of the tensor. -/
theorem flowSize_le_last_afternoon (fits : FitsUInt32 maxAccounts)
    (positive : 0 < maxAccounts.toNat) {hourIdx : Fin 24} (afternoon : 12 ≤ hourIdx.val) :
    (flowSize maxAccounts).toNat ≤
      (flowOffset maxAccounts (maxAccounts.toNat - 1) (maxAccounts.toNat - 1) hourIdx).toNat := by
  rw [flowSize_toNat fits, flowOffset_toNat fits (by omega) (by omega)]
  obtain ⟨m, last⟩ : ∃ m, maxAccounts.toNat = m + 1 := ⟨_, (Nat.succ_pred_eq_of_pos positive).symm⟩
  have square : (m + 1) * (m + 1) = m * (m + 1) + (m + 1) := Nat.succ_mul m (m + 1)
  rw [last, Nat.add_sub_cancel]
  omega

end Offsets

/-! ## The loop -/

section Loop

variable {maxAccounts : UInt32} {hourOf : Nat → Fin 24}

/-- An addition at `offset`, read anywhere. -/
theorem addAt_apply (data : Nat → ℚ) (offset : Nat) (x : ℚ) (slot : Nat) :
    addAt data offset x slot = data slot + if slot = offset then x else 0 := by
  by_cases here : slot = offset
  · subst here; simp [addAt]
  · simp [addAt, Function.update_noteq here, here]

/-- The slots `block * 12 + hour` for `hour < n` meet `offset` once if it lies among them. -/
theorem sum_slots_hit (x : ℚ) (offset block : Nat) : ∀ n, ((List.range n).map fun hour =>
    if block * 12 + hour = offset then x else 0).sum =
      if block * 12 ≤ offset ∧ offset < block * 12 + n then x else 0
  | 0 => by
    simp only [List.range_zero, List.map_nil, List.sum_nil, Nat.add_zero]
    split_ifs <;> first | rfl | omega
  | n + 1 => by
    rw [List.range_succ, List.map_append, List.sum_append, sum_slots_hit x offset block n]
    by_cases hit : block * 12 + n = offset
    · simp only [hit, List.map_singleton, List.sum_singleton, if_true]
      rw [if_neg (by omega), if_pos (by omega), zero_add]
    · simp only [hit, List.map_singleton, List.sum_singleton, if_false, add_zero]
      exact if_congr (by omega) rfl rfl

/-- One addition changes the sum of the block it falls in, and no other. -/
theorem blockSum_addAt (data : Nat → ℚ) (offset : Nat) (x : ℚ) (block : Nat) :
    blockSum (addAt data offset x) block =
      blockSum data block + if offset / 12 = block then x else 0 := by
  simp only [blockSum, addAt_apply, List.sum_map_add, sum_slots_hit]
  exact congrArg _
    (if_congr (by rw [show ggmlFinancialTemporalDim.toNat = 12 from rfl]; omega) rfl rfl)

/-- The `memset` leaves the block of every account pair at zero. -/
theorem blockSum_cleared (fits : FitsUInt32 maxAccounts) {i j : Nat} (hi : i < maxAccounts.toNat)
    (hj : j < maxAccounts.toNat) (flows : Nat → ℚ) :
    blockSum (fun offset => if offset < (flowSize maxAccounts).toNat then 0 else flows offset)
      (i * maxAccounts.toNat + j) = 0 := by
  have pair := pair_lt_square hi hj
  refine List.sum_eq_zero fun x mem => ?_
  obtain ⟨hour, below, rfl⟩ := List.mem_map.1 mem
  rw [List.mem_range, show ggmlFinancialTemporalDim.toNat = 12 from rfl] at below
  exact if_pos (by rw [flowSize_toNat fits]; omega)

/-- Before noon, the loop adds to the block of a pair exactly the amounts of the transactions
between its two accounts. -/
theorem blockSum_addFlows (fits : FitsUInt32 maxAccounts) {i j : Nat} (hj : j < maxAccounts.toNat) :
    ∀ (k : Nat) (ts : List FinancialTransaction) (data : Nat → ℚ),
      (∀ n < ts.length, (hourOf (k + n)).val < 12) →
      (∀ t ∈ ts, t.fromAccountId < maxAccounts.toNat ∧ t.toAccountId < maxAccounts.toNat) →
      blockSum (addFlows maxAccounts hourOf k ts data) (i * maxAccounts.toNat + j) =
        blockSum data (i * maxAccounts.toNat + j) +
          ((ts.filter (FinancialTransaction.between i j)).map FinancialTransaction.amount).sum
  | _, [], data, _, _ => by simp [addFlows]
  | k, t :: ts, data, morning, linked => by
    obtain ⟨hfrom, hto⟩ := linked t (List.mem_cons_self t ts)
    have noon : (hourOf k).val < 12 := morning 0 (Nat.succ_pos _)
    have later : ∀ n < ts.length, (hourOf (k + 1 + n)).val < 12 := fun n below => by
      have := morning (n + 1) (by simpa using below)
      rwa [show k + (n + 1) = k + 1 + n by omega] at this
    rw [addFlows, blockSum_addFlows fits hj (k + 1) ts _ later
      (fun t' mem => linked t' (List.mem_cons_of_mem t mem)), blockSum_addAt,
      flowOffset_div fits hfrom hto, Nat.div_eq_of_lt noon, Nat.add_zero]
    simp only [block_eq_iff hto hj]
    by_cases same : t.fromAccountId = i ∧ t.toAccountId = j
    · simp [same, FinancialTransaction.between, add_assoc]
    · have other : FinancialTransaction.between i j t = false := by
        simpa [FinancialTransaction.between] using same
      simp [same, other]

end Loop

/-! ## The update on any table -/

/-- On every table whose transactions link account slots below `max_accounts`, as
`ggml_financial_add_transaction` only records such, and whatever the hours of the transactions:
a transaction's write stays in the block of its own pair exactly when it was stamped before
noon, and when every transaction was, the block of each pair sums the amounts of the
transactions between its accounts. -/
theorem update_flows_block_of_hour (system : FinancialSystem) (hourOf : Nat → Fin 24)
    (flows : Nat → ℚ) (fits : FitsUInt32 system.maxAccounts)
    (linked : ∀ t ∈ system.transactions,
      t.fromAccountId < system.maxAccounts.toNat ∧ t.toAccountId < system.maxAccounts.toNat) :
    (∀ k t, system.transactions[k]? = some t →
      ((flowOffset system.maxAccounts t.fromAccountId t.toAccountId (hourOf k)).toNat / 12 =
          t.fromAccountId * system.maxAccounts.toNat + t.toAccountId ↔ (hourOf k).val < 12)) ∧
      ((∀ k < system.transactions.length, (hourOf k).val < 12) →
        ∀ i < system.maxAccounts.toNat, ∀ j < system.maxAccounts.toNat,
          blockSum (ggmlFinancialUpdateTransactionFlows system hourOf flows)
              (i * system.maxAccounts.toNat + j) =
            ((system.transactions.filter (FinancialTransaction.between i j)).map
              FinancialTransaction.amount).sum) := by
  refine ⟨fun k t found => ?_, fun morning i hi j hj => ?_⟩
  · obtain ⟨hfrom, hto⟩ := linked t (List.getElem?_mem found)
    rw [flowOffset_div fits hfrom hto]
    omega
  · rw [ggmlFinancialUpdateTransactionFlows,
      blockSum_addFlows fits hj 0 _ _ (fun n below => by simpa using morning n below) linked,
      blockSum_cleared fits hi hj, zero_add]

/-- A table of four account slots holding one transfer of 30 from slot 0 to slot 1. -/
def oneTransfer : FinancialSystem :=
  ⟨[], [⟨0, 0, 1, .transfer, 30, 0, 0, 0⟩], 4, 10, fun _ => 0⟩

/-- The transfer stamped at 9:00 lands in its own block, which sums to 30. -/
theorem oneTransfer_morning_block :
    FitsUInt32 oneTransfer.maxAccounts ∧
      (∀ t ∈ oneTransfer.transactions,
        t.fromAccountId < oneTransfer.maxAccounts.toNat ∧
          t.toAccountId < oneTransfer.maxAccounts.toNat) ∧
      (∀ (k : Nat) (t : FinancialTransaction), oneTransfer.transactions[k]? = some t →
        ((flowOffset oneTransfer.maxAccounts t.fromAccountId t.toAccountId (9 : Fin 24)).toNat / 12 =
            t.fromAccountId * oneTransfer.maxAccounts.toNat + t.toAccountId ↔
          (9 : Fin 24).val < 12)) ∧
      ((∀ k < oneTransfer.transactions.length, (9 : Fin 24).val < 12) →
        ∀ i < oneTransfer.maxAccounts.toNat, ∀ j < oneTransfer.maxAccounts.toNat,
          blockSum (ggmlFinancialUpdateTransactionFlows oneTransfer (fun _ => 9) fun _ => 0)
              (i * oneTransfer.maxAccounts.toNat + j) =
            ((oneTransfer.transactions.filter (FinancialTransaction.between i j)).map
              FinancialTransaction.amount).sum) :=
  have fits : FitsUInt32 oneTransfer.maxAccounts := by decide
  have linked : ∀ t ∈ oneTransfer.transactions,
      t.fromAccountId < oneTransfer.maxAccounts.toNat ∧
        t.toAccountId < oneTransfer.maxAccounts.toNat := by decide
  ⟨fits, linked, update_flows_block_of_hour oneTransfer (fun _ => 9) (fun _ => 0) fits linked⟩

end Coggml

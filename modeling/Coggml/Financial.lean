import Coggml.Basic
/-!
# Financial accounts and transactions

`ggml_financial_tensor_system_t` keeps accounts and transactions in arrays filled from slot 0 and
a `relationship_graph` read as `[from][to][3]`: the amounts sent, the number of transactions and
the time of the last one, here a function from offsets to values. An account is what
`ggml_financial_add_account` writes before it encodes the account type (`openAccount`), and
`FinancialRun` holds the sequences of calls that each return; `Coggml.Financial.Program` shows
every run of the code is one. Embeddings, encodings and timestamps, which neither call reads, are
left out, and `time(NULL)` is an argument.
-/

namespace Coggml

/-- `UINT32_MAX`, the rejection value of both functions. -/
def uint32Max : Nat := 2 ^ 32 - 1

/-- `ggml_financial_account_type_t`, whose values are primes. -/
inductive AccountType
  | checking
  | savings
  | credit
  | investment
  | business
  | shell
  deriving DecidableEq, Repr

/-- `ggml_financial_transaction_type_t`. -/
inductive TransactionType
  | deposit
  | withdrawal
  | transfer
  | wire
  | check
  | electronic
  deriving DecidableEq, Repr

/-- `ggml_financial_account_t`, without its embeddings, encoding and timestamps. -/
structure FinancialAccount where
  /-- Slot index. -/
  accountId : Nat
  /-- Account type. -/
  accountType : AccountType
  /-- Current balance. -/
  balance : ℚ
  /-- Set to the initial balance. -/
  averageBalance : ℚ
  /-- Transactions sent or received. -/
  transactionCount : Nat
  /-- Risk score. -/
  riskScore : ℚ
  /-- Anomaly score. -/
  anomalyScore : ℚ
  /-- Review flag. -/
  flaggedForReview : Bool
  deriving DecidableEq

/-- `ggml_financial_transaction_t`, without its vector and timestamp. -/
structure FinancialTransaction where
  /-- Slot index. -/
  transactionId : Nat
  /-- Sender. -/
  fromAccountId : Nat
  /-- Receiver. -/
  toAccountId : Nat
  /-- Transaction type. -/
  type : TransactionType
  /-- Amount sent. -/
  amount : ℚ
  /-- Structuring score. -/
  structuringScore : ℚ
  /-- Layering score. -/
  layeringScore : ℚ
  /-- Integration score. -/
  integrationScore : ℚ
  deriving DecidableEq

/-- `ggml_financial_tensor_system_t`: the two tables, their capacities and the graph data. -/
structure FinancialSystem where
  /-- Accounts `0 .. account_count - 1`. -/
  accounts : List FinancialAccount
  /-- Transactions `0 .. transaction_count - 1`. -/
  transactions : List FinancialTransaction
  /-- `max_accounts`. -/
  maxAccounts : UInt32
  /-- `max_transactions`. -/
  maxTransactions : UInt32
  /-- The float data of `relationship_graph`, by offset. -/
  relationshipGraph : Nat → ℚ

/-- `ggml_financial_tensor_system_init` — empty tables and a zero graph. -/
def ggmlFinancialTensorSystemInit (maxAccounts maxTransactions : UInt32) : FinancialSystem :=
  ⟨[], [], maxAccounts, maxTransactions, fun _ => 0⟩

/-- What `ggml_financial_add_account` does before it calls `ggml_encode_tree`: `UINT32_MAX` for a
full table, otherwise the account written into slot `account_count`, with that slot as the id
the call returns if the encoding returns. -/
def openAccount (system : FinancialSystem) (accountType : AccountType)
    (initialBalance : ℚ) : FinancialSystem × Nat :=
  if system.maxAccounts.toNat ≤ system.accounts.length then (system, uint32Max)
  else
    let accountId := system.accounts.length
    let account : FinancialAccount :=
      { accountId, accountType, balance := initialBalance, averageBalance := initialBalance,
        transactionCount := 0, riskScore := 0, anomalyScore := 0, flaggedForReview := false }
    ({ system with accounts := system.accounts ++ [account] }, accountId)

/-- The offset of cell `(from, to)` of the relationship graph. -/
def graphOffset (maxAccounts fromId toId : Nat) : Nat := (fromId * maxAccounts + toId) * 3

/-- The offset as `ggml_financial_add_transaction` computes it: `(from * max_accounts + to) * 3`
in `uint32_t`, then widened to `size_t`. -/
def graphOffsetUInt32 (maxAccounts : UInt32) (fromId toId : Nat) : Nat :=
  ((fromId.toUInt32 * maxAccounts + toId.toUInt32) * 3).toNat

/-- `accounts[id].balance -= amount`. -/
def FinancialAccount.debit (amount : ℚ) (a : FinancialAccount) : FinancialAccount :=
  { a with balance := a.balance - amount }

/-- `accounts[id].balance += amount`. -/
def FinancialAccount.credit (amount : ℚ) (a : FinancialAccount) : FinancialAccount :=
  { a with balance := a.balance + amount }

/-- `accounts[id].transaction_count++`. -/
def FinancialAccount.countTransaction (a : FinancialAccount) : FinancialAccount :=
  { a with transactionCount := a.transactionCount + 1 }

/-- Add to the graph value at an offset. -/
def addAt (graph : Nat → ℚ) (offset : Nat) (x : ℚ) : Nat → ℚ :=
  Function.update graph offset (graph offset + x)

/-- `ggml_financial_add_transaction` — record the transaction, move the amount, count it on
both accounts and in the graph; `UINT32_MAX` when the table is full or an account is unknown.
`now` is `(float)time(NULL)`. -/
def ggmlFinancialAddTransaction (system : FinancialSystem) (fromId toId : Nat)
    (type : TransactionType) (amount now : ℚ) : FinancialSystem × Nat :=
  if system.maxTransactions.toNat ≤ system.transactions.length ∨
      system.accounts.length ≤ fromId ∨ system.accounts.length ≤ toId then (system, uint32Max)
  else
    let transactionId := system.transactions.length
    let transaction : FinancialTransaction :=
      { transactionId, fromAccountId := fromId, toAccountId := toId, type, amount,
        structuringScore := 0, layeringScore := 0, integrationScore := 0 }
    let accounts := system.accounts
      |>.modify (FinancialAccount.debit amount) fromId
      |>.modify (FinancialAccount.credit amount) toId
      |>.modify FinancialAccount.countTransaction fromId
      |>.modify FinancialAccount.countTransaction toId
    let offset := graphOffset system.maxAccounts.toNat fromId toId
    let graph := addAt system.relationshipGraph offset amount
    let graph := addAt graph (offset + 1) 1
    let graph := Function.update graph (offset + 2) now
    let transactions := system.transactions ++ [transaction]
    ({ system with transactions, accounts, relationshipGraph := graph }, transactionId)

/-- A finite sequence of calls from a system, each of which returns, indexed by the sum of the
initial balances of the accounts it opened (the `ggml_financial_add_account` calls that did not
return `UINT32_MAX`). -/
inductive FinancialRun (start : FinancialSystem) : ℚ → FinancialSystem → Prop
  | refl : FinancialRun start 0 start
  | addAccount {opened : ℚ} {system : FinancialSystem} (run : FinancialRun start opened system)
      (accountType : AccountType) (initialBalance : ℚ) :
      FinancialRun start
        (opened + if (openAccount system accountType initialBalance).2 = uint32Max
          then 0 else initialBalance)
        (openAccount system accountType initialBalance).1
  | addTransaction {opened : ℚ} {system : FinancialSystem} (run : FinancialRun start opened system)
      (fromId toId : Nat) (type : TransactionType) (amount now : ℚ) :
      FinancialRun start opened (ggmlFinancialAddTransaction system fromId toId type amount now).1

/-- Whether a transaction went from one account to another. -/
def FinancialTransaction.between (fromId toId : Nat) (t : FinancialTransaction) : Bool :=
  t.fromAccountId == fromId && t.toAccountId == toId

/-- The books of a system that has opened accounts with initial balances summing to `opened`:
money is conserved, every transaction is counted on two accounts, and each graph cell between
two account slots sums and counts the recorded transactions between them. -/
structure FinancialSystem.Books (system : FinancialSystem) (opened : ℚ) : Prop where
  /-- The account table is within its capacity. -/
  bounded : system.accounts.length ≤ system.maxAccounts.toNat
  /-- The balances sum to what was opened. -/
  balances : (system.accounts.map FinancialAccount.balance).sum = opened
  /-- Each transaction is counted twice. -/
  counts : (system.accounts.map FinancialAccount.transactionCount).sum =
    2 * system.transactions.length
  /-- Amount cells. -/
  amounts : ∀ i < system.maxAccounts.toNat, ∀ j < system.maxAccounts.toNat,
    system.relationshipGraph (graphOffset system.maxAccounts.toNat i j) =
      ((system.transactions.filter (FinancialTransaction.between i j)).map
        FinancialTransaction.amount).sum
  /-- Count cells. -/
  numbers : ∀ i < system.maxAccounts.toNat, ∀ j < system.maxAccounts.toNat,
    system.relationshipGraph (graphOffset system.maxAccounts.toNat i j + 1) =
      (system.transactions.filter (FinancialTransaction.between i j)).length

section Sums

variable {α β : Type} {l : List α} {k : Nat}

/-- A write to one slot changes a sum over the table by what it changes that slot by. -/
theorem sum_map_modify [AddCommMonoid β] (g : α → β) {f : α → α} {d : β}
    (shift : ∀ a, g (f a) = g a + d) : ∀ (k : Nat) (l : List α), k < l.length →
      ((l.modify f k).map g).sum = (l.map g).sum + d
  | 0, a :: l, _ => by simp [shift, add_right_comm]
  | k + 1, a :: l, within => by
    simp [sum_map_modify g shift k l (by simpa using within), add_assoc]

variable {x : ℚ} {accounts : List FinancialAccount}

@[simp] theorem sum_balance_debit (within : k < accounts.length) :
    ((accounts.modify (FinancialAccount.debit x) k).map FinancialAccount.balance).sum =
      (accounts.map FinancialAccount.balance).sum + -x :=
  sum_map_modify FinancialAccount.balance (f := FinancialAccount.debit x)
    (fun _ => sub_eq_add_neg _ _) k accounts within

@[simp] theorem sum_balance_credit (within : k < accounts.length) :
    ((accounts.modify (FinancialAccount.credit x) k).map FinancialAccount.balance).sum =
      (accounts.map FinancialAccount.balance).sum + x :=
  sum_map_modify FinancialAccount.balance (f := FinancialAccount.credit x) (fun _ => rfl) k
    accounts within

@[simp] theorem sum_balance_countTransaction (within : k < accounts.length) :
    ((accounts.modify FinancialAccount.countTransaction k).map FinancialAccount.balance).sum =
      (accounts.map FinancialAccount.balance).sum := by
  simpa using sum_map_modify FinancialAccount.balance (f := FinancialAccount.countTransaction)
    (fun _ => (add_zero _).symm) k accounts within

@[simp] theorem sum_count_debit (within : k < accounts.length) :
    ((accounts.modify (FinancialAccount.debit x) k).map FinancialAccount.transactionCount).sum =
      (accounts.map FinancialAccount.transactionCount).sum := by
  simpa using sum_map_modify FinancialAccount.transactionCount (f := FinancialAccount.debit x)
    (fun _ => (add_zero _).symm) k accounts within

@[simp] theorem sum_count_credit (within : k < accounts.length) :
    ((accounts.modify (FinancialAccount.credit x) k).map FinancialAccount.transactionCount).sum =
      (accounts.map FinancialAccount.transactionCount).sum := by
  simpa using sum_map_modify FinancialAccount.transactionCount (f := FinancialAccount.credit x)
    (fun _ => (add_zero _).symm) k accounts within

@[simp] theorem sum_count_countTransaction (within : k < accounts.length) :
    ((accounts.modify FinancialAccount.countTransaction k).map
      FinancialAccount.transactionCount).sum =
      (accounts.map FinancialAccount.transactionCount).sum + 1 :=
  sum_map_modify FinancialAccount.transactionCount (f := FinancialAccount.countTransaction)
    (fun _ => rfl) k accounts within

end Sums

section Graph

variable {M i j fromId toId : Nat}

/-- The block index `i * max_accounts + j` of an account pair lies inside the square. -/
theorem pair_lt_square (hi : i < M) (hj : j < M) : i * M + j < M * M :=
  calc i * M + j < i * M + M := by omega
    _ = (i + 1) * M := (Nat.succ_mul i M).symm
    _ ≤ M * M := Nat.mul_le_mul_right M hi

/-- While the graph's `max_accounts² · 3` floats fit in 32 bits, the `uint32_t` offset of two
account slots is the `graphOffset` the model writes at. -/
theorem graphOffsetUInt32_eq {maxAccounts : UInt32}
    (fits : maxAccounts.toNat * maxAccounts.toNat * 3 ≤ 2 ^ 32)
    (hfrom : fromId < maxAccounts.toNat) (hto : toId < maxAccounts.toNat) :
    graphOffsetUInt32 maxAccounts fromId toId = graphOffset maxAccounts.toNat fromId toId := by
  have pair := pair_lt_square hfrom hto
  have bounded : maxAccounts.toNat < 2 ^ 32 := maxAccounts.toNat_lt_size
  simp only [graphOffsetUInt32, graphOffset, uint32_toNat_add, uint32_toNat_mul,
    uint32_toNat_ofNat, show (3 : UInt32).toNat = 3 from rfl]
  simp (disch := omega) only [Nat.mod_eq_of_lt]

/-- Cells of account slots are disjoint. -/
theorem graphOffset_eq_iff (hj : j < M) (hto : toId < M) :
    graphOffset M i j = graphOffset M fromId toId ↔ i = fromId ∧ j = toId := by
  refine ⟨fun same => ?_, fun ⟨hi, hj⟩ => hi ▸ hj ▸ rfl⟩
  have flat : i * M + j = fromId * M + toId := by unfold graphOffset at same; omega
  have row : ∀ r c, c < M → (r * M + c) / M = r := fun r c hc => by
    rw [Nat.add_comm, Nat.add_mul_div_right _ _ (by omega), Nat.div_eq_of_lt hc, Nat.zero_add]
  have rows : i = fromId := by rw [← row i j hj, ← row fromId toId hto, flat]
  subst rows
  exact ⟨rfl, by omega⟩

/-- The graph writes of one transaction, read at a cell's amount or count slot. -/
theorem transactionGraph_apply (fromId i : Nat) (hj : j < M) (hto : toId < M)
    (graph : Nat → ℚ) (amount now : ℚ) (slot : Nat) (small : slot < 2) :
    Function.update (addAt (addAt graph (graphOffset M fromId toId) amount)
        (graphOffset M fromId toId + 1) 1) (graphOffset M fromId toId + 2) now
        (graphOffset M i j + slot) =
      graph (graphOffset M i j + slot) +
        if fromId = i ∧ toId = j then (if slot = 0 then amount else 1) else 0 := by
  have last : graphOffset M i j + slot ≠ graphOffset M fromId toId + 2 := by
    unfold graphOffset; omega
  by_cases same : fromId = i ∧ toId = j
  · obtain ⟨rfl, rfl⟩ := same
    rcases (by omega : slot = 0 ∨ slot = 1) with rfl | rfl <;>
      simp [addAt, Function.update_apply, last]
  · have other : graphOffset M i j ≠ graphOffset M fromId toId := fun eq =>
      same (by simpa [eq_comm] using (graphOffset_eq_iff hj hto).1 eq)
    have shifted : ∀ s t : Nat, s < 2 → t < 2 →
        graphOffset M i j + s ≠ graphOffset M fromId toId + t := fun s t hs ht eq => by
      have : s = t := by unfold graphOffset at eq; omega
      subst this
      exact other (by omega)
    have amountSlot : graphOffset M i j + slot ≠ graphOffset M fromId toId := by
      simpa using shifted slot 0 small (by omega)
    simp [addAt, Function.update_apply, last, same, amountSlot, shifted slot 1 small (by omega)]

end Graph

section Books

variable {system : FinancialSystem} {opened : ℚ}

/-- The ids both functions return on success are below `UINT32_MAX`. -/
theorem lt_uint32Max {n : Nat} {bound : UInt32} (below : n < bound.toNat) : n < uint32Max := by
  have := UInt32.toNat_lt_size bound
  unfold uint32Max
  simp only [UInt32.size] at this
  omega

/-- An accepted account adds its initial balance to the books; a rejected one nothing. -/
theorem FinancialSystem.Books.addAccount (books : system.Books opened) (accountType : AccountType)
    (initialBalance : ℚ) :
    (openAccount system accountType initialBalance).1.Books
      (opened + if (openAccount system accountType initialBalance).2 = uint32Max
        then 0 else initialBalance) := by
  unfold openAccount
  split
  · simpa using books
  · next full =>
    have room := Nat.lt_of_not_le full
    simp only [(lt_uint32Max room).ne, if_false]
    exact ⟨by simpa using room, by simp [books.balances], by simp [books.counts], books.amounts,
      books.numbers⟩

/-- A transaction moves money between two accounts and logs itself in the graph cell of the
pair, so the books still balance. -/
theorem FinancialSystem.Books.addTransaction (books : system.Books opened) (fromId toId : Nat)
    (type : TransactionType) (amount now : ℚ) :
    (ggmlFinancialAddTransaction system fromId toId type amount now).1.Books opened := by
  unfold ggmlFinancialAddTransaction
  split
  · exact books
  · next refused =>
    simp only [not_or, not_le] at refused
    obtain ⟨-, hfrom, hto⟩ := refused
    dsimp only
    have toBound : toId < system.maxAccounts.toNat := hto.trans_le books.bounded
    refine ⟨by simpa using books.bounded, by simp [hfrom, hto, books.balances],
      by simp [hfrom, hto, books.counts]; omega, fun i hi j hj => ?_, fun i hi j hj => ?_⟩
    · dsimp only at hi hj ⊢
      have cell := transactionGraph_apply fromId i hj toBound system.relationshipGraph amount now 0
        (by omega)
      simp only [Nat.add_zero] at cell
      rw [cell, books.amounts i hi j hj]
      by_cases same : fromId = i ∧ toId = j <;>
        simp [same, List.filter_append, FinancialTransaction.between]
    · dsimp only at hi hj ⊢
      rw [transactionGraph_apply fromId i hj toBound system.relationshipGraph amount now 1 (by omega),
        books.numbers i hi j hj]
      by_cases same : fromId = i ∧ toId = j <;>
        simp [same, List.filter_append, FinancialTransaction.between]

/-- An account creation refused with `UINT32_MAX` changes nothing. -/
theorem openAccount_rejected (accountType : AccountType) (initialBalance : ℚ)
    (rejected : (openAccount system accountType initialBalance).2 = uint32Max) :
    (openAccount system accountType initialBalance).1 = system := by
  by_cases full : system.maxAccounts.toNat ≤ system.accounts.length
  · simp [openAccount, full]
  · simp only [openAccount, full, if_false] at rejected
    exact absurd rejected (lt_uint32Max (Nat.lt_of_not_le full)).ne

/-- A rejected `ggml_financial_add_transaction` changes nothing. -/
theorem ggmlFinancialAddTransaction_rejected (fromId toId : Nat) (type : TransactionType)
    (amount now : ℚ)
    (rejected : (ggmlFinancialAddTransaction system fromId toId type amount now).2 = uint32Max) :
    (ggmlFinancialAddTransaction system fromId toId type amount now).1 = system := by
  by_cases refused : system.maxTransactions.toNat ≤ system.transactions.length ∨
      system.accounts.length ≤ fromId ∨ system.accounts.length ≤ toId
  · simp only [ggmlFinancialAddTransaction, if_pos refused]
  · simp only [ggmlFinancialAddTransaction, if_neg refused] at rejected
    simp only [not_or, not_le] at refused
    exact absurd rejected (lt_uint32Max refused.1).ne

end Books

/-- Every run from `ggml_financial_tensor_system_init` keeps the books. -/
theorem FinancialRun.books {maxAccounts maxTransactions : UInt32} {opened : ℚ}
    {system : FinancialSystem}
    (run : FinancialRun (ggmlFinancialTensorSystemInit maxAccounts maxTransactions) opened system) :
    system.Books opened := by
  induction run with
  | refl => exact ⟨Nat.zero_le _, rfl, rfl, fun _ _ _ _ => rfl, fun _ _ _ _ => rfl⟩
  | addAccount _ accountType initialBalance books => exact books.addAccount accountType initialBalance
  | addTransaction _ fromId toId type amount now books =>
    exact books.addTransaction fromId toId type amount now

/-- Over every sequence of `ggml_financial_add_account` and `ggml_financial_add_transaction`
calls from `ggml_financial_tensor_system_init`, the books balance, and a call rejected with
`UINT32_MAX` changes nothing. -/
theorem financial_books_balance {maxAccounts maxTransactions : UInt32} {opened : ℚ}
    {system : FinancialSystem}
    (run : FinancialRun (ggmlFinancialTensorSystemInit maxAccounts maxTransactions) opened system) :
    system.Books opened ∧
      (∀ accountType initialBalance,
        (openAccount system accountType initialBalance).2 = uint32Max →
          (openAccount system accountType initialBalance).1 = system) ∧
      (∀ fromId toId type amount now,
        (ggmlFinancialAddTransaction system fromId toId type amount now).2 = uint32Max →
          (ggmlFinancialAddTransaction system fromId toId type amount now).1 = system) :=
  ⟨run.books, openAccount_rejected, ggmlFinancialAddTransaction_rejected⟩

/-- Two accounts opened with 100 and 50, then a transfer of 30 between them. -/
def smallBank : FinancialSystem :=
  (ggmlFinancialAddTransaction (openAccount (openAccount
    (ggmlFinancialTensorSystemInit 4 10) .checking 100).1 .savings 50).1 0 1 .transfer 30 0).1

/-- The calls that build it, with the balances they open. -/
theorem smallBank_run : FinancialRun (ggmlFinancialTensorSystemInit 4 10) 150 smallBank := by
  have start : FinancialRun (ggmlFinancialTensorSystemInit 4 10) 0 _ := .refl
  have := ((start.addAccount .checking 100).addAccount .savings 50).addTransaction
    0 1 .transfer 30 0
  have four : (4 : UInt32).toNat = 4 := rfl
  convert this using 1
  norm_num [openAccount, ggmlFinancialTensorSystemInit, uint32Max, four]

/-- The small bank, two accounts opened with 150 in all and a transfer, keeps its books. -/
theorem smallBank_books :
    FinancialRun (ggmlFinancialTensorSystemInit 4 10) 150 smallBank ∧ smallBank.Books 150 :=
  ⟨smallBank_run, (financial_books_balance smallBank_run).1⟩

end Coggml

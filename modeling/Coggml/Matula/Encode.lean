import Coggml.Financial
import Coggml.Matula.Primes
/-!
# The Matula encoder

`parse_tree_expression` reads `'(' T* ')'` and multiplies the `ggml_prime_offset` of every child
into a `uint32`; its model carries fuel, one unit per call and per round of its loop. The loop
trusts every call to move `*pos`. On parentheses only each round does, and the encoder returns
within `2 * strlen + 1` units (`parens_encoding_terminates`); any other byte in a group is never
consumed and the loop spins (`parseSubtrees_stuck`). `ggml_financial_add_account` encodes
`"(%u)"`, such a string for every account type (`ggmlEncodeTree_accountTreeExpression`), so it
never returns. The quantum phase, which no modelled function reads, is left out.
-/

namespace Coggml

/-! ## The parser -/

/-- The byte `'('`. -/
def openParen : UInt8 := charByte '('

/-- The byte `')'`. -/
def closeParen : UInt8 := charByte ')'

/-- One round of the child loop: `if (subtree > 0) result *= ggml_prime_offset(subtree)`. -/
def absorbSubtree (result subtree : UInt32) : UInt32 :=
  if 0 < subtree then result * ggmlPrimeOffset subtree else result

mutual

/-- `parse_tree_expression(expr, &pos)` with fuel: the value and the position after it. -/
def parseTreeExpression (expr : CString) : Nat → Nat → Option (UInt32 × Nat)
  | 0, _ => none
  | fuel + 1, pos =>
    if expr.length ≤ pos then some (1, pos)
    else if expr[pos]? = some openParen then parseSubtrees expr fuel (pos + 1) 1
    else some (1, pos)

/-- The child loop of `parse_tree_expression` from `*pos`, with the product so far; after it,
a closing parenthesis is skipped. -/
def parseSubtrees (expr : CString) : Nat → Nat → UInt32 → Option (UInt32 × Nat)
  | 0, _, _ => none
  | fuel + 1, pos, result =>
    if pos < expr.length ∧ expr[pos]? ≠ some closeParen then
      match parseTreeExpression expr fuel pos with
      | none => none
      | some (subtree, next) => parseSubtrees expr fuel next (absorbSubtree result subtree)
    else some (result, if pos < expr.length ∧ expr[pos]? = some closeParen then pos + 1 else pos)

end

/-- `GGML_COGNITIVE_MAX_BREADTH`. -/
def ggmlCognitiveMaxBreadth : UInt32 := 32

/-- `GGML_COGNITIVE_MAX_DEPTH`. -/
def ggmlCognitiveMaxDepth : UInt32 := 32

/-- `ggml_matula_encoding_t` without its phase. -/
structure MatulaEncoding where
  /-- The parsed value. -/
  matulaValue : UInt32
  /-- `ggml_matula_decode_system_level` of the value. -/
  systemLevel : UInt32
  /-- The value modulo the breadth. -/
  breadthIndex : UInt32
  /-- The value over the breadth, modulo the depth. -/
  depthIndex : UInt32
  deriving DecidableEq, Repr

/-- `ggml_matula_decode_system_level`, with `(uint32_t)log2(v)` the integer logarithm. -/
def ggmlMatulaDecodeSystemLevel (matulaValue : UInt32) : UInt32 :=
  if matulaValue = 1 then 1
  else if matulaValue ≤ 4 then 2
  else if matulaValue ≤ 9 then 3
  else if matulaValue ≤ 16 then 4
  else (Nat.log2 matulaValue.toNat).toUInt32 + 1

/-- `ggml_encode_tree(tree_expression, cache)` with the fuel of `parse_tree_expression`. -/
def ggmlEncodeTree (fuel : Nat) (treeExpression : CString) : Option MatulaEncoding :=
  if treeExpression = [] then some ⟨1, 1, 0, 0⟩
  else (parseTreeExpression treeExpression fuel 0).map fun (matulaValue, _) =>
    ⟨matulaValue, ggmlMatulaDecodeSystemLevel matulaValue,
      matulaValue % ggmlCognitiveMaxBreadth,
      matulaValue / ggmlCognitiveMaxBreadth % ggmlCognitiveMaxDepth⟩

section Steps

variable {expr : CString}

/-- A positive child inside the table multiplies the product by its prime. -/
theorem absorbSubtree_toNat {result subtree : UInt32} (positive : 0 < subtree.toNat)
    (inTable : subtree.toNat < primeLookup.length)
    (fits : result.toNat * Nat.nth Nat.Prime subtree.toNat < 2 ^ 32) :
    (absorbSubtree result subtree).toNat = result.toNat * Nat.nth Nat.Prime subtree.toNat := by
  rw [absorbSubtree, if_pos (show (0 : UInt32) < subtree from positive), toNat_mul_of_lt _ _ (by rwa [ggmlPrimeOffset_toNat _ inTable]),
    ggmlPrimeOffset_toNat _ inTable]

/-- A positive child past the table zeroes the product. -/
theorem absorbSubtree_of_length_le {result subtree : UInt32} (positive : 0 < subtree.toNat)
    (beyond : primeLookup.length ≤ subtree.toNat) : absorbSubtree result subtree = 0 := by
  rw [absorbSubtree, if_pos (show (0 : UInt32) < subtree from positive), ggmlPrimeOffset_of_length_le _ beyond]
  exact UInt32.toNat.inj (toNat_mul_of_lt _ _ (by simp))

/-- A round of the loop on a byte other than `')'` parses a child and absorbs its value. -/
theorem parseSubtrees_child {fuel pos : Nat} {result subtree : UInt32} {next : Nat}
    (inside : pos < expr.length) (open_ : expr[pos]? ≠ some closeParen)
    (child : parseTreeExpression expr fuel pos = some (subtree, next)) :
    parseSubtrees expr (fuel + 1) pos result =
      parseSubtrees expr fuel next (absorbSubtree result subtree) := by
  rw [parseSubtrees, if_pos ⟨inside, open_⟩, child]

/-- At a `')'` the loop stops and skips it. -/
theorem parseSubtrees_close {fuel pos : Nat} {result : UInt32}
    (close : expr[pos]? = some closeParen) :
    parseSubtrees expr (fuel + 1) pos result = some (result, pos + 1) := by
  have inside : pos < expr.length := (List.getElem?_eq_some_iff.1 close).1
  rw [parseSubtrees, if_neg fun ⟨_, other⟩ => other close, if_pos ⟨inside, close⟩]

/-- At a `'('` the parser enters the loop. -/
theorem parseTreeExpression_open {fuel pos : Nat} (open_ : expr[pos]? = some openParen) :
    parseTreeExpression expr (fuel + 1) pos = parseSubtrees expr fuel (pos + 1) 1 := by
  have inside : pos < expr.length := (List.getElem?_eq_some_iff.1 open_).1
  rw [parseTreeExpression, if_neg (by omega), if_pos open_]

/-- Neither the parser nor the loop moves backwards. -/
theorem parse_pos_le (fuel : Nat) :
    (∀ pos r, parseTreeExpression expr fuel pos = some r → pos ≤ r.2) ∧
    (∀ pos result r, parseSubtrees expr fuel pos result = some r → pos ≤ r.2) := by
  induction fuel with
  | zero => exact ⟨fun _ _ h => (nomatch h), fun _ _ _ h => (nomatch h)⟩
  | succ fuel ih =>
    refine ⟨fun pos r parsed => ?_, fun pos result r parsed => ?_⟩
    · rw [parseTreeExpression] at parsed
      split_ifs at parsed
      · cases parsed; exact le_rfl
      · exact Nat.le_of_succ_le (ih.2 _ _ _ parsed)
      · cases parsed; exact le_rfl
    · rw [parseSubtrees] at parsed
      split_ifs at parsed with round
      · cases child : parseTreeExpression expr fuel pos with
        | none => rw [child] at parsed; cases parsed
        | some found =>
          rw [child] at parsed
          exact (ih.1 _ _ child).trans (ih.2 _ _ _ parsed)
      · cases parsed; exact Nat.le_succ pos
      · cases parsed; exact le_rfl

/-- A call at a `'('` returns past it. -/
theorem parseTreeExpression_advances {fuel pos : Nat} {r : UInt32 × Nat}
    (open_ : expr[pos]? = some openParen) (parsed : parseTreeExpression expr fuel pos = some r) :
    pos < r.2 := by
  cases fuel with
  | zero => cases parsed
  | succ fuel =>
    rw [parseTreeExpression_open open_] at parsed
    exact (parse_pos_le fuel).2 _ _ _ parsed

end Steps

/-! ## Termination on parentheses, divergence elsewhere -/

section Termination

variable {expr : CString}

/-- A string of parentheses only. -/
def ParensOnly (expr : CString) : Prop := ∀ b ∈ expr, b = openParen ∨ b = closeParen

instance (expr : CString) : Decidable (ParensOnly expr) :=
  inferInstanceAs (Decidable (∀ b ∈ expr, b = openParen ∨ b = closeParen))

/-- In a string of parentheses, a byte that is not `')'` is `'('`. -/
theorem ParensOnly.open_of_ne_close (parens : ParensOnly expr) {pos : Nat}
    (inside : pos < expr.length) (round : expr[pos]? ≠ some closeParen) :
    expr[pos]? = some openParen := by
  have byte := List.getElem?_eq_getElem inside
  rcases parens _ (List.getElem_mem inside) with opening | closing
  · rw [byte, opening]
  · exact absurd (byte.trans (congrArg some closing)) round

/-- On parentheses, `2 (len - pos) + 1` units take the parser from `pos` to an answer, and
`2 (len - pos) + 2` take the loop there. -/
theorem parse_parens_some (parens : ParensOnly expr) (fuel : Nat) :
    (∀ pos ≤ expr.length, 2 * (expr.length - pos) + 1 ≤ fuel →
      ∃ r, parseTreeExpression expr fuel pos = some r ∧ r.2 ≤ expr.length) ∧
    (∀ pos ≤ expr.length, 2 * (expr.length - pos) + 2 ≤ fuel → ∀ result,
      ∃ r, parseSubtrees expr fuel pos result = some r ∧ r.2 ≤ expr.length) := by
  induction fuel with
  | zero => exact ⟨fun _ _ enough => absurd enough (by omega), fun _ _ enough => absurd enough (by omega)⟩
  | succ fuel ih =>
    refine ⟨fun pos within enough => ?_, fun pos within enough result => ?_⟩
    · rw [parseTreeExpression]
      split_ifs with past open_
      · exact ⟨_, rfl, within⟩
      · exact ih.2 (pos + 1) (by omega) (by omega) 1
      · exact ⟨_, rfl, within⟩
    · rw [parseSubtrees]
      split_ifs with round close
      · have open_ := parens.open_of_ne_close round.1 round.2
        obtain ⟨⟨subtree, next⟩, child, bounded⟩ := ih.1 pos within (by omega)
        have moved := parseTreeExpression_advances open_ child
        rw [child]
        exact ih.2 next bounded (by simp only at moved bounded ⊢; omega) _
      · exact ⟨_, rfl, close.1⟩
      · exact ⟨_, rfl, within⟩

/-- On an expression of parentheses only, the encoding returns within `2 * length + 1` steps, and
each parse of a subtree advances the position. -/
theorem parens_encoding_terminates (expr : CString) (parens : ParensOnly expr) :
    (∀ fuel, 2 * expr.length + 1 ≤ fuel → (ggmlEncodeTree fuel expr).isSome) ∧
    ∀ fuel pos r, pos < expr.length → expr[pos]? ≠ some closeParen →
      parseTreeExpression expr fuel pos = some r → pos < r.2 := by
  refine ⟨fun fuel enough => ?_, fun fuel pos r inside round parsed =>
    parseTreeExpression_advances (parens.open_of_ne_close inside round) parsed⟩
  unfold ggmlEncodeTree
  split
  · rfl
  · obtain ⟨r, parsed, -⟩ := (parse_parens_some parens fuel).1 0 (Nat.zero_le _) (by omega)
    rw [parsed]
    rfl

/-- `(())()`, a string of parentheses, encodes within 13 units, each round moving forward. -/
theorem nestedPairs_encoding_terminates :
    ParensOnly (cstr "(())()") ∧
    (∀ fuel, 2 * (cstr "(())()").length + 1 ≤ fuel → (ggmlEncodeTree fuel (cstr "(())()")).isSome) ∧
    ∀ fuel pos r, pos < (cstr "(())()").length → (cstr "(())()")[pos]? ≠ some closeParen →
      parseTreeExpression (cstr "(())()") fuel pos = some r → pos < r.2 := by
  have parens : ParensOnly (cstr "(())()") := by decide
  exact ⟨parens, parens_encoding_terminates _ parens⟩

/-- In the loop, a byte other than a parenthesis is read again on every round. -/
theorem parseSubtrees_stuck {pos : Nat} (inside : pos < expr.length)
    (notOpen : expr[pos]? ≠ some openParen) (notClose : expr[pos]? ≠ some closeParen) :
    ∀ fuel result, parseSubtrees expr fuel pos result = none := by
  intro fuel
  induction fuel with
  | zero => intro _; rfl
  | succ fuel ih =>
    intro result
    cases fuel with
    | zero => rw [parseSubtrees, if_pos ⟨inside, notClose⟩]; rfl
    | succ fuel =>
      have child : parseTreeExpression expr (fuel + 1) pos = some (1, pos) := by
        rw [parseTreeExpression, if_neg (by omega), if_neg notOpen]
      rw [parseSubtrees_child inside notClose child]
      exact ih _

/-- `ggml_financial_account_type_t`: each type's value is a prime. -/
def AccountType.value : AccountType → Nat
  | .checking => 2
  | .savings => 3
  | .credit => 5
  | .investment => 7
  | .business => 11
  | .shell => 13

/-- The expression `ggml_financial_add_account` encodes,
`snprintf(tree_expression, 64, "(%u)", account_type)`: at most four bytes, never truncated. -/
def accountTreeExpression (accountType : AccountType) : CString :=
  cstr "(" ++ decimalBytes accountType.value ++ cstr ")"

/-- A group opened by a byte other than a parenthesis never closes. -/
theorem ggmlEncodeTree_stray (opens : expr[0]? = some openParen) (inside : 1 < expr.length)
    (notOpen : expr[1]? ≠ some openParen) (notClose : expr[1]? ≠ some closeParen) (fuel : Nat) :
    ggmlEncodeTree fuel expr = none := by
  have nonempty : expr ≠ [] := fun empty => by simp [empty] at opens
  rw [ggmlEncodeTree, if_neg nonempty]
  cases fuel with
  | zero => rfl
  | succ fuel => rw [parseTreeExpression_open opens, parseSubtrees_stuck inside notOpen notClose]; rfl

/-- For every account type, the expression `ggml_financial_add_account` encodes never returns. -/
theorem ggmlEncodeTree_accountTreeExpression (accountType : AccountType) (fuel : Nat) :
    ggmlEncodeTree fuel (accountTreeExpression accountType) = none := by
  cases accountType <;>
    exact ggmlEncodeTree_stray (by decide) (by decide) (by decide) (by decide) fuel

/-- The encoding of a checking account's tree, "(2)", never returns: the leaf branch does not
advance the position. -/
theorem checkingAccount_encoding_never_returns :
    accountTreeExpression .checking = cstr "(2)" ∧
      ¬∃ fuel, (ggmlEncodeTree fuel (accountTreeExpression .checking)).isSome :=
  ⟨by decide, fun ⟨fuel, returns⟩ => by
    rw [ggmlEncodeTree_accountTreeExpression] at returns
    cases returns⟩

end Termination

end Coggml

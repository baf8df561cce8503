import Coggml.Matula.Encode
/-!
# Rooted trees and their Matula codes

A rooted tree is written `'(' T* ')'`. Its Matula code `M` multiplies `P(M(c) + 1)` over its
children `c`, with `P(n)` the `n`-th prime; `M(()) = 1`. On the string of a tree,
`parse_tree_expression` computes `RootedTree.encodedValue` (`parse_toCString`): the same
product, taken in `uint32` and through the prime table, one child after the other.

The two agree while every child's code is an index inside the table and the product fits in
32 bits (`encodedValue_toNat`, `WithinTable.encode`). The table holds at most `GGML_COGNITIVE_MAX_PRIMES` primes,
and past it the offset reads 0: a root over a star of seven leaves has the code
`P(2188) < 2^32` and encodes to 0 (`stemOverStar_encodes_zero`).
-/

namespace Coggml

/-- A rooted tree with its children in order, as `T ::= '(' T* ')'` writes it. -/
inductive RootedTree
  | node (children : List RootedTree)

namespace RootedTree

mutual

/-- The string of a tree. -/
def toCString : RootedTree → CString
  | node children => openParen :: (forestCString children ++ [closeParen])

/-- The strings of trees, one after the other. -/
def forestCString : List RootedTree → CString
  | [] => []
  | t :: ts => t.toCString ++ forestCString ts

end

mutual

/-- The Matula code `M` for a prime sequence `P` counted from 1:
`M((t1 ... tk)) = P(M(t1) + 1) ⋯ P(M(tk) + 1)`. -/
def matula (P : Nat → Nat) : RootedTree → Nat
  | node children => forestMatula P children

/-- The product `P(M(t1) + 1) ⋯ P(M(tk) + 1)` over a list of children. -/
def forestMatula (P : Nat → Nat) : List RootedTree → Nat
  | [] => 1
  | t :: ts => P (t.matula P + 1) * forestMatula P ts

end

mutual

/-- The value `parse_tree_expression` computes for a tree: its children's values absorbed into
the product from left to right. -/
def encodedValue : RootedTree → UInt32
  | node children => absorbForest 1 children

/-- The child loop over a list of trees, from the product so far. -/
def absorbForest (result : UInt32) : List RootedTree → UInt32
  | [] => result
  | t :: ts => absorbForest (absorbSubtree result t.encodedValue) ts

end

mutual

/-- The proper subtrees of a tree: each child, then the child's own subtrees. -/
def subtrees : RootedTree → List RootedTree
  | node children => forestSubtrees children

/-- The subtrees of a list of trees, the trees included. -/
def forestSubtrees : List RootedTree → List RootedTree
  | [] => []
  | t :: ts => t :: (t.subtrees ++ forestSubtrees ts)

end

/-! ## The parser computes `encodedValue` -/

section Parse

/-- A byte after a prefix is read at the prefix's length. -/
theorem getElem?_append_length (pre : CString) (b : UInt8) (rest : CString) :
    (pre ++ b :: rest)[pre.length]? = some b := by
  rw [List.getElem?_append_right (le_refl _), Nat.sub_self, List.getElem?_cons_zero]

/-- A tree's string is its children's strings between two parentheses. -/
theorem length_toCString (children : List RootedTree) :
    (node children).toCString.length = (forestCString children).length + 2 := by
  simp [toCString]

/-- A tree's string holds at least its two parentheses. -/
theorem two_le_length_toCString (t : RootedTree) : 2 ≤ t.toCString.length := by
  cases t with
  | node children => rw [length_toCString]; omega

/-- A tree's string opens with a parenthesis. -/
theorem toCString_eq_cons (t : RootedTree) :
    ∃ rest, t.toCString = openParen :: rest := by
  cases t with
  | node children => exact ⟨_, rfl⟩

/-- After any prefix, a tree's string is read first as `'('`. -/
theorem getElem?_toCString (t : RootedTree) (pre rest : CString) :
    (pre ++ t.toCString ++ rest)[pre.length]? = some openParen := by
  obtain ⟨tail, opening⟩ := toCString_eq_cons t
  rw [opening, List.append_assoc, List.cons_append]
  exact getElem?_append_length _ _ _

mutual

/-- From the start of a tree's string, with as much fuel as the string is long, the parser
returns the tree's value and the position after it. -/
theorem parse_toCString : ∀ (t : RootedTree) (pre post : CString) (fuel : Nat),
    t.toCString.length ≤ fuel →
    parseTreeExpression (pre ++ t.toCString ++ post) fuel pre.length =
      some (t.encodedValue, pre.length + t.toCString.length)
  | node children, pre, post, 0, enough => absurd enough (by rw [length_toCString]; omega)
  | node children, pre, post, fuel + 1, enough => by
    have shape : pre ++ (node children).toCString ++ post =
        pre ++ [openParen] ++ forestCString children ++ closeParen :: post := by
      simp [toCString]
    have rest := parse_forestCString children (pre ++ [openParen]) post fuel 1
      (by rw [length_toCString] at enough; omega)
    rw [parseTreeExpression_open (getElem?_toCString _ pre post), shape]
    simp only [List.length_append, List.length_singleton] at rest
    rw [rest, encodedValue, length_toCString]
    congr 2
    omega

/-- From the start of a list of trees' strings followed by `')'`, the loop absorbs the
trees' values and returns past the parenthesis. -/
theorem parse_forestCString : ∀ (ts : List RootedTree) (pre post : CString) (fuel : Nat)
    (result : UInt32), (forestCString ts).length + 1 ≤ fuel →
    parseSubtrees (pre ++ forestCString ts ++ closeParen :: post) fuel pre.length result =
      some (absorbForest result ts, pre.length + (forestCString ts).length + 1)
  | _, pre, post, 0, result, enough => absurd enough (by omega)
  | [], pre, post, fuel + 1, result, _ =>
    parseSubtrees_close (by simpa [forestCString] using getElem?_append_length pre closeParen post)
  | t :: ts, pre, post, fuel + 1, result, enough => by
    have shape : pre ++ forestCString (t :: ts) ++ closeParen :: post =
        pre ++ t.toCString ++ (forestCString ts ++ closeParen :: post) := by
      simp [forestCString]
    have lengths : t.toCString.length + (forestCString ts).length + 1 ≤ fuel + 1 := by
      simpa only [forestCString, List.length_append] using enough
    have long := two_le_length_toCString t
    have child := parse_toCString t pre (forestCString ts ++ closeParen :: post) fuel (by omega)
    have rest := parse_forestCString ts (pre ++ t.toCString) post fuel
      (absorbSubtree result t.encodedValue) (by omega)
    have first := getElem?_toCString t pre (forestCString ts ++ closeParen :: post)
    have round : (pre ++ t.toCString ++ (forestCString ts ++ closeParen :: post))[pre.length]? ≠
        some closeParen := by
      rw [first]
      decide
    rw [List.length_append] at rest
    rw [shape, parseSubtrees_child (List.getElem?_eq_some_iff.1 first).1 round child,
      ← List.append_assoc, rest, absorbForest]
    simp only [forestCString, List.length_append]
    congr 2
    omega

end

end Parse

/-! ## Inside the table the value is the Matula code -/

section Code

mutual

/-- Codes of positive primes are positive. -/
theorem matula_pos {P : Nat → Nat} (positive : ∀ n, 0 < P n) : ∀ t : RootedTree, 0 < t.matula P
  | node children => forestMatula_pos positive children

/-- Products of positive primes are positive. -/
theorem forestMatula_pos {P : Nat → Nat} (positive : ∀ n, 0 < P n) :
    ∀ ts : List RootedTree, 0 < forestMatula P ts
  | [] => Nat.one_pos
  | _ :: ts => Nat.mul_pos (positive _) (forestMatula_pos positive ts)

end

/-- With the primes counted from 1, a child's factor is the prime its code indexes from 0. -/
theorem forestMatula_cons (t : RootedTree) (ts : List RootedTree) :
    forestMatula (fun n => Nat.nth Nat.Prime (n - 1)) (t :: ts) =
      Nat.nth Nat.Prime (t.matula (fun n => Nat.nth Nat.Prime (n - 1))) *
        forestMatula (fun n => Nat.nth Nat.Prime (n - 1)) ts := by
  rw [forestMatula, Nat.add_sub_cancel]

/-- `P(n)`, the `n`-th prime counted from 1, is positive. -/
theorem nth_prime_pred_pos (n : Nat) : 0 < Nat.nth Nat.Prime (n - 1) :=
  (Nat.prime_nth_prime _).pos

mutual

/-- While every child's code is inside the table and the code fits, the value is the code. -/
theorem encodedValue_toNat : ∀ t : RootedTree,
    (∀ s ∈ t.subtrees, s.matula (fun n => Nat.nth Nat.Prime (n - 1)) < primeLookup.length) →
    t.matula (fun n => Nat.nth Nat.Prime (n - 1)) < 2 ^ 32 →
    t.encodedValue.toNat = t.matula (fun n => Nat.nth Nat.Prime (n - 1))
  | node children, inTable, fits => by
    have one : (1 : UInt32).toNat = 1 := rfl
    have product := absorbForest_toNat children 1 inTable (by rw [one, Nat.one_mul]; exact fits)
    rwa [one, Nat.one_mul] at product

/-- The loop over children inside the table multiplies their primes into the product. -/
theorem absorbForest_toNat : ∀ (ts : List RootedTree) (result : UInt32),
    (∀ s ∈ forestSubtrees ts, s.matula (fun n => Nat.nth Nat.Prime (n - 1)) < primeLookup.length) →
    result.toNat * forestMatula (fun n => Nat.nth Nat.Prime (n - 1)) ts < 2 ^ 32 →
    (absorbForest result ts).toNat =
      result.toNat * forestMatula (fun n => Nat.nth Nat.Prime (n - 1)) ts
  | [], result, _, _ => (Nat.mul_one _).symm
  | t :: ts, result, inTable, fits => by
    have tInTable := inTable t (List.mem_cons_self _ _)
    have value := encodedValue_toNat t
      (fun s mem => inTable s (List.mem_cons_of_mem _ (List.mem_append_left _ mem)))
      ((tInTable.trans_le primeLookup_length_le).trans (by decide))
    have factor : result.toNat * Nat.nth Nat.Prime t.encodedValue.toNat ≤
        result.toNat * forestMatula (fun n => Nat.nth Nat.Prime (n - 1)) (t :: ts) := by
      rw [forestMatula_cons, value, ← Nat.mul_assoc]
      exact Nat.le_mul_of_pos_right _ (forestMatula_pos nth_prime_pred_pos ts)
    have absorbed : (absorbSubtree result t.encodedValue).toNat =
        result.toNat * Nat.nth Nat.Prime t.encodedValue.toNat := absorbSubtree_toNat
      (value ▸ matula_pos nth_prime_pred_pos t) (value ▸ tInTable) (factor.trans_lt fits)
    have restFits : (absorbSubtree result t.encodedValue).toNat *
        forestMatula (fun n => Nat.nth Nat.Prime (n - 1)) ts < 2 ^ 32 := by
      rwa [absorbed, value, Nat.mul_assoc, ← forestMatula_cons]
    rw [absorbForest, absorbForest_toNat ts _
      (fun s mem => inTable s (List.mem_cons_of_mem _ (List.mem_append_right _ mem))) restFits,
      absorbed, value, forestMatula_cons, Nat.mul_assoc]

end

/-- The trees the encoder reads exactly: the code fits in 32 bits and the code of every proper
subtree indexes the prime table. -/
def WithinTable (t : RootedTree) : Prop :=
  t.matula (fun n => Nat.nth Nat.Prime (n - 1)) < 2 ^ 32 ∧
    ∀ s ∈ t.subtrees, s.matula (fun n => Nat.nth Nat.Prime (n - 1)) < primeLookup.length

/-- With as much fuel as its string is long, a tree inside the table encodes to its code. -/
theorem WithinTable.encode {t : RootedTree} (within : t.WithinTable) {fuel : Nat}
    (enough : t.toCString.length ≤ fuel) :
    ∃ encoding, ggmlEncodeTree fuel t.toCString = some encoding ∧
      encoding.matulaValue.toNat = t.matula (fun n => Nat.nth Nat.Prime (n - 1)) := by
  have parsed := parse_toCString t [] [] fuel enough
  rw [List.nil_append, List.append_nil, List.length_nil, Nat.zero_add] at parsed
  obtain ⟨rest, opening⟩ := toCString_eq_cons t
  rw [ggmlEncodeTree, if_neg (by rw [opening]; exact List.cons_ne_nil _ _), parsed]
  exact ⟨_, rfl, encodedValue_toNat t within.2 within.1⟩

/-- `(()()()()()()())`: a root over seven leaves. -/
def starOfSeven : RootedTree := node [node [], node [], node [], node [], node [], node [], node []]

/-- `((()()()()()()()))`: a root whose one child is a star of seven leaves. -/
def stemOverStar : RootedTree := node [starOfSeven]

/-- A tree whose Matula number, the 2188th prime, fits in 32 bits still encodes to 0: its child's
code 2187 is past the prime table. -/
theorem stemOverStar_encodes_zero :
    stemOverStar.matula (fun n => Nat.nth Nat.Prime (n - 1)) = Nat.nth Nat.Prime 2187 ∧
    Nat.nth Nat.Prime 2187 < 2 ^ 32 ∧
    ∀ fuel, stemOverStar.toCString.length ≤ fuel →
      (ggmlEncodeTree fuel stemOverStar.toCString).map MatulaEncoding.matulaValue = some 0 := by
  have star : starOfSeven.matula (fun n => Nat.nth Nat.Prime (n - 1)) = 2187 := by
    simp [starOfSeven, matula, forestMatula, Nat.nth_prime_one_eq_three]
  have starValue : starOfSeven.encodedValue.toNat = 2187 := by
    rw [← star]
    refine encodedValue_toNat _ (fun s mem => ?_) (by rw [star]; decide)
    have leaf : s = node [] := by simpa [starOfSeven, subtrees, forestSubtrees] using mem
    rw [leaf]
    exact Nat.lt_of_lt_of_le (by decide) four_le_primeLookup_length
  refine ⟨by rw [stemOverStar, matula, forestMatula_cons, star, forestMatula, Nat.mul_one],
    (nth_prime_lt_of_lt (by decide)).trans (by decide), fun fuel enough => ?_⟩
  have parsed := parse_toCString stemOverStar [] [] fuel enough
  rw [List.nil_append, List.append_nil, List.length_nil, Nat.zero_add] at parsed
  have zero : stemOverStar.encodedValue = 0 := by
    rw [stemOverStar, encodedValue, absorbForest, absorbForest]
    exact absorbSubtree_of_length_le (by rw [starValue]; decide)
      (by rw [starValue]; exact primeLookup_length_le.trans (by decide))
  rw [ggmlEncodeTree, if_neg (by decide), parsed, zero]
  rfl

end Code

end RootedTree

end Coggml

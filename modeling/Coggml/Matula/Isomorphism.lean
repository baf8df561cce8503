import Coggml.Matula.Trees
/-!
# Codes of isomorphic trees

Two rooted trees are isomorphic when the children of one can be matched one to one with the
children of the other, each with an isomorphic child (`RootedTree.Iso`). Isomorphic trees have
the same Matula code, the product not depending on the order of its factors; conversely equal
codes factor into the same primes, and the primes determine the children's codes
(`matula_eq_iff_iso`). With the parser exact inside the prime table, two strings of trees the
encoder reads exactly get the same value if and only if their trees are isomorphic
(`encode_tree_matula_within_table`).
-/

namespace Coggml

namespace RootedTree

mutual

/-- Two trees are isomorphic as unordered rooted trees: their children match. -/
def Iso : RootedTree → RootedTree → Prop
  | node children, node children' => ForestIso children children'

/-- The trees of the first list match those of the second one to one, each with an
isomorphic tree. -/
def ForestIso : List RootedTree → List RootedTree → Prop
  | [], us => us = []
  | t :: ts, us => ∃ before u after, us = before ++ u :: after ∧ Iso t u ∧ ForestIso ts (before ++ after)

end

/-- The product over the children is the product of the list of their primes. -/
theorem forestMatula_eq_prod (P : Nat → Nat) (ts : List RootedTree) :
    forestMatula P ts = (ts.map fun t => P (t.matula P + 1)).prod := by
  induction ts with
  | nil => rfl
  | cons t ts ih => rw [forestMatula, ih, List.map_cons, List.prod_cons]

/-- Taking a child out of the middle of the list takes its prime out of the product. -/
theorem forestMatula_middle (P : Nat → Nat) (before after : List RootedTree) (u : RootedTree) :
    forestMatula P (before ++ u :: after) = P (u.matula P + 1) * forestMatula P (before ++ after) := by
  rw [forestMatula_eq_prod, forestMatula_eq_prod, ← List.prod_cons]
  exact (List.perm_middle.map _).prod_eq

mutual

/-- Isomorphic trees have the same code. -/
theorem matula_eq_of_iso (P : Nat → Nat) : ∀ t u : RootedTree, Iso t u → t.matula P = u.matula P
  | node children, node children', matched => forestMatula_eq_of_forestIso P children children' matched

/-- Matching lists of children have the same product. -/
theorem forestMatula_eq_of_forestIso (P : Nat → Nat) :
    ∀ ts us : List RootedTree, ForestIso ts us → forestMatula P ts = forestMatula P us
  | [], us, matched => by rw [show us = [] from matched]
  | t :: ts, _, ⟨before, u, after, rfl, head, rest⟩ => by
    rw [forestMatula, forestMatula_middle, matula_eq_of_iso P t u head,
      forestMatula_eq_of_forestIso P ts _ rest]

end

/-- Children with the same product have their primes in some order: unique factorisation. -/
theorem primes_perm_of_forestMatula_eq {ts us : List RootedTree}
    (same : forestMatula (fun n => Nat.nth Nat.Prime (n - 1)) ts =
      forestMatula (fun n => Nat.nth Nat.Prime (n - 1)) us) :
    (ts.map fun t => Nat.nth Nat.Prime (t.matula (fun n => Nat.nth Nat.Prime (n - 1)))).Perm
      (us.map fun t => Nat.nth Nat.Prime (t.matula (fun n => Nat.nth Nat.Prime (n - 1)))) := by
  have primes : ∀ vs : List RootedTree, ∀ p ∈ vs.map
      (fun t => Nat.nth Nat.Prime (t.matula (fun n => Nat.nth Nat.Prime (n - 1)))), p.Prime := by
    intro vs p mem
    obtain ⟨_, _, rfl⟩ := List.mem_map.1 mem
    exact Nat.prime_nth_prime _
  have product : ∀ vs : List RootedTree,
      (vs.map fun t => Nat.nth Nat.Prime (t.matula (fun n => Nat.nth Nat.Prime (n - 1)))).prod =
        forestMatula (fun n => Nat.nth Nat.Prime (n - 1)) vs := by
    intro vs
    rw [forestMatula_eq_prod]
    simp only [Nat.add_sub_cancel]
  exact (Nat.primeFactorsList_unique (product ts) (primes ts)).trans
    (same ▸ Nat.primeFactorsList_unique (product us) (primes us)).symm

mutual

/-- Trees with the same code are isomorphic. -/
theorem iso_of_matula_eq : ∀ t u : RootedTree,
    t.matula (fun n => Nat.nth Nat.Prime (n - 1)) = u.matula (fun n => Nat.nth Nat.Prime (n - 1)) →
    Iso t u
  | node children, node children', same =>
    forestIso_of_perm children children' (primes_perm_of_forestMatula_eq same)

/-- Children whose primes agree up to order match. -/
theorem forestIso_of_perm : ∀ ts us : List RootedTree,
    (ts.map fun t => Nat.nth Nat.Prime (t.matula (fun n => Nat.nth Nat.Prime (n - 1)))).Perm
      (us.map fun t => Nat.nth Nat.Prime (t.matula (fun n => Nat.nth Nat.Prime (n - 1)))) →
    ForestIso ts us
  | [], us, perm => List.eq_nil_of_map_eq_nil (List.Perm.nil_eq perm).symm
  | t :: ts, us, perm => by
    obtain ⟨u, found, same⟩ := List.mem_map.1 (perm.subset (List.mem_cons_self _ _))
    obtain ⟨before, after, rfl⟩ := List.append_of_mem found
    have codes := Nat.nth_injective Nat.infinite_setOf_prime same
    have rest := perm.trans (List.perm_middle.map _)
    rw [List.map_cons, List.map_cons, same] at rest
    exact ⟨before, u, after, rfl, iso_of_matula_eq t u codes.symm,
      forestIso_of_perm ts _ rest.cons_inv⟩

end

/-- Matula's bijection: two trees have the same code exactly when they are isomorphic. -/
theorem matula_eq_iff_iso (t u : RootedTree) :
    t.matula (fun n => Nat.nth Nat.Prime (n - 1)) = u.matula (fun n => Nat.nth Nat.Prime (n - 1)) ↔
      Iso t u :=
  ⟨iso_of_matula_eq t u, matula_eq_of_iso _ t u⟩

/-- On trees within the prime table, `ggml_encode_tree` computes the Matula number, and two trees
get the same number exactly when they are isomorphic. -/
theorem encode_tree_matula_within_table (t u : RootedTree) (withinT : t.WithinTable)
    (withinU : u.WithinTable) (fuel : Nat) (enoughT : t.toCString.length ≤ fuel)
    (enoughU : u.toCString.length ≤ fuel) :
    (∃ encoding, ggmlEncodeTree fuel t.toCString = some encoding ∧
      encoding.matulaValue.toNat = t.matula (fun n => Nat.nth Nat.Prime (n - 1))) ∧
    ((ggmlEncodeTree fuel t.toCString).map MatulaEncoding.matulaValue =
      (ggmlEncodeTree fuel u.toCString).map MatulaEncoding.matulaValue ↔ Iso t u) := by
  obtain ⟨first, encodedT, valueT⟩ := withinT.encode enoughT
  obtain ⟨second, encodedU, valueU⟩ := withinU.encode enoughU
  refine ⟨⟨first, encodedT, valueT⟩, ?_⟩
  rw [encodedT, encodedU, Option.map_some', Option.map_some', Option.some_inj, ← matula_eq_iff_iso,
    ← valueT, ← valueU]
  exact ⟨congrArg UInt32.toNat, UInt32.toNat.inj⟩

/-- `(())`: a root over one leaf. -/
def nestedPair : RootedTree := node [node []]

/-- `(()(()))`: a leaf, then a nested pair. -/
def leafThenPair : RootedTree := node [node [], nestedPair]

/-- `((())())`: the same children in the other order. -/
def pairThenLeaf : RootedTree := node [nestedPair, node []]

/-- Both orders of a leaf and a nested pair are inside the table. -/
theorem leafPair_withinTable : leafThenPair.WithinTable ∧ pairThenLeaf.WithinTable := by
  have leaf : (node []).matula (fun n => Nat.nth Nat.Prime (n - 1)) = 1 := rfl
  have pair : nestedPair.matula (fun n => Nat.nth Nat.Prime (n - 1)) = 3 := by
    simp [nestedPair, matula, forestMatula, Nat.nth_prime_one_eq_three]
  have seven := nth_prime_lt_of_lt (k := 3) (by decide)
  have table := four_le_primeLookup_length
  have small : ∀ s ∈ [node [], nestedPair, node []],
      s.matula (fun n => Nat.nth Nat.Prime (n - 1)) < primeLookup.length := by
    simp only [List.mem_cons, List.mem_nil_iff, or_false]
    rintro s (rfl | rfl | rfl) <;> omega
  refine ⟨⟨?_, small⟩, ⟨?_, fun s mem => small s ?_⟩⟩
  · rw [leafThenPair, matula, forestMatula_cons, forestMatula_cons, forestMatula, leaf, pair,
      Nat.nth_prime_one_eq_three]
    omega
  · rw [pairThenLeaf, matula, forestMatula_cons, forestMatula_cons, forestMatula, leaf, pair,
      Nat.nth_prime_one_eq_three]
    omega
  · have listed : pairThenLeaf.subtrees = [nestedPair, node [], node []] := rfl
    rw [listed] at mem
    simp only [List.mem_cons, List.mem_nil_iff, or_false] at mem ⊢
    rcases mem with rfl | rfl | rfl
    exacts [.inr (.inl rfl), .inl rfl, .inl rfl]

/-- The two orders of `(()(()))` encode alike, and to its code. -/
theorem reordered_children_encode_alike :
    (∃ encoding, ggmlEncodeTree 8 leafThenPair.toCString = some encoding ∧
      encoding.matulaValue.toNat = leafThenPair.matula (fun n => Nat.nth Nat.Prime (n - 1))) ∧
    ((ggmlEncodeTree 8 leafThenPair.toCString).map MatulaEncoding.matulaValue =
      (ggmlEncodeTree 8 pairThenLeaf.toCString).map MatulaEncoding.matulaValue ↔
        Iso leafThenPair pairThenLeaf) :=
  encode_tree_matula_within_table leafThenPair pairThenLeaf leafPair_withinTable.1
    leafPair_withinTable.2 8 (by decide) (by decide)

end RootedTree

end Coggml

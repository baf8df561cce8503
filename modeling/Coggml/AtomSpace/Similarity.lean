import Coggml.AtomSpace.Ops
import Mathlib.Data.Rat.Sqrt
import Mathlib.Tactic.Ring
/-!
# Similarity

`opencog_compute_similarity` takes the cosine of two tensors of one size with non-zero
norms, returns 0 for tensors of different sizes, and otherwise falls back on a scan that sums
the strengths of the live atoms with at least two outgoing entries naming both ids
(`shared`) or either (`total`). A union sum is the two single sums less the common one, so
that fallback is the Jaccard ratio of `opencog_infer_similarity` taken over every link type
and every position of an outgoing list (`sharedRelationRatio_eq_linkJaccard`); where each
live link naming either id is a binary Inheritance link the two scans agree
(`linkJaccard_eq_similarityStrength`).
-/

namespace Coggml

/-- The fallback scan with the two single sums kept apart: the strength of a live atom with at
least two outgoing entries goes to `common` when it names both ids, to `total_a` when it
names the first and to `total_b` when it names the second. -/
def mentionStep (id1 id2 : Nat) (sums : ℚ × ℚ × ℚ) (atom : Atom) : ℚ × ℚ × ℚ :=
  if atom.isDeleted || atom.outgoing.length < 2 then sums
  else
    let has1 := atom.outgoing.contains id1
    let has2 := atom.outgoing.contains id2
    let strength := atom.truthValue.strength
    (if has1 && has2 then sums.1 + strength else sums.1,
      if has1 then sums.2.1 + strength else sums.2.1,
      if has2 then sums.2.2 + strength else sums.2.2)

/-- `(common, total_a, total_b)` over the live atoms with at least two outgoing entries. -/
def mentionSums (s : AtomSpace) (id1 id2 : Nat) : ℚ × ℚ × ℚ :=
  s.atoms.foldl (mentionStep id1 id2) (0, 0, 0)

/-- The Jaccard ratio of `opencog_infer_similarity` over every link type and position. -/
def linkJaccard (s : AtomSpace) (id1 id2 : Nat) : ℚ :=
  let (common, totalA, totalB) := mentionSums s id1 id2
  jaccardRatio common totalA totalB

/-- The `(shared, total)` of the fallback scan from the single sums. -/
def unionSums : ℚ × ℚ × ℚ → ℚ × ℚ
  | (common, totalA, totalB) => (common, totalA + totalB - common)

/-- An atom on which the two scans agree: deleted, with fewer than two outgoing entries,
naming neither id, or a binary Inheritance link. -/
def Atom.BinaryInheritanceFor (id1 id2 : Nat) (atom : Atom) : Prop :=
  atom.isDeleted = false → 2 ≤ atom.outgoing.length → id1 ∈ atom.outgoing ∨ id2 ∈ atom.outgoing →
    atom.type = .inheritanceLink ∧ atom.outgoing.length = 2

section Scans

variable (id1 id2 : Nat)

/-- One iteration of the fallback scan keeps its sums the union of the single sums. -/
theorem sharedStep_unionSums (sums : ℚ × ℚ × ℚ) (atom : Atom) :
    sharedStep id1 id2 (unionSums sums) atom = unionSums (mentionStep id1 id2 sums atom) := by
  obtain ⟨common, totalA, totalB⟩ := sums
  unfold sharedStep mentionStep
  split
  · rfl
  · cases atom.outgoing.contains id1 <;> cases atom.outgoing.contains id2 <;> simp [unionSums] <;>
      ring

/-- The fallback ratio of `opencog_compute_similarity` is the Jaccard ratio over every link. -/
theorem sharedRelationRatio_eq_linkJaccard (s : AtomSpace) :
    sharedRelationRatio s id1 id2 = linkJaccard s id1 id2 := by
  have union : s.atoms.foldl (sharedStep id1 id2) (0, 0) = unionSums (mentionSums s id1 id2) := by
    simpa [unionSums] using List.foldl_hom unionSums (mentionStep id1 id2) (sharedStep id1 id2)
      s.atoms (0, 0, 0) (sharedStep_unionSums id1 id2)
  rcases sums : mentionSums s id1 id2 with ⟨common, totalA, totalB⟩
  simp only [sharedRelationRatio, linkJaccard, union, sums, unionSums, jaccardRatio]

/-- On an atom that is a binary Inheritance link whenever it counts, both scans do the same. -/
theorem relationStep_eq_mentionStep {atom : Atom} (binary : atom.BinaryInheritanceFor id1 id2)
    (sums : ℚ × ℚ × ℚ) : relationStep id1 id2 sums atom = mentionStep id1 id2 sums atom := by
  by_cases live : atom.isDeleted = false
  · by_cases long : 2 ≤ atom.outgoing.length
    · by_cases named : id1 ∈ atom.outgoing ∨ id2 ∈ atom.outgoing
      · obtain ⟨inheritance, two⟩ := binary live long named
        obtain ⟨x, y, pair⟩ := List.length_eq_two.1 two
        simp [relationStep, mentionStep, live, inheritance, pair, @eq_comm _ x, @eq_comm _ y]
      · rw [not_or] at named
        rcases pair : atom.outgoing with _ | ⟨x, _ | ⟨y, rest⟩⟩
        · simp [pair] at long
        · simp [pair] at long
        · simp only [pair, List.mem_cons, not_or] at named
          simp [relationStep, mentionStep, pair, live, named, Ne.symm named.1.1, Ne.symm named.1.2.1,
            Ne.symm named.2.1, Ne.symm named.2.2.1]
    · rcases pair : atom.outgoing with _ | ⟨x, _ | ⟨y, rest⟩⟩ <;>
        simp_all [relationStep, mentionStep]
  · simp [relationStep, mentionStep, live]

/-- Where each live link naming either id is a binary Inheritance link, the Jaccard ratio over
every link is the one `opencog_infer_similarity` computes. -/
theorem linkJaccard_eq_similarityStrength (s : AtomSpace)
    (binary : ∀ atom ∈ s.atoms, atom.BinaryInheritanceFor id1 id2) :
    linkJaccard s id1 id2 = similarityStrength s id1 id2 := by
  have sums : mentionSums s id1 id2 = relationSums s id1 id2 :=
    List.foldl_ext _ _ _ fun sums atom mem =>
      (relationStep_eq_mentionStep id1 id2 (binary atom mem) sums).symm
  simp only [linkJaccard, similarityStrength, sums]

end Scans

/-- A zero tensor has a zero dot product with every tensor. -/
@[simp] theorem dotProduct_zeroTensor (n : Nat) (v : Tensor) : dotProduct (zeroTensor n) v = 0 := by
  induction n generalizing v with
  | zero => rfl
  | succ n ih =>
    cases v with
    | nil => rfl
    | cons x v => simpa [dotProduct, zeroTensor, List.replicate_succ] using ih v

/-- `opencog_compute_similarity` on two ids that resolve writes nothing, and is the cosine of
two tensors of one size with non-zero norms, 0 for tensors of different sizes, and otherwise
the Jaccard ratio over every link, which is the ratio of `opencog_infer_similarity` where each
live link naming either id is a binary Inheritance link. -/
theorem compute_similarity_cosine_or_link_jaccard (sqrtf : ℚ → ℚ) (s : AtomSpace) {a b : Nat}
    {v w : Tensor} (tensor_a : opencogAtomToTensor s a = some v)
    (tensor_b : opencogAtomToTensor s b = some w) :
    s.step (.computeSimilarity a b) = s ∧
      opencogComputeSimilarity sqrtf s a b =
        (if v.length ≠ w.length then 0
        else if 0 < dotProduct v v ∧ 0 < dotProduct w w then
          dotProduct v w / (sqrtf (dotProduct v v) * sqrtf (dotProduct w w))
        else linkJaccard s a b) ∧
      ((∀ atom ∈ s.atoms, atom.BinaryInheritanceFor a b) →
        linkJaccard s a b = similarityStrength s a b) := by
  obtain ⟨x, found_a, rfl⟩ := Option.map_eq_some'.1 tensor_a
  obtain ⟨y, found_b, rfl⟩ := Option.map_eq_some'.1 tensor_b
  refine ⟨rfl, ?_, linkJaccard_eq_similarityStrength a b s⟩
  simp only [opencogComputeSimilarity, found_a, found_b, sharedRelationRatio_eq_linkJaccard]

/-- Two unnamed concepts, whose tensors are zero, and an Evaluation link between them. -/
def unnamedEvaluation : AtomSpace :=
  ((opencogAtomspaceInit.step (.addNode .conceptNode (some []))).step
    (.addNode .conceptNode (some []))).step (.addLink .evaluationLink [1, 2])

/-- The three calls reach that table. -/
theorem unnamedEvaluation_reachable : unnamedEvaluation.Reachable :=
  .tail (.tail (.tail .refl ⟨_, rfl⟩) ⟨_, rfl⟩) ⟨_, rfl⟩

/-- Both empty names encode as the zero tensor. -/
theorem unnamedEvaluation_tensors :
    opencogAtomToTensor unnamedEvaluation 1 = some (zeroTensor 128) ∧
      opencogAtomToTensor unnamedEvaluation 2 = some (zeroTensor 128) := by
  simp [unnamedEvaluation, AtomSpace.step, opencogAddNode, opencogAddLink, AtomSpace.push, newNode,
    newLink, outgoingResolve, opencogGetAtom, Atom.isLive, AtomSpace.full, AtomSpace.atomCount,
    opencogAtomspaceInit, opencogMaxAtoms, addIncomingLinks, AtomSpace.updateAtom, modifyFirst,
    Atom.addIncoming, opencogAtomToTensor, nameEncoding, cstr]

/-- On two unnamed nodes joined by an Evaluation link, the similarity is the link Jaccard index. -/
theorem unnamedEvaluation_similarity :
    opencogComputeSimilarity Rat.sqrt unnamedEvaluation 1 2 = linkJaccard unnamedEvaluation 1 2 :=
  (compute_similarity_cosine_or_link_jaccard Rat.sqrt unnamedEvaluation
    unnamedEvaluation_tensors.1 unnamedEvaluation_tensors.2).2.1.trans (by simp)

/-- Unnamed nodes embed as zero tensors, so their similarity is 1 while they share no
Inheritance or Similarity link. -/
theorem unnamedEvaluation_counts_every_link :
    unnamedEvaluation.Reachable ∧
      opencogAtomToTensor unnamedEvaluation 1 = some (zeroTensor 128) ∧
      opencogAtomToTensor unnamedEvaluation 2 = some (zeroTensor 128) ∧
      opencogComputeSimilarity Rat.sqrt unnamedEvaluation 1 2 = 1 ∧
      similarityStrength unnamedEvaluation 1 2 = 0 := by
  refine ⟨unnamedEvaluation_reachable, unnamedEvaluation_tensors.1, unnamedEvaluation_tensors.2, ?_⟩
  simp [unnamedEvaluation, AtomSpace.step, opencogAddNode, opencogAddLink, AtomSpace.push, newNode,
    newLink, outgoingResolve, opencogGetAtom, Atom.isLive, AtomSpace.full, AtomSpace.atomCount,
    opencogAtomspaceInit, opencogMaxAtoms, addIncomingLinks, AtomSpace.updateAtom, modifyFirst,
    Atom.addIncoming, nameEncoding, cstr, opencogComputeSimilarity, sharedRelationRatio, sharedStep,
    similarityStrength, relationSums, relationStep, jaccardRatio]
  norm_num

end Coggml

import Coggml.AtomSpace.Structure
/-!
# Inference counters and value ranges

The statistics of the inference rules as a small machine of their own: every call leaves
`(total_inferences, successful_inferences, reasoning_accuracy)` alone, counts a success and
recomputes the ratio, or counts a failure and keeps the old ratio (`step_counters`). Along
any run the accuracy is therefore the ratio at the last success, never the current one after
a failure (`AtomSpace.Reachable.staleRatio`).

The setters and the ECAN functions clamp what they write; `opencog_from_cogfluence_unit`
copies the unit's truth value, confidence, attention value and activation level unclamped.
-/

namespace Coggml

/-! ## Inference counters -/

/-- `(total_inferences, successful_inferences, reasoning_accuracy)`. -/
def AtomSpace.counters (s : AtomSpace) : Nat × Nat × ℚ :=
  (s.totalInferences, s.successfulInferences, s.reasoningAccuracy)

/-- A counted success: both counts advance and the accuracy is recomputed. -/
def countSuccess : Nat × Nat × ℚ → Nat × Nat × ℚ
  | (total, successful, _) =>
    (total + 1, successful + 1, ((successful + 1 : Nat) : ℚ) / ((total + 1 : Nat) : ℚ))

/-- A counted failure: only the total advances. -/
def countFailure : Nat × Nat × ℚ → Nat × Nat × ℚ
  | (total, successful, accuracy) => (total + 1, successful, accuracy)

/-- The counters' invariant: the accuracy is `successful / t` for a total `t` between the
successes and the current total. -/
def StaleRatio : Nat × Nat × ℚ → Prop
  | (total, successful, accuracy) =>
    ∃ t, successful ≤ t ∧ t ≤ total ∧ accuracy = (successful : ℚ) / t

section Counters

variable {s : AtomSpace}

@[simp] theorem counters_updateAtom (x : Nat) (f : Atom → Atom) :
    (s.updateAtom x f).counters = s.counters := by
  unfold AtomSpace.updateAtom; split <;> rfl

@[simp] theorem counters_push (a : Atom) : (s.push a).counters = s.counters := rfl

@[simp] theorem counters_recordSuccess : s.recordSuccess.counters = countSuccess s.counters := rfl

@[simp] theorem counters_recordFailure : s.recordFailure.counters = countFailure s.counters := rfl

@[simp] theorem counters_addIncomingLinks (linkId : Nat) (outgoing : List Nat) :
    (addIncomingLinks linkId s outgoing).counters = s.counters := by
  induction outgoing generalizing s with
  | nil => rfl
  | cons target rest ih => exact ih.trans (counters_updateAtom _ _)

@[simp] theorem counters_addNode (type : AtomType) (name : Option CString) :
    (opencogAddNode s type name).1.counters = s.counters := by
  unfold opencogAddNode; split
  · rfl
  · split <;> rfl

@[simp] theorem counters_addLink (type : AtomType) (outgoing : List Nat) :
    (opencogAddLink s type outgoing).1.counters = s.counters := by
  unfold opencogAddLink; split_ifs <;> simp

@[simp] theorem counters_setTruthValue (x : Nat) (strength confidence : ℚ) :
    (opencogSetTruthValue s x strength confidence).counters = s.counters :=
  counters_updateAtom _ _

@[simp] theorem counters_spreadTo (share : ℚ) (targets : List Nat) :
    (spreadTo s share targets).counters = s.counters := by
  induction targets generalizing s with
  | nil => rfl
  | cons target rest ih => exact ih.trans (counters_updateAtom _ _)

@[simp] theorem counters_setAttentionValue (x : Nat) (sti lti vlti : ℚ) :
    (opencogSetAttentionValue s x sti lti vlti).counters = s.counters :=
  counters_updateAtom _ _

@[simp] theorem counters_updateAttentionValues :
    (opencogUpdateAttentionValues s).counters = s.counters := rfl

/-- Every call leaves the counters alone, counts a success or counts a failure. -/
theorem step_counters (op : AtomSpaceOp) :
    (s.step op).counters = s.counters ∨ (s.step op).counters = countSuccess s.counters ∨
      (s.step op).counters = countFailure s.counters := by
  cases op with
  | inferInheritance a b c =>
    simp only [AtomSpace.step, opencogInferInheritance]
    split
    · exact .inl rfl
    · split <;> simp
  | inferSimilarity a b =>
    simp only [AtomSpace.step, opencogInferSimilarity]
    split
    · split <;> simp
    · simp
  | fromCogfluenceUnit unit =>
    refine .inl ?_
    cases unit with
    | none => rfl
    | some unit => simp only [AtomSpace.step, opencogFromCogfluenceUnit]; split <;> simp
  | tensorToAtom tensor name =>
    refine .inl ?_
    simp only [AtomSpace.step, opencogTensorToAtom]
    split
    · split <;> simp
    · rfl
  | spreadAttention source amount =>
    refine .inl ?_
    simp only [AtomSpace.step, opencogSpreadAttention]
    split
    · rfl
    · split <;> split <;> simp
  | _ => exact .inl (by simp [AtomSpace.step])

/-- A success makes the accuracy the fresh ratio. -/
theorem StaleRatio.countSuccess {c : Nat × Nat × ℚ} (stale : StaleRatio c) :
    StaleRatio (countSuccess c) := by
  obtain ⟨total, successful, accuracy⟩ := c
  obtain ⟨t, low, high, -⟩ := stale
  exact ⟨total + 1, Nat.succ_le_succ (low.trans high), le_rfl, rfl⟩

/-- A failure keeps the old ratio, now stale by one more inference. -/
theorem StaleRatio.countFailure {c : Nat × Nat × ℚ} (stale : StaleRatio c) :
    StaleRatio (countFailure c) := by
  obtain ⟨total, successful, accuracy⟩ := c
  obtain ⟨t, low, high, ratio⟩ := stale
  exact ⟨t, low, Nat.le_succ_of_le high, ratio⟩

/-- Along every run from `opencog_atomspace_init` the accuracy is a stale success ratio. -/
theorem AtomSpace.Reachable.staleRatio (reachable : s.Reachable) : StaleRatio s.counters := by
  induction reachable with
  | refl => exact ⟨0, le_rfl, le_rfl, by simp [opencogAtomspaceInit]⟩
  | tail _ last stale =>
    obtain ⟨op, rfl⟩ := last
    rcases step_counters op with same | success | failure
    · rwa [same]
    · rw [success]; exact stale.countSuccess
    · rw [failure]; exact stale.countFailure

/-- Successes never exceed inferences. -/
theorem AtomSpace.Reachable.successful_le_total (reachable : s.Reachable) :
    s.successfulInferences ≤ s.totalInferences := by
  obtain ⟨t, low, high, -⟩ := reachable.staleRatio
  exact low.trans high

end Counters

/-- A similarity inference that creates a link, then one that finds no relation. -/
def similarityThenMiss : AtomSpace :=
  (dogIsAnimal.step (.inferSimilarity 1 2)).step (.inferSimilarity 5 6)

/-- A similarity and a failed inference count two inferences, one success and one failure. -/
theorem similarityThenMiss_keeps_accuracy :
    similarityThenMiss.Reachable ∧ similarityThenMiss.counters = (2, 1, 1) := by
  refine ⟨.tail (.tail dogIsAnimal_reachable ⟨_, rfl⟩) ⟨_, rfl⟩, ?_⟩
  have positive : (0 : ℚ) < 0.8 := by norm_num
  have similar : (0.1 : ℚ) < 0.8 / 0.8 := by norm_num
  simp [similarityThenMiss, dogIsAnimal, AtomSpace.step, opencogInferSimilarity,
    similarityStrength, relationSums, relationStep, jaccardRatio, opencogAddNode, opencogAddLink,
    AtomSpace.push, newNode, newLink, outgoingResolve, opencogGetAtom, Atom.isLive,
    AtomSpace.full, AtomSpace.atomCount, opencogAtomspaceInit, opencogMaxAtoms, AtomSpace.counters,
    countSuccess, countFailure, addIncomingLinks, AtomSpace.updateAtom, modifyFirst, Atom.addIncoming,
    opencogSetTruthValue, AtomSpace.recordSuccess, AtomSpace.recordFailure, positive, similar]

/-! ## Value ranges -/

/-- The documented ranges: strength and confidence in `[0, 1]`, STI in `[-1, 1]`, LTI and
VLTI in `[0, 1]`. -/
def Atom.ValuesInRange (a : Atom) : Prop :=
  0 ≤ a.truthValue.strength ∧ a.truthValue.strength ≤ 1 ∧
  0 ≤ a.truthValue.confidence ∧ a.truthValue.confidence ≤ 1 ∧
  -1 ≤ a.attentionValue.sti ∧ a.attentionValue.sti ≤ 1 ∧
  0 ≤ a.attentionValue.lti ∧ a.attentionValue.lti ≤ 1 ∧
  0 ≤ a.attentionValue.vlti ∧ a.attentionValue.vlti ≤ 1

/-- Every atom of the table is within the documented ranges. -/
def AtomSpace.ValuesInRange (s : AtomSpace) : Prop := ∀ a ∈ s.atoms, a.ValuesInRange

/-- A unit record whose truth value is above 1, as a `cogfluence_knowledge_unit_t` can hold. -/
def overconfidentUnit : KnowledgeUnit where
  name := cstr "Dog"
  type := .concept
  embedding := none
  tensorEncoding := none
  atomspaceId := 1
  truthValue := 3 / 2
  confidence := 0.7
  activationLevel := 0.5
  attentionValue := 0.5
  relatedUnits := []

/-- A unit with activation 3/2 becomes an atom with strength 3/2, outside the unit interval. -/
theorem fromCogfluenceUnit_copies_unclamped :
    (opencogAtomspaceInit.step (.fromCogfluenceUnit (some overconfidentUnit))).Reachable ∧
      opencogGetTruthValue (opencogAtomspaceInit.step (.fromCogfluenceUnit (some overconfidentUnit)))
        1 = ⟨3 / 2, 0.7, 1⟩ ∧
      ¬ (opencogAtomspaceInit.step (.fromCogfluenceUnit (some overconfidentUnit))).ValuesInRange := by
  refine ⟨.tail .refl ⟨_, rfl⟩, ?_⟩
  simp only [opencogGetTruthValue, opencogGetAtom, one_ne_zero, ↓reduceIte, AtomSpace.step,
    opencogFromCogfluenceUnit, opencogAddNode, AtomSpace.full, opencogAtomspaceInit, opencogMaxAtoms,
    AtomSpace.atomCount, List.length_nil, nonpos_iff_eq_zero, OfNat.ofNat_ne_zero, decide_False,
    Bool.false_eq_true, AtomSpace.push, newNode, overconfidentUnit, List.nil_append, Nat.reduceAdd,
    zero_lt_one, AtomSpace.updateAtom, modifyFirst, Atom.isLive, beq_self_eq_true, Bool.not_false,
    Bool.and_self, Atom.copyUnit, Option.getD_none, List.find?_cons_of_pos, AtomSpace.ValuesInRange,
    List.mem_singleton, Atom.ValuesInRange, forall_eq, true_and]
  norm_num

end Coggml

import Coggml.AtomSpace.Table
import Mathlib.Logic.Relation
/-!
# AtomSpace operations

The truth-value combinators, the ECAN attention functions, the two PLN inference rules,
`opencog_compute_similarity`, the Cogfluence and tensor constructors and the four queries,
each as the C computes it. The scans of the inference rules are the accumulator loops of
the source, as folds over the slots. `AtomSpace.step` applies one public operation with
arbitrary arguments, discarding its result; `AtomSpace.Reachable` is every state a finite
sequence of them reaches from `opencog_atomspace_init`.

`sqrtf` is the C library's square root and is a parameter of `opencog_compute_similarity`.
-/

namespace Coggml

/-! ## Truth values -/

/-- The confidence combination `c1*c2 / (c1 + c2 - c1*c2)` shared by AND, OR and deduction.
With a zero denominator the `float` quotient is NaN (`0/0`) or an infinity of the numerator's
sign, which no rational is: the model takes the value that `fmaxf(0, fminf(1, x))` makes of it
(`fminf` drops a NaN for 1), since every caller that keeps the result clamps it so before it is
read again (`opencog_set_truth_value` in deduction, the end of a MOSES round). -/
def confidenceCombination (c1 c2 : ℚ) : ℚ :=
  if c1 + c2 - c1 * c2 = 0 then (if c1 * c2 < 0 then 0 else 1)
  else c1 * c2 / (c1 + c2 - c1 * c2)

/-- `opencog_pln_and`. -/
def opencogPlnAnd (tv1 tv2 : TruthValue) : TruthValue :=
  ⟨min tv1.strength tv2.strength, confidenceCombination tv1.confidence tv2.confidence,
    min tv1.count tv2.count⟩

/-- `opencog_pln_or`. -/
def opencogPlnOr (tv1 tv2 : TruthValue) : TruthValue :=
  ⟨max tv1.strength tv2.strength, confidenceCombination tv1.confidence tv2.confidence,
    max tv1.count tv2.count⟩

/-- `opencog_pln_not`. -/
def opencogPlnNot (tv : TruthValue) : TruthValue := ⟨1 - tv.strength, tv.confidence, tv.count⟩

/-- `opencog_set_truth_value` — clamp both fields to `[0, 1]` and reset the count. -/
def opencogSetTruthValue (s : AtomSpace) (atomId : Nat) (strength confidence : ℚ) : AtomSpace :=
  s.updateAtom atomId fun a =>
    { a with truthValue := ⟨clampf 0 1 strength, clampf 0 1 confidence, 1⟩ }

/-- `opencog_get_truth_value` — `{0, 0, 0}` for an id that does not resolve. -/
def opencogGetTruthValue (s : AtomSpace) (atomId : Nat) : TruthValue :=
  match opencogGetAtom s atomId with
  | some a => a.truthValue
  | none => ⟨0, 0, 0⟩

/-! ## Attention values -/

/-- `opencog_set_attention_value` — clamp STI to `[-1, 1]`, LTI and VLTI to `[0, 1]`. -/
def opencogSetAttentionValue (s : AtomSpace) (atomId : Nat) (sti lti vlti : ℚ) : AtomSpace :=
  s.updateAtom atomId fun a =>
    { a with attentionValue := ⟨clampf (-1) 1 sti, clampf 0 1 lti, clampf 0 1 vlti⟩ }

/-- `opencog_get_attention_value` — `{0, 0, 0}` for an id that does not resolve. -/
def opencogGetAttentionValue (s : AtomSpace) (atomId : Nat) : AttentionValue :=
  match opencogGetAtom s atomId with
  | some a => a.attentionValue
  | none => ⟨0, 0, 0⟩

/-- One atom's update in `opencog_update_attention_values`: decay, move 10% of an STI above
the threshold into LTI, clamp all three fields. -/
def decayAttention (rate threshold : ℚ) (av : AttentionValue) : AttentionValue :=
  let sti := av.sti * rate
  let lti := av.lti * rate
  let transfer := sti * 0.1
  let (sti, lti) := if sti > threshold then (sti - transfer, lti + transfer) else (sti, lti)
  ⟨clampf (-1) 1 sti, clampf 0 1 lti, clampf 0 1 av.vlti⟩

/-- `opencog_update_attention_values` — decay every live atom. -/
def opencogUpdateAttentionValues (s : AtomSpace) : AtomSpace :=
  { s with atoms := s.atoms.map fun a =>
      if a.isDeleted then a
      else { a with attentionValue :=
        decayAttention s.attentionDecayRate s.attentionThreshold a.attentionValue } }

/-- The body of both loops of `opencog_spread_attention`: add to STI, then clamp. -/
def Atom.addSti (share : ℚ) (a : Atom) : Atom :=
  { a with attentionValue :=
      { a.attentionValue with sti := clampf (-1) 1 (a.attentionValue.sti + share) } }

/-- One loop of `opencog_spread_attention`: each listed target that resolves gets the share. -/
def spreadTo (s : AtomSpace) (share : ℚ) (targets : List Nat) : AtomSpace :=
  targets.foldl (fun s target => s.updateAtom target (Atom.addSti share)) s

/-- `opencog_spread_attention` — `amount / |outgoing|` to each outgoing entry, then
`amount / |incoming|` to each incoming entry, each loop skipped when its list is empty. -/
def opencogSpreadAttention (s : AtomSpace) (source : Nat) (amount : ℚ) : AtomSpace :=
  match opencogGetAtom s source with
  | none => s
  | some src =>
    let s := if src.outgoing = [] then s
      else spreadTo s (amount / src.outgoing.length) src.outgoing
    if src.incoming = [] then s else spreadTo s (amount / src.incoming.length) src.incoming

/-! ## Constructors from other layers -/

/-- The type switch of `opencog_from_cogfluence_unit`. -/
def unitAtomType : UnitType → AtomType
  | .concept => .conceptNode
  | .relation => .inheritanceLink
  | .rule => .implicationLink
  | _ => .conceptNode

/-- The copies `opencog_from_cogfluence_unit` makes into the new atom, unclamped. -/
def Atom.copyUnit (unit : KnowledgeUnit) (a : Atom) : Atom :=
  { a with
    truthValue := { a.truthValue with strength := unit.truthValue, confidence := unit.confidence }
    attentionValue := { a.attentionValue with sti := unit.attentionValue, lti := unit.activationLevel }
    cogfluenceUnitId := unit.atomspaceId
    tensorEncoding := unit.tensorEncoding.getD a.tensorEncoding }

/-- `opencog_from_cogfluence_unit` — a node of the mapped type named after the unit, then the
unit's values copied into it. -/
def opencogFromCogfluenceUnit (s : AtomSpace) (unit : Option KnowledgeUnit) : AtomSpace × Nat :=
  match unit with
  | none => (s, 0)
  | some unit =>
    let (s, atomId) := opencogAddNode s (unitAtomType unit.type) (some unit.name)
    if 0 < atomId then (s.updateAtom atomId (Atom.copyUnit unit), atomId) else (s, atomId)

/-- `opencog_tensor_to_atom` — a concept node carrying a copy of the tensor. -/
def opencogTensorToAtom (s : AtomSpace) (tensor : Option Tensor) (name : Option CString) :
    AtomSpace × Nat :=
  match tensor, name with
  | some tensor, some name =>
    let (s, atomId) := opencogAddNode s .conceptNode (some name)
    if atomId = 0 then (s, 0)
    else (s.updateAtom atomId fun a => { a with tensorEncoding := tensor }, atomId)
  | _, _ => (s, 0)

/-- `opencog_atom_to_tensor` — a copy of the atom's tensor. -/
def opencogAtomToTensor (s : AtomSpace) (atomId : Nat) : Option Tensor :=
  (opencogGetAtom s atomId).map Atom.tensorEncoding

/-! ## Inference -/

/-- Count one inference that created a link and recompute the accuracy. -/
def AtomSpace.recordSuccess (s : AtomSpace) : AtomSpace :=
  let total := s.totalInferences + 1
  let successful := s.successfulInferences + 1
  { s with totalInferences := total, successfulInferences := successful,
           reasoningAccuracy := (successful : ℚ) / total }

/-- Count one inference that created nothing; the accuracy is not recomputed. -/
def AtomSpace.recordFailure (s : AtomSpace) : AtomSpace :=
  { s with totalInferences := s.totalInferences + 1 }

/-- One iteration of the premise scan of `opencog_infer_inheritance`: a live Inheritance link
with at least two entries replaces the `[a, b]` or `[b, c]` candidate it matches. -/
def premiseStep (a b c : Nat) (found : Nat × Nat) (atom : Atom) : Nat × Nat :=
  if atom.isDeleted || atom.type != .inheritanceLink then found
  else match atom.outgoing with
    | x :: y :: _ =>
      (if x = a ∧ y = b then atom.atomId else found.1,
        if x = b ∧ y = c then atom.atomId else found.2)
    | _ => found

/-- The premise links `(ab_link, bc_link)` the scan ends with, 0 when none matched. -/
def inheritancePremises (s : AtomSpace) (a b c : Nat) : Nat × Nat :=
  s.atoms.foldl (premiseStep a b c) (0, 0)

/-- The PLN deduction of `opencog_infer_inheritance`. -/
def deductionTruthValue (ab bc : TruthValue) : TruthValue :=
  ⟨ab.strength * bc.strength, confidenceCombination ab.confidence bc.confidence,
    min ab.count bc.count⟩

/-- `opencog_infer_inheritance` — from links `[a, b]` and `[b, c]`, a new Inheritance link
`[a, c]` with the deduced truth value. -/
def opencogInferInheritance (s : AtomSpace) (a b c : Nat) : AtomSpace × Bool :=
  let (ab, bc) := inheritancePremises s a b c
  if ab = 0 ∨ bc = 0 then (s, false)
  else
    let tv := deductionTruthValue (opencogGetTruthValue s ab) (opencogGetTruthValue s bc)
    let (s, ac) := opencogAddLink s .inheritanceLink [a, c]
    if 0 < ac then ((opencogSetTruthValue s ac tv.strength tv.confidence).recordSuccess, true)
    else (s.recordFailure, false)

/-- One iteration of the scan of `opencog_infer_similarity`: the strength of a live Inheritance
link relating `a` and `b` through its first two entries goes to `common`, `total_a`, `total_b`. -/
def relationStep (a b : Nat) (sums : ℚ × ℚ × ℚ) (atom : Atom) : ℚ × ℚ × ℚ :=
  if atom.isDeleted || atom.type != .inheritanceLink then sums
  else match atom.outgoing with
    | x :: y :: _ =>
      let aRelated := x == a || y == a
      let bRelated := x == b || y == b
      let strength := atom.truthValue.strength
      (if aRelated && bRelated then sums.1 + strength else sums.1,
        if aRelated then sums.2.1 + strength else sums.2.1,
        if bRelated then sums.2.2 + strength else sums.2.2)
    | _ => sums

/-- `(common_relations, total_a_relations, total_b_relations)` after the scan. -/
def relationSums (s : AtomSpace) (a b : Nat) : ℚ × ℚ × ℚ :=
  s.atoms.foldl (relationStep a b) (0, 0, 0)

/-- The guarded ratio `common / (total_a + total_b - common)`, 0 unless the denominator is
positive. -/
def jaccardRatio (common totalA totalB : ℚ) : ℚ :=
  if 0 < totalA + totalB - common then common / (totalA + totalB - common) else 0

/-- The `similarity_strength` that `opencog_infer_similarity` computes. -/
def similarityStrength (s : AtomSpace) (a b : Nat) : ℚ :=
  let (common, totalA, totalB) := relationSums s a b
  jaccardRatio common totalA totalB

/-- `opencog_infer_similarity` — a Similarity link `[a, b]` when the ratio exceeds 0.1. -/
def opencogInferSimilarity (s : AtomSpace) (a b : Nat) : AtomSpace × Bool :=
  let common := (relationSums s a b).1
  let similarity := similarityStrength s a b
  if 0.1 < similarity then
    let (s, link) := opencogAddLink s .similarityLink [a, b]
    if 0 < link then
      ((opencogSetTruthValue s link similarity (min 0.9 (common / 10))).recordSuccess, true)
    else (s.recordFailure, false)
  else (s.recordFailure, false)

/-- The dot product of the cosine loop. -/
def dotProduct (v w : Tensor) : ℚ := (List.zipWith (· * ·) v w).sum

/-- One iteration of the fallback scan of `opencog_compute_similarity`: a live atom with at
least two outgoing entries counts when it names either atom anywhere. -/
def sharedStep (id1 id2 : Nat) (sums : ℚ × ℚ) (atom : Atom) : ℚ × ℚ :=
  if atom.isDeleted || atom.outgoing.length < 2 then sums
  else
    let has1 := atom.outgoing.contains id1
    let has2 := atom.outgoing.contains id2
    let strength := atom.truthValue.strength
    (if has1 && has2 then sums.1 + strength else sums.1,
      if has1 || has2 then sums.2 + strength else sums.2)

/-- The shared-relation fallback `shared / total` of `opencog_compute_similarity`. -/
def sharedRelationRatio (s : AtomSpace) (id1 id2 : Nat) : ℚ :=
  let (shared, total) := s.atoms.foldl (sharedStep id1 id2) (0, 0)
  if 0 < total then shared / total else 0

/-- `opencog_compute_similarity` — the cosine of the two tensors when they have the same size
and non-zero norms, 0 for different sizes, the shared-relation ratio otherwise. -/
def opencogComputeSimilarity (sqrtf : ℚ → ℚ) (s : AtomSpace) (id1 id2 : Nat) : ℚ :=
  match opencogGetAtom s id1, opencogGetAtom s id2 with
  | some x, some y =>
    if x.tensorEncoding.length ≠ y.tensorEncoding.length then 0
    else
      let norm1 := dotProduct x.tensorEncoding x.tensorEncoding
      let norm2 := dotProduct y.tensorEncoding y.tensorEncoding
      if 0 < norm1 ∧ 0 < norm2 then
        dotProduct x.tensorEncoding y.tensorEncoding / (sqrtf norm1 * sqrtf norm2)
      else sharedRelationRatio s id1 id2
  | _, _ => 0

/-! ## Queries -/

/-- `opencog_query_by_type` — ids of the live atoms of the type, in slot order. -/
def opencogQueryByType (s : AtomSpace) (type : AtomType) : List Nat :=
  (s.atoms.filter fun a => !a.isDeleted && a.type == type).map Atom.atomId

/-- `opencog_query_by_name` — ids of the live atoms whose stored name is the string. -/
def opencogQueryByName (s : AtomSpace) (name : Option CString) : List Nat :=
  match name with
  | none => []
  | some name => (s.atoms.filter fun a => !a.isDeleted && a.name == name).map Atom.atomId

/-- `opencog_query_incoming` — a copy of the atom's reverse index. -/
def opencogQueryIncoming (s : AtomSpace) (atomId : Nat) : List Nat :=
  match opencogGetAtom s atomId with
  | some a => a.incoming
  | none => []

/-- `opencog_query_outgoing` — a copy of the atom's outgoing list. -/
def opencogQueryOutgoing (s : AtomSpace) (atomId : Nat) : List Nat :=
  match opencogGetAtom s atomId with
  | some a => a.outgoing
  | none => []

/-! ## Runs -/

/-- A call of a public AtomSpace function, with its arguments. -/
inductive AtomSpaceOp
  | addNode (type : AtomType) (name : Option CString)
  | addLink (type : AtomType) (outgoing : List Nat)
  | setTruthValue (atomId : Nat) (strength confidence : ℚ)
  | getTruthValue (atomId : Nat)
  | setAttentionValue (atomId : Nat) (sti lti vlti : ℚ)
  | getAttentionValue (atomId : Nat)
  | updateAttentionValues
  | spreadAttention (source : Nat) (amount : ℚ)
  | inferInheritance (a b c : Nat)
  | inferSimilarity (a b : Nat)
  | computeSimilarity (a b : Nat)
  | fromCogfluenceUnit (unit : Option KnowledgeUnit)
  | tensorToAtom (tensor : Option Tensor) (name : Option CString)
  | atomToTensor (atomId : Nat)
  | queryByType (type : AtomType)
  | queryByName (name : Option CString)
  | queryIncoming (atomId : Nat)
  | queryOutgoing (atomId : Nat)

/-- The table after one call. Getters, similarity and queries only read. -/
def AtomSpace.step (s : AtomSpace) : AtomSpaceOp → AtomSpace
  | .addNode type name => (opencogAddNode s type name).1
  | .addLink type outgoing => (opencogAddLink s type outgoing).1
  | .setTruthValue atomId strength confidence => opencogSetTruthValue s atomId strength confidence
  | .setAttentionValue atomId sti lti vlti => opencogSetAttentionValue s atomId sti lti vlti
  | .updateAttentionValues => opencogUpdateAttentionValues s
  | .spreadAttention source amount => opencogSpreadAttention s source amount
  | .inferInheritance a b c => (opencogInferInheritance s a b c).1
  | .inferSimilarity a b => (opencogInferSimilarity s a b).1
  | .fromCogfluenceUnit unit => (opencogFromCogfluenceUnit s unit).1
  | .tensorToAtom tensor name => (opencogTensorToAtom s tensor name).1
  | .getTruthValue _ | .getAttentionValue _ | .computeSimilarity _ _ | .atomToTensor _
  | .queryByType _ | .queryByName _ | .queryIncoming _ | .queryOutgoing _ => s

/-- One call takes the first table to the second. -/
def AtomSpace.Transition (s s' : AtomSpace) : Prop := ∃ op, s' = s.step op

/-- A finite sequence of calls takes the first table to the second. -/
def AtomSpace.Run : AtomSpace → AtomSpace → Prop := Relation.ReflTransGen AtomSpace.Transition

/-- A table some finite sequence of calls reaches from `opencog_atomspace_init`. -/
def AtomSpace.Reachable (s : AtomSpace) : Prop := AtomSpace.Run opencogAtomspaceInit s

end Coggml

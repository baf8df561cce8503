import Coggml.AtomSpace.Lookup
import Coggml.AtomSpace.Values
import Mathlib.Tactic.FieldSimp
import Mathlib.Tactic.Ring
/-!
# The inference rules

`opencog_infer_inheritance` deduces from the last live Inheritance link whose outgoing list starts
with each premise's ids (`lastPremise`), appends `[a, c]` and counts a success, counts a failure
in a full table, and returns uncounted when a premise is missing; `opencog_infer_similarity`
counts every call. The confidence combination `c1*c2 / (c1 + c2 - c1*c2)` has a zero denominator
in the unit square only at `c1 = c2 = 0`, where the NaN is clamped to confidence 1; elsewhere it
lies between `c1*c2` and `min c1 c2`. It adds `1/c - 1` (`inv_confidenceCombination`), so AND and
OR are commutative and associative on confidences in `(0, 1]`.
-/

namespace Coggml

/-! ## The premise scan -/

/-- The test of the premise scan of `opencog_infer_inheritance`: a live Inheritance link with at
least two outgoing entries, the first two being `x` and `y`. -/
def Atom.isPremise (x y : Nat) (atom : Atom) : Bool :=
  !atom.isDeleted && atom.type == .inheritanceLink &&
    match atom.outgoing with
    | x' :: y' :: _ => x' == x && y' == y
    | _ => false

/-- The link the premise scan settles on for `[x, y]`: the last slot passing the test. -/
def lastPremise (s : AtomSpace) (x y : Nat) : Option Atom :=
  (s.atoms.filter (Atom.isPremise x y)).getLast?

section Scan

variable {s : AtomSpace} {a b c : Nat}

/-- One iteration of the scan updates each candidate by its own test. -/
theorem premiseStep_eq (found : Nat × Nat) (atom : Atom) :
    premiseStep a b c found atom =
      (if atom.isPremise a b then atom.atomId else found.1,
        if atom.isPremise b c then atom.atomId else found.2) := by
  unfold premiseStep Atom.isPremise
  cases deleted : atom.isDeleted <;> by_cases typed : atom.type = .inheritanceLink <;>
    rcases outgoing : atom.outgoing with _ | ⟨x, _ | ⟨y, rest⟩⟩ <;> simp [deleted, typed, outgoing]

/-- A scan that remembers the id of every slot passing a test ends with the id of the last
such slot, or where it started when none passes. -/
theorem foldl_lastId (p : Atom → Bool) (atoms : List Atom) (init : Nat) :
    atoms.foldl (fun found atom => if p atom then atom.atomId else found) init =
      ((atoms.filter p).getLast?.map Atom.atomId).getD init := by
  induction atoms using List.reverseRecOn with
  | nil => rfl
  | append_singleton rest atom ih =>
    rw [List.foldl_append, ih, List.filter_append]
    by_cases pass : p atom <;> simp [pass]

/-- The scan runs the two premise searches side by side. -/
theorem foldl_premiseStep : ∀ (atoms : List Atom) (found : Nat × Nat),
    atoms.foldl (premiseStep a b c) found =
      (atoms.foldl (fun f atom => if atom.isPremise a b then atom.atomId else f) found.1,
        atoms.foldl (fun f atom => if atom.isPremise b c then atom.atomId else f) found.2)
  | [], _ => rfl
  | atom :: rest, found => by
    rw [List.foldl_cons, foldl_premiseStep rest, premiseStep_eq]
    rfl

/-- The premise links of the scan are the last matches, 0 for a premise with none. -/
theorem inheritancePremises_eq (s : AtomSpace) (a b c : Nat) :
    inheritancePremises s a b c =
      (((lastPremise s a b).map Atom.atomId).getD 0, ((lastPremise s b c).map Atom.atomId).getD 0) := by
  rw [inheritancePremises, foldl_premiseStep, foldl_lastId, foldl_lastId]
  rfl

/-- Some slot passes the test exactly when the scan settles on one. -/
theorem exists_premise_iff (s : AtomSpace) (x y : Nat) :
    (∃ l ∈ s.atoms, l.isPremise x y) ↔ (lastPremise s x y).isSome := by
  simp [lastPremise, List.getLast?_isSome, List.filter_eq_nil_iff]

/-- The slots of a well-formed table are in increasing id order. -/
theorem AtomSpace.Wf.pairwise_lt (wf : s.Wf) : s.atoms.Pairwise fun l l' => l.atomId < l'.atomId := by
  have sorted : (s.atoms.map Atom.atomId).Pairwise (· < ·) := by
    rw [s.atomIds_eq, wf.ids]
    exact List.pairwise_lt_range' _ _
  exact List.pairwise_map.1 sorted

/-- In a well-formed table the scan settles on the matching link of highest id. -/
theorem AtomSpace.Wf.lastPremise_spec (wf : s.Wf) {x y : Nat} {l : Atom}
    (last : lastPremise s x y = some l) :
    l ∈ s.atoms ∧ l.isPremise x y ∧ (∀ l' ∈ s.atoms, l'.isPremise x y → l'.atomId ≤ l.atomId) := by
  obtain ⟨earlier, split⟩ := List.getLast?_eq_some_iff.1 last
  have mem : l ∈ s.atoms.filter (Atom.isPremise x y) := split ▸ List.mem_append_right _ (.head _)
  have ordered := (wf.pairwise_lt.sublist (List.filter_sublist (p := Atom.isPremise x y) _)).imp le_of_lt
  rw [split, List.pairwise_append] at ordered
  refine ⟨(List.mem_filter.1 mem).1, (List.mem_filter.1 mem).2, fun l' mem' passes => ?_⟩
  have kept : l' ∈ earlier ++ [l] := split ▸ List.mem_filter.2 ⟨mem', passes⟩
  rcases List.mem_append.1 kept with before | last
  · exact ordered.2.2 l' before l (.head _)
  · rw [List.mem_singleton.1 last]

/-- Every id below the counter of a well-formed table resolves. -/
theorem AtomSpace.Wf.getAtom_isSome (wf : s.Wf) {x : Nat} (positive : 0 < x)
    (older : x < s.nextAtomId) : (opencogGetAtom s x).isSome := by
  have next := wf.next_eq
  simp only [length_skeletons] at next
  rw [wf.getAtom_eq, if_pos ⟨positive, by simp only [AtomSpace.atomCount]; omega⟩]
  simp only [List.getElem?_eq_getElem (show x - 1 < s.atoms.length by omega), Option.isSome_some]

/-- The first two entries of a matching link name atoms of the table. -/
theorem AtomSpace.Wf.premise_resolves (wf : s.Wf) {x y : Nat} {l : Atom} (mem : l ∈ s.atoms)
    (passes : l.isPremise x y) :
    (opencogGetAtom s x).isSome ∧ (opencogGetAtom s y).isSome := by
  have older := wf.acyclic _ (List.mem_map_of_mem Atom.skeleton mem)
  have below := (wf.atomId_mem (List.mem_map_of_mem Atom.skeleton mem)).2
  unfold Atom.isPremise at passes
  split at passes
  · next x' y' rest named =>
    simp only [Bool.and_eq_true, beq_iff_eq] at passes
    obtain ⟨-, rfl, rfl⟩ := passes
    have first := older x' (by simp [Atom.skeleton, named])
    have second := older y' (by simp [Atom.skeleton, named])
    exact ⟨wf.getAtom_isSome first.1 (first.2.trans below),
      wf.getAtom_isSome second.1 (second.2.trans below)⟩
  · simp at passes

end Scan

/-! ## The created link -/

section Create

variable {s : AtomSpace}

/-- A search that skips a prefix writes in the rest. -/
theorem modifyFirst_append_of_forall {α : Type} {p : α → Bool} (f : α → α) {l : List α}
    (skipped : ∀ x ∈ l, p x = false) (r : List α) :
    modifyFirst p f (l ++ r) = l ++ modifyFirst p f r := by
  induction l with
  | nil => rfl
  | cons x rest ih =>
    simp only [List.mem_cons, forall_eq_or_imp] at skipped
    simp [modifyFirst, skipped.1, ih skipped.2]

/-- The reverse-index loop writes nothing but atoms. -/
theorem addIncomingLinks_eq (linkId : Nat) (outgoing : List Nat) :
    ∀ s : AtomSpace, addIncomingLinks linkId s outgoing =
      { s with atoms := (addIncomingLinks linkId s outgoing).atoms } := by
  induction outgoing with
  | nil => intro s; rfl
  | cons target rest ih =>
    intro s
    change addIncomingLinks linkId (s.updateAtom target (Atom.addIncoming linkId)) rest =
      { s with atoms := (addIncomingLinks linkId (s.updateAtom target (Atom.addIncoming linkId)) rest).atoms }
    conv_lhs => rw [ih]
    unfold AtomSpace.updateAtom
    split <;> rfl

/-- A link creation that passes its checks, then the truth-value write on the new link: the
older atoms gain the new id in their reverse indices, and the link is appended with the
clamped truth value. -/
theorem setTruthValue_addLink (wf : s.Wf) (room : s.full = false) {type : AtomType}
    {outgoing : List Nat} (nonempty : outgoing ≠ []) (resolve : outgoingResolve s outgoing = true)
    (strength confidence : ℚ) :
    opencogAddLink s type outgoing =
        ((addIncomingLinks s.nextAtomId s outgoing).push (newLink s type outgoing), s.nextAtomId) ∧
      opencogSetTruthValue (opencogAddLink s type outgoing).1 s.nextAtomId strength confidence =
        { s with
          atoms := (s.atoms.map (fun (x : Atom) => { x with incoming :=
              (x.incoming ++ List.replicate (outgoing.count x.atomId) s.nextAtomId) }) ++
            [{ newLink s type outgoing with
                truthValue := ⟨clampf 0 1 strength, clampf 0 1 confidence, 1⟩ }])
          nextAtomId := s.nextAtomId + 1 } := by
  have created : opencogAddLink s type outgoing =
      ((addIncomingLinks s.nextAtomId s outgoing).push (newLink s type outgoing), s.nextAtomId) := by
    simp [opencogAddLink, nonempty, room, resolve]
  refine ⟨created, ?_⟩
  have older : ∀ x ∈ s.atoms.map (fun (x : Atom) => { x with incoming :=
      (x.incoming ++ List.replicate (outgoing.count x.atomId) s.nextAtomId) }),
      Atom.isLive s.nextAtomId x = false := by
    simp only [List.mem_map, forall_exists_index, and_imp, forall_apply_eq_imp_iff₂]
    intro x mem
    have := (wf.atomId_mem (List.mem_map_of_mem Atom.skeleton mem)).2
    simp [Atom.isLive, Atom.skeleton] at this ⊢
    omega
  rw [created, addIncomingLinks_eq]
  simp only [opencogSetTruthValue, AtomSpace.updateAtom, wf.next_pos.ne', if_false,
    AtomSpace.push, addIncomingLinks_nextAtomId, addIncomingLinks_atoms _ _ s wf.uniqueLive,
    modifyFirst_append_of_forall _ older]
  simp [modifyFirst, Atom.isLive, newLink]

end Create

/-! ## What a call does -/

section Calls

variable {s : AtomSpace} {a b c : Nat}

/-- With a premise missing the rule returns at once. -/
theorem opencogInferInheritance_of_missing
    (missing : lastPremise s a b = none ∨ lastPremise s b c = none) :
    opencogInferInheritance s a b c = (s, false) := by
  rcases missing with missing | missing <;>
    simp [opencogInferInheritance, inheritancePremises_eq, missing]

/-- With both premises found the rule deduces from the last matches, then creates the link
or counts a failure in a full table. -/
theorem opencogInferInheritance_of_premises (wf : s.Wf) {ab bc : Atom}
    (lastAB : lastPremise s a b = some ab) (lastBC : lastPremise s b c = some bc) :
    opencogInferInheritance s a b c =
      if s.full then (s.recordFailure, false)
      else ((opencogSetTruthValue (opencogAddLink s .inheritanceLink [a, c]).1 s.nextAtomId
          (ab.truthValue.strength * bc.truthValue.strength)
          (confidenceCombination ab.truthValue.confidence bc.truthValue.confidence)).recordSuccess,
        true) := by
  obtain ⟨memAB, passesAB, -⟩ := wf.lastPremise_spec lastAB
  obtain ⟨memBC, passesBC, -⟩ := wf.lastPremise_spec lastBC
  have positiveAB : 0 < ab.atomId := (wf.atomId_mem (List.mem_map_of_mem Atom.skeleton memAB)).1
  have positiveBC : 0 < bc.atomId := (wf.atomId_mem (List.mem_map_of_mem Atom.skeleton memBC)).1
  have tvAB : opencogGetTruthValue s ab.atomId = ab.truthValue := by
    simp [opencogGetTruthValue, wf.getAtom_self memAB]
  have tvBC : opencogGetTruthValue s bc.atomId = bc.truthValue := by
    simp [opencogGetTruthValue, wf.getAtom_self memBC]
  simp only [opencogInferInheritance, inheritancePremises_eq, lastAB, lastBC, Option.map_some',
    Option.getD_some, positiveAB.ne', positiveBC.ne', or_self, if_false, tvAB, tvBC,
    deductionTruthValue]
  cases room : s.full
  · have resolve : outgoingResolve s [a, c] = true := by
      simp [outgoingResolve, (wf.premise_resolves memAB passesAB).1,
        (wf.premise_resolves memBC passesBC).2]
    simp only [(setTruthValue_addLink wf room (List.cons_ne_nil _ _) resolve 0 0).1, wf.next_pos,
      if_true, Bool.false_eq_true, if_false]
  · simp [opencogAddLink, room]

/-- `opencog_infer_inheritance` succeeds exactly when both premises exist and the table has room,
and then deduces from the last premise of each pair, the one with the largest id. -/
theorem infer_inheritance_from_last_premises (reachable : s.Reachable) (a b c : Nat) :
    ((opencogInferInheritance s a b c).2 = true ↔
      (∃ l ∈ s.atoms, l.isPremise a b) ∧ (∃ l ∈ s.atoms, l.isPremise b c) ∧ s.full = false) ∧
    ∀ ab bc, lastPremise s a b = some ab → lastPremise s b c = some bc → s.full = false →
      (∀ l ∈ s.atoms, l.isPremise a b → l.atomId ≤ ab.atomId) ∧
      (∀ l ∈ s.atoms, l.isPremise b c → l.atomId ≤ bc.atomId) ∧
      (opencogInferInheritance s a b c).1 =
        { s with
          atoms := (s.atoms.map (fun (x : Atom) => { x with incoming :=
              (x.incoming ++ List.replicate ([a, c].count x.atomId) s.nextAtomId) }) ++
            [{ newLink s .inheritanceLink [a, c] with
                truthValue := ⟨clampf 0 1 (ab.truthValue.strength * bc.truthValue.strength),
                  clampf 0 1 (confidenceCombination ab.truthValue.confidence
                    bc.truthValue.confidence), 1⟩ }])
          nextAtomId := s.nextAtomId + 1 }.recordSuccess := by
  have wf := reachable.wf
  refine ⟨?_, fun ab bc lastAB lastBC room => ?_⟩
  · simp only [exists_premise_iff, Option.isSome_iff_exists]
    cases lastAB : lastPremise s a b with
    | none => simp [opencogInferInheritance_of_missing (.inl lastAB)]
    | some ab =>
      cases lastBC : lastPremise s b c with
      | none => simp [opencogInferInheritance_of_missing (.inr lastBC)]
      | some bc => cases room : s.full <;> simp [opencogInferInheritance_of_premises wf lastAB lastBC, room]
  · obtain ⟨memAB, passesAB, highestAB⟩ := wf.lastPremise_spec lastAB
    obtain ⟨memBC, passesBC, highestBC⟩ := wf.lastPremise_spec lastBC
    have resolve : outgoingResolve s [a, c] = true := by
      simp [outgoingResolve, (wf.premise_resolves memAB passesAB).1,
        (wf.premise_resolves memBC passesBC).2]
    refine ⟨highestAB, highestBC, ?_⟩
    rw [opencogInferInheritance_of_premises wf lastAB lastBC, room, if_neg Bool.false_ne_true,
      (setTruthValue_addLink wf room (List.cons_ne_nil _ _) resolve _ _).2]

/-- Dog, Animal, `Dog → Animal`, then Being and `Animal → Being`. -/
def dogAnimalBeing : AtomSpace :=
  (dogIsAnimal.step (.addNode .conceptNode (some (cstr "Being")))).step
    (.addLink .inheritanceLink [2, 4])

/-- Two calls after `dogIsAnimal` reach `dogAnimalBeing`. -/
theorem dogAnimalBeing_reachable : dogAnimalBeing.Reachable :=
  .tail (.tail dogIsAnimal_reachable ⟨_, rfl⟩) ⟨_, rfl⟩

/-- Dog → Animal and Animal → Being deduce Dog → Being. -/
theorem dogAnimalBeing_deduces :
    dogAnimalBeing.Reachable ∧ (opencogInferInheritance dogAnimalBeing 1 2 4).2 = true :=
  ⟨dogAnimalBeing_reachable,
    (infer_inheritance_from_last_premises dogAnimalBeing_reachable 1 2 4).1.2
      ⟨by decide, by decide, rfl⟩⟩

/-- Concepts 1, 2, 3, the ternary Inheritance link `[1, 2, 3]` and the link `[2, 3]`. -/
def ternaryPremise : AtomSpace :=
  ((((opencogAtomspaceInit.step (.addNode .conceptNode (some (cstr "A")))).step
    (.addNode .conceptNode (some (cstr "B")))).step (.addNode .conceptNode (some (cstr "C")))).step
    (.addLink .inheritanceLink [1, 2, 3])).step (.addLink .inheritanceLink [2, 3])

/-- A three-element Inheritance link whose first two targets are the pair counts as a premise. -/
theorem ternaryPremise_deduces :
    ternaryPremise.Reachable ∧ (opencogInferInheritance ternaryPremise 1 2 3).2 = true ∧
      ∀ l ∈ ternaryPremise.atoms, l.outgoing ≠ [1, 2] :=
  ⟨.tail (.tail (.tail (.tail (.tail .refl ⟨_, rfl⟩) ⟨_, rfl⟩) ⟨_, rfl⟩) ⟨_, rfl⟩) ⟨_, rfl⟩,
    by decide, by decide⟩

/-- Every call of the similarity rule is counted; the inheritance rule is counted only once
both premises are found. -/
theorem inference_counts_found_premises (reachable : s.Reachable) (a b c : Nat) :
    (opencogInferInheritance s a b c).1.counters =
      (if (∃ l ∈ s.atoms, l.isPremise a b) ∧ (∃ l ∈ s.atoms, l.isPremise b c) then
        if (opencogInferInheritance s a b c).2 then countSuccess s.counters
        else countFailure s.counters
      else s.counters) ∧
    (opencogInferSimilarity s a b).1.counters =
      if (opencogInferSimilarity s a b).2 then countSuccess s.counters
      else countFailure s.counters := by
  refine ⟨?_, ?_⟩
  · by_cases found : (∃ l ∈ s.atoms, l.isPremise a b) ∧ (∃ l ∈ s.atoms, l.isPremise b c)
    · rw [if_pos found]
      obtain ⟨ab, lastAB⟩ := Option.isSome_iff_exists.1 ((exists_premise_iff s a b).1 found.1)
      obtain ⟨bc, lastBC⟩ := Option.isSome_iff_exists.1 ((exists_premise_iff s b c).1 found.2)
      rw [opencogInferInheritance_of_premises reachable.wf lastAB lastBC]
      cases s.full <;> simp
    · rw [if_neg found, opencogInferInheritance_of_missing]
      simpa only [exists_premise_iff, not_and_or, Option.not_isSome_iff_eq_none] using found
  · simp only [opencogInferSimilarity]
    split_ifs <;> simp_all

/-- On `dogIsAnimal`, where the premise from atom 2 to atom 3 is missing, the counters move only
when both premises exist. -/
theorem dogIsAnimal_counts :
    dogIsAnimal.Reachable ∧
      (opencogInferInheritance dogIsAnimal 1 2 3).1.counters =
        (if (∃ l ∈ dogIsAnimal.atoms, l.isPremise 1 2) ∧ (∃ l ∈ dogIsAnimal.atoms, l.isPremise 2 3)
          then if (opencogInferInheritance dogIsAnimal 1 2 3).2 then countSuccess dogIsAnimal.counters
            else countFailure dogIsAnimal.counters
          else dogIsAnimal.counters) :=
  ⟨dogIsAnimal_reachable, (inference_counts_found_premises dogIsAnimal_reachable 1 2 3).1⟩

/-- With the premise from atom 2 to atom 3 missing, `opencog_infer_inheritance` fails without
counting the inference, where `opencog_infer_similarity` counts every call. -/
theorem missing_premise_not_counted :
    dogIsAnimal.Reachable ∧ (opencogInferInheritance dogIsAnimal 1 2 3).2 = false ∧
      (opencogInferInheritance dogIsAnimal 1 2 3).1.totalInferences = dogIsAnimal.totalInferences :=
  ⟨dogIsAnimal_reachable, by decide, by decide⟩

end Calls

/-! ## The confidence combination -/

section Confidence

/-- Away from a zero denominator the combination is the quotient. -/
theorem confidenceCombination_of_ne {c1 c2 : ℚ} (nonzero : c1 + c2 - c1 * c2 ≠ 0) :
    confidenceCombination c1 c2 = c1 * c2 / (c1 + c2 - c1 * c2) :=
  if_neg nonzero

/-- In the unit square away from `(0, 0)` the combination has a positive denominator and lies
between the product and the smaller confidence. -/
theorem confidenceCombination_bounds {c1 c2 : ℚ} (unit1 : 0 ≤ c1 ∧ c1 ≤ 1)
    (unit2 : 0 ≤ c2 ∧ c2 ≤ 1) (informed : 0 < c1 ∨ 0 < c2) :
    0 < c1 + c2 - c1 * c2 ∧ c1 * c2 ≤ confidenceCombination c1 c2 ∧
      confidenceCombination c1 c2 ≤ min c1 c2 := by
  have rest1 := mul_nonneg unit2.1 (sub_nonneg.2 unit1.2)
  have rest2 := mul_nonneg unit1.1 (sub_nonneg.2 unit2.2)
  have positive : 0 < c1 + c2 - c1 * c2 := by rcases informed with h | h <;> linarith
  rw [confidenceCombination_of_ne positive.ne']
  refine ⟨positive, (le_div_iff₀ positive).2 ?_,
    le_min ((div_le_iff₀ positive).2 ?_) ((div_le_iff₀ positive).2 ?_)⟩
  · linarith [mul_nonneg (mul_nonneg unit1.1 unit2.1)
      (mul_nonneg (sub_nonneg.2 unit1.2) (sub_nonneg.2 unit2.2))]
  · linarith [mul_nonneg (mul_self_nonneg c1) (sub_nonneg.2 unit2.2)]
  · linarith [mul_nonneg (mul_self_nonneg c2) (sub_nonneg.2 unit1.2)]

/-- For two confidences in the unit interval, not both zero, the denominator of the combination is
positive and each of the three rules gives a confidence between the product and the smaller
confidence, which the clamp leaves alone. -/
theorem confidence_combination_bounds (tv1 tv2 : TruthValue)
    (unit1 : 0 ≤ tv1.confidence ∧ tv1.confidence ≤ 1) (unit2 : 0 ≤ tv2.confidence ∧ tv2.confidence ≤ 1)
    (informed : 0 < tv1.confidence ∨ 0 < tv2.confidence) :
    0 < tv1.confidence + tv2.confidence - tv1.confidence * tv2.confidence ∧
      ∀ tv ∈ [opencogPlnAnd tv1 tv2, opencogPlnOr tv1 tv2, deductionTruthValue tv1 tv2],
        tv1.confidence * tv2.confidence ≤ tv.confidence ∧
          tv.confidence ≤ min tv1.confidence tv2.confidence ∧ clampf 0 1 tv.confidence = tv.confidence := by
  obtain ⟨positive, lower, upper⟩ := confidenceCombination_bounds unit1 unit2 informed
  have combined : ∀ tv ∈ [opencogPlnAnd tv1 tv2, opencogPlnOr tv1 tv2, deductionTruthValue tv1 tv2],
      tv.confidence = confidenceCombination tv1.confidence tv2.confidence := by
    simp [opencogPlnAnd, opencogPlnOr, deductionTruthValue]
  refine ⟨positive, fun tv mem => ?_⟩
  rw [combined tv mem]
  exact ⟨lower, upper, clampf_of_mem ((mul_nonneg unit1.1 unit2.1).trans lower)
    (upper.trans ((min_le_left _ _).trans unit1.2))⟩

/-- Two default truth values combine to confidences between 0.81 and 0.9. -/
theorem default_confidences_combine :
    (0 ≤ (0.9 : ℚ) ∧ (0.9 : ℚ) ≤ 1) ∧ (0 < (0.9 : ℚ) ∨ 0 < (0.9 : ℚ)) ∧
      ∀ tv ∈ [opencogPlnAnd ⟨0.8, 0.9, 1⟩ ⟨0.8, 0.9, 1⟩, opencogPlnOr ⟨0.8, 0.9, 1⟩ ⟨0.8, 0.9, 1⟩,
          deductionTruthValue ⟨0.8, 0.9, 1⟩ ⟨0.8, 0.9, 1⟩],
        (0.9 : ℚ) * 0.9 ≤ tv.confidence ∧ tv.confidence ≤ min 0.9 0.9 ∧
          clampf 0 1 tv.confidence = tv.confidence :=
  have unit : (0 ≤ (0.9 : ℚ) ∧ (0.9 : ℚ) ≤ 1) := by norm_num
  ⟨unit, .inl (by norm_num),
    (confidence_combination_bounds ⟨0.8, 0.9, 1⟩ ⟨0.8, 0.9, 1⟩ unit unit (.inl (by norm_num))).2⟩

/-- `dogAnimalBeing` with both links given confidence 0. -/
def unconfidentChain : AtomSpace :=
  (dogAnimalBeing.step (.setTruthValue 3 1 0)).step (.setTruthValue 5 1 0)

/-- The premises deduction selects there both have confidence 0, so the combination divides 0
by 0, and its clamp, the confidence the deduced link is stored with, is 1. -/
theorem unconfidentChain_zero_denominator :
    unconfidentChain.Reachable ∧ inheritancePremises unconfidentChain 1 2 4 = (3, 5) ∧
      (opencogGetTruthValue unconfidentChain 3).confidence = 0 ∧
      (opencogGetTruthValue unconfidentChain 5).confidence = 0 ∧
      (opencogGetTruthValue unconfidentChain 3).confidence +
          (opencogGetTruthValue unconfidentChain 5).confidence -
          (opencogGetTruthValue unconfidentChain 3).confidence *
            (opencogGetTruthValue unconfidentChain 5).confidence = 0 ∧
      clampf 0 1 (confidenceCombination (opencogGetTruthValue unconfidentChain 3).confidence
        (opencogGetTruthValue unconfidentChain 5).confidence) = 1 := by
  have c3 : (opencogGetTruthValue unconfidentChain 3).confidence = 0 := by decide
  have c5 : (opencogGetTruthValue unconfidentChain 5).confidence = 0 := by decide
  refine ⟨.tail (.tail dogAnimalBeing_reachable ⟨_, rfl⟩) ⟨_, rfl⟩, by decide, c3, c5, ?_, ?_⟩ <;>
    norm_num [c3, c5, confidenceCombination, clampf]

/-! ## The algebra of AND and OR -/

/-- A confidence in `(0, 1]`, where the combination is defined and closed. -/
def TruthValue.Confident (tv : TruthValue) : Prop := 0 < tv.confidence ∧ tv.confidence ≤ 1

instance : DecidablePred TruthValue.Confident := fun tv =>
  inferInstanceAs (Decidable (0 < tv.confidence ∧ tv.confidence ≤ 1))

variable {a b c : ℚ}

/-- On `(0, 1]` the combination stays in `(0, 1]`. -/
theorem confidenceCombination_mem (pa : 0 < a) (a1 : a ≤ 1) (pb : 0 < b) (b1 : b ≤ 1) :
    0 < confidenceCombination a b ∧ confidenceCombination a b ≤ 1 := by
  obtain ⟨-, lower, upper⟩ := confidenceCombination_bounds ⟨pa.le, a1⟩ ⟨pb.le, b1⟩ (.inl pa)
  exact ⟨(mul_pos pa pb).trans_le lower, upper.trans ((min_le_left _ _).trans a1)⟩

/-- On `(0, 1]` the combination adds `1/c - 1`: its inverse is `1/a + 1/b - 1`. -/
theorem inv_confidenceCombination (pa : 0 < a) (a1 : a ≤ 1) (pb : 0 < b) (b1 : b ≤ 1) :
    (confidenceCombination a b)⁻¹ = a⁻¹ + b⁻¹ - 1 := by
  have := pa.ne'
  have := pb.ne'
  have positive := (confidenceCombination_bounds ⟨pa.le, a1⟩ ⟨pb.le, b1⟩ (.inl pa)).1
  have := positive.ne'
  rw [confidenceCombination_of_ne positive.ne', inv_div]
  field_simp
  ring

theorem confidenceCombination_comm (a b : ℚ) :
    confidenceCombination a b = confidenceCombination b a := by
  simp only [confidenceCombination, mul_comm a b, add_comm a b]

/-- On `(0, 1]` the combination is associative: both bracketings have the inverse
`1/a + 1/b + 1/c - 2`. -/
theorem confidenceCombination_assoc (pa : 0 < a) (a1 : a ≤ 1) (pb : 0 < b) (b1 : b ≤ 1)
    (pc : 0 < c) (c1 : c ≤ 1) :
    confidenceCombination (confidenceCombination a b) c =
      confidenceCombination a (confidenceCombination b c) := by
  have ab := confidenceCombination_mem pa a1 pb b1
  have bc := confidenceCombination_mem pb b1 pc c1
  apply inv_injective
  rw [inv_confidenceCombination ab.1 ab.2 pc c1, inv_confidenceCombination pa a1 bc.1 bc.2,
    inv_confidenceCombination pa a1 pb b1, inv_confidenceCombination pb b1 pc c1]
  ring

variable {tv1 tv2 tv3 : TruthValue}

/-- The confidences of `(tv1 ∘ tv2) ∘ tv3` and `tv1 ∘ (tv2 ∘ tv3)` agree. -/
theorem TruthValue.Confident.combination_assoc (confident1 : tv1.Confident)
    (confident2 : tv2.Confident) (confident3 : tv3.Confident) :
    confidenceCombination (confidenceCombination tv1.confidence tv2.confidence) tv3.confidence =
      confidenceCombination tv1.confidence (confidenceCombination tv2.confidence tv3.confidence) :=
  confidenceCombination_assoc confident1.1 confident1.2 confident2.1 confident2.2 confident3.1
    confident3.2

/-- On truth values whose confidences lie in `(0, 1]`, `opencog_pln_and` and `opencog_pln_or`
are commutative and associative. -/
theorem pln_and_or_comm_assoc (tv1 tv2 tv3 : TruthValue) (confident1 : tv1.Confident)
    (confident2 : tv2.Confident) (confident3 : tv3.Confident) :
    opencogPlnAnd tv1 tv2 = opencogPlnAnd tv2 tv1 ∧
      opencogPlnAnd (opencogPlnAnd tv1 tv2) tv3 = opencogPlnAnd tv1 (opencogPlnAnd tv2 tv3) ∧
      opencogPlnOr tv1 tv2 = opencogPlnOr tv2 tv1 ∧
      opencogPlnOr (opencogPlnOr tv1 tv2) tv3 = opencogPlnOr tv1 (opencogPlnOr tv2 tv3) := by
  have assoc := confident1.combination_assoc confident2 confident3
  refine ⟨?_, ?_, ?_, ?_⟩
  · simp only [opencogPlnAnd, min_comm tv1.strength, min_comm tv1.count,
      confidenceCombination_comm tv1.confidence]
  · simp only [opencogPlnAnd, min_assoc, assoc]
  · simp only [opencogPlnOr, max_comm tv1.strength, max_comm tv1.count,
      confidenceCombination_comm tv1.confidence]
  · simp only [opencogPlnOr, max_assoc, assoc]

/-- The truth values a constant, a variable and a similarity instruction of a MOSES program
carry. -/
def instructionTruths : TruthValue × TruthValue × TruthValue :=
  (⟨0.3, 0.9, 0⟩, ⟨0.6, 0.8, 0⟩, ⟨1, 0.7, 0⟩)

/-- The truth values of the instruction set combine commutatively and associatively under AND
and OR. -/
theorem instructionTruths_combine_freely :
    instructionTruths.1.Confident ∧ instructionTruths.2.1.Confident ∧
      instructionTruths.2.2.Confident ∧
      (opencogPlnAnd instructionTruths.1 instructionTruths.2.1 =
          opencogPlnAnd instructionTruths.2.1 instructionTruths.1 ∧
        opencogPlnAnd (opencogPlnAnd instructionTruths.1 instructionTruths.2.1)
            instructionTruths.2.2 =
          opencogPlnAnd instructionTruths.1
            (opencogPlnAnd instructionTruths.2.1 instructionTruths.2.2) ∧
        opencogPlnOr instructionTruths.1 instructionTruths.2.1 =
          opencogPlnOr instructionTruths.2.1 instructionTruths.1 ∧
        opencogPlnOr (opencogPlnOr instructionTruths.1 instructionTruths.2.1)
            instructionTruths.2.2 =
          opencogPlnOr instructionTruths.1
            (opencogPlnOr instructionTruths.2.1 instructionTruths.2.2)) := by
  have confident : instructionTruths.1.Confident ∧ instructionTruths.2.1.Confident ∧
      instructionTruths.2.2.Confident := by
    norm_num [TruthValue.Confident, instructionTruths]
  exact ⟨confident.1, confident.2.1, confident.2.2,
    pln_and_or_comm_assoc _ _ _ confident.1 confident.2.1 confident.2.2⟩

end Confidence

end Coggml

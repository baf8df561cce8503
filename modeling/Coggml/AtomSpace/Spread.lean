import Coggml.AtomSpace.Structure
/-!
# Spreading attention

`opencog_spread_attention` adds `amount / |outgoing|` to the STI of every atom its source links
to, once per occurrence, then `amount / |incoming|` to every atom linking to it, clamping to
`[-1, 1]` after each addition. Every increment of one call has the sign of `amount`, and
clamping after additions of one sign is clamping once at the end (`clampf_add_clampf`). So an
atom whose STI starts in `[-1, 1]` ends at the clamp of its STI plus its two shares, and
nothing else of the table changes (`spread_attention_adds_shares`).
-/

namespace Coggml

/-! ## Clamping -/

section Clamp

/-- A value at or above the range clamps to its top. -/
theorem clampf_of_hi_le {lo hi x : ℚ} (ordered : lo ≤ hi) (above : hi ≤ x) : clampf lo hi x = hi := by
  rw [clampf, min_eq_left above, max_eq_right ordered]

/-- A value at or below the range clamps to its bottom. -/
theorem clampf_of_le_lo {lo hi x : ℚ} (below : x ≤ lo) : clampf lo hi x = lo :=
  max_eq_left ((min_le_right _ _).trans below)

/-- Two additions of one sign clamped one after the other are one clamped addition. -/
theorem clampf_add_clampf {x u v : ℚ} (low : -1 ≤ x) (high : x ≤ 1)
    (sameSign : (0 ≤ u ∧ 0 ≤ v) ∨ (u ≤ 0 ∧ v ≤ 0)) :
    clampf (-1) 1 (clampf (-1) 1 (x + u) + v) = clampf (-1) 1 (x + u + v) := by
  rcases sameSign with ⟨up, up'⟩ | ⟨down, down'⟩
  · by_cases fits : x + u ≤ 1
    · rw [clampf_of_mem (by linarith) fits]
    · rw [clampf_of_hi_le (x := x + u) (by norm_num) (by linarith),
        clampf_of_hi_le (x := 1 + v) (by norm_num) (by linarith),
        clampf_of_hi_le (x := x + u + v) (by norm_num) (by linarith)]
  · by_cases fits : -1 ≤ x + u
    · rw [clampf_of_mem fits (by linarith)]
    · rw [clampf_of_le_lo (x := x + u) (by linarith), clampf_of_le_lo (x := -1 + v) (by linarith),
        clampf_of_le_lo (x := x + u + v) (by linarith)]

/-- A loop of `k` clamped additions of `d`, from a value in range. -/
theorem clampf_add_iterate {x : ℚ} (low : -1 ≤ x) (high : x ≤ 1) (d : ℚ) (k : Nat) :
    (fun y => clampf (-1) 1 (y + d))^[k] x = clampf (-1) 1 (x + k * d) := by
  induction k with
  | zero => simp [clampf_of_mem low high]
  | succ k ih =>
    have sameSign : (0 ≤ k * d ∧ 0 ≤ d) ∨ (k * d ≤ 0 ∧ d ≤ 0) := by
      rcases le_total 0 d with positive | negative
      · exact .inl ⟨mul_nonneg k.cast_nonneg positive, positive⟩
      · exact .inr ⟨mul_nonpos_of_nonneg_of_nonpos k.cast_nonneg negative, negative⟩
    rw [Function.iterate_succ_apply', ih, clampf_add_clampf low high sameSign, Nat.cast_succ,
      add_one_mul, add_assoc]

end Clamp

/-! ## The two loops -/

section Loops

variable {s : AtomSpace}

/-- The write through `opencog_get_atom` in a table of distinct positive live ids, as a whole
table. -/
theorem updateAtom_eq_map (unique : UniqueLive s.atoms) (x : Nat) (f : Atom → Atom) :
    s.updateAtom x f = { s with atoms := s.atoms.map fun a => if a.atomId = x then f a else a } := by
  rw [← updateAtom_atoms unique]
  unfold AtomSpace.updateAtom
  split <;> rfl

/-- One loop of the spread adds the share to an atom once per occurrence of its id. -/
theorem spreadTo_eq (share : ℚ) (targets : List Nat) :
    ∀ s : AtomSpace, UniqueLive s.atoms →
      spreadTo s share targets =
        { s with atoms := s.atoms.map fun x => (Atom.addSti share)^[targets.count x.atomId] x } := by
  induction targets with
  | nil => intro s _; simp [spreadTo]
  | cons target rest ih =>
    intro s unique
    have unique' : UniqueLive (s.updateAtom target (Atom.addSti share)).atoms := by
      rw [updateAtom_atoms unique]
      exact unique.map (fun a => by split <;> rfl) (fun a => by split <;> rfl)
    change spreadTo (s.updateAtom target (Atom.addSti share)) share rest = _
    rw [ih _ unique', updateAtom_eq_map unique]
    simp only [List.map_map, AtomSpace.mk.injEq, and_true]
    refine List.map_congr_left fun a _ => ?_
    by_cases hit : a.atomId = target
    · simp [hit, List.count_cons, Function.iterate_succ_apply, Atom.addSti]
    · simp [hit, List.count_cons, Ne.symm hit]

/-- `k` additions to one atom change its STI only. -/
theorem addSti_iterate (share : ℚ) (k : Nat) (x : Atom) :
    (Atom.addSti share)^[k] x =
      { x with attentionValue := { x.attentionValue with
          sti := (fun y => clampf (-1) 1 (y + share))^[k] x.attentionValue.sti } } := by
  induction k with
  | zero => rfl
  | succ k ih => rw [Function.iterate_succ_apply', ih, Function.iterate_succ_apply']; rfl

/-- A loop over an empty list writes nothing, so the guards of the C are no-ops. -/
theorem spreadUnless_nil (share : ℚ) (targets : List Nat) :
    (if targets = [] then s else spreadTo s share targets) = spreadTo s share targets := by
  split
  · next empty => rw [empty]; rfl
  · rfl

/-- The increments of the loop over `targets`, as one share of the amount per occurrence. -/
theorem count_mul_share (amount : ℚ) (targets : List Nat) (x : Nat) :
    (targets.count x : ℚ) * (amount / targets.length) =
      if targets = [] then 0 else amount * targets.count x / targets.length := by
  split
  · next empty => simp [empty]
  · rw [← mul_div_assoc, mul_comm]

end Loops

section Spread

variable {s : AtomSpace}

/-- `opencog_spread_attention` leaves the AtomSpace alone on a missing source, and otherwise adds
to each atom's STI its share of the amount along the source's outgoing and incoming lists,
clamped to [-1, 1]. -/
theorem spread_attention_adds_shares (reachable : s.Reachable) (source : Nat) (amount : ℚ) :
    (opencogGetAtom s source = none → opencogSpreadAttention s source amount = s) ∧
    ∀ src, opencogGetAtom s source = some src →
      ∃ sti : Atom → ℚ,
        opencogSpreadAttention s source amount =
          { s with atoms := s.atoms.map fun x =>
              { x with attentionValue := { x.attentionValue with sti := sti x } } } ∧
        ∀ x ∈ s.atoms, -1 ≤ x.attentionValue.sti → x.attentionValue.sti ≤ 1 →
          sti x = clampf (-1) 1 (x.attentionValue.sti +
            (if src.outgoing = [] then 0
              else amount * src.outgoing.count x.atomId / src.outgoing.length) +
            (if src.incoming = [] then 0
              else amount * src.incoming.count x.atomId / src.incoming.length)) := by
  have unique := reachable.wf.uniqueLive
  refine ⟨fun missing => by simp [opencogSpreadAttention, missing], fun src found => ?_⟩
  have first := spreadTo_eq (amount / src.outgoing.length) src.outgoing s unique
  have unique' : UniqueLive (spreadTo s (amount / src.outgoing.length) src.outgoing).atoms := by
    rw [first]
    exact unique.map (fun a => by rw [addSti_iterate]) (fun a => by rw [addSti_iterate])
  refine ⟨fun x =>
    (fun y => clampf (-1) 1 (y + amount / src.incoming.length))^[src.incoming.count x.atomId]
      ((fun y => clampf (-1) 1 (y + amount / src.outgoing.length))^[src.outgoing.count x.atomId]
        x.attentionValue.sti), ?_, fun x _ low high => ?_⟩
  · simp only [opencogSpreadAttention, found, spreadUnless_nil]
    rw [spreadTo_eq _ src.incoming _ unique', first]
    simp only [List.map_map, Function.comp_def, addSti_iterate]
  · have sameSign : (0 ≤ src.outgoing.count x.atomId * (amount / src.outgoing.length) ∧
        0 ≤ src.incoming.count x.atomId * (amount / src.incoming.length)) ∨
        (src.outgoing.count x.atomId * (amount / src.outgoing.length) ≤ 0 ∧
          src.incoming.count x.atomId * (amount / src.incoming.length) ≤ 0) := by
      rcases le_total 0 amount with positive | negative
      · exact .inl ⟨mul_nonneg (Nat.cast_nonneg _) (div_nonneg positive (Nat.cast_nonneg _)),
          mul_nonneg (Nat.cast_nonneg _) (div_nonneg positive (Nat.cast_nonneg _))⟩
      · exact .inr ⟨mul_nonpos_of_nonneg_of_nonpos (Nat.cast_nonneg _)
            (div_nonpos_of_nonpos_of_nonneg negative (Nat.cast_nonneg _)),
          mul_nonpos_of_nonneg_of_nonpos (Nat.cast_nonneg _)
            (div_nonpos_of_nonpos_of_nonneg negative (Nat.cast_nonneg _))⟩
    dsimp only
    rw [clampf_add_iterate low high, clampf_add_iterate le_clampf (clampf_le (by norm_num)),
      clampf_add_clampf low high sameSign, count_mul_share, count_mul_share]

/-- Spreading over the Dog/Animal table: from id 7, which it does not hold, nothing changes;
from the link `Dog → Animal`, each of its two targets gets half of the amount. -/
theorem dogIsAnimal_spread :
    dogIsAnimal.Reachable ∧ opencogSpreadAttention dogIsAnimal 7 (1 / 2) = dogIsAnimal ∧
      ∃ src, opencogGetAtom dogIsAnimal 3 = some src ∧ src.outgoing = [1, 2] ∧
        ∃ sti : Atom → ℚ,
          opencogSpreadAttention dogIsAnimal 3 (1 / 2) =
            { dogIsAnimal with atoms := dogIsAnimal.atoms.map fun x =>
                { x with attentionValue := { x.attentionValue with sti := sti x } } } ∧
          ∀ x ∈ dogIsAnimal.atoms, -1 ≤ x.attentionValue.sti → x.attentionValue.sti ≤ 1 →
            sti x = clampf (-1) 1 (x.attentionValue.sti +
              (if src.outgoing = [] then 0
                else (1 / 2 : ℚ) * src.outgoing.count x.atomId / src.outgoing.length) +
              (if src.incoming = [] then 0
                else (1 / 2 : ℚ) * src.incoming.count x.atomId / src.incoming.length)) := by
  have missing : opencogGetAtom dogIsAnimal 7 = none := by
    rw [dogIsAnimal_reachable.wf.getAtom_eq]; rfl
  obtain ⟨src, found⟩ : ∃ src, opencogGetAtom dogIsAnimal 3 = some src :=
    Option.isSome_iff_exists.1 (by rw [dogIsAnimal_reachable.wf.getAtom_eq]; rfl)
  have outgoing : src.outgoing = [1, 2] := by
    have link := congrArg (Option.map Atom.outgoing) found
    rw [dogIsAnimal_reachable.wf.getAtom_eq] at link
    exact (Option.some.inj link).symm
  have spread := spread_attention_adds_shares dogIsAnimal_reachable
  exact ⟨dogIsAnimal_reachable, (spread 7 (1 / 2)).1 missing, src, found, outgoing,
    (spread 3 (1 / 2)).2 src found⟩

end Spread

end Coggml

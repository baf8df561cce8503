import Coggml.AtomSpace.Skeleton
/-!
# What one call does to the table's skeleton

Each public function either writes values only (`SameShape`: the skeletons, the id counter
and the capacity are unchanged) or creates one atom, which on the skeletons is exactly
`appendSkeleton` with the record its creating call passes (`Grows`). `step_shape` says this
once for every call in a well-formed table; `wf_step` and `Reachable.wf` derive from it and
from `TableWf.append` that every reachable table is well formed. The only lemma that needs
unique ids is `addIncomingLinks_atoms`: the reverse-index loop of `opencog_add_link`, whose
lookups find the first live atom with each id, appends the new id to exactly the atoms
named, once per occurrence.
-/

namespace Coggml

/-- The structural invariant of a table. -/
def AtomSpace.Wf (s : AtomSpace) : Prop := TableWf s.skeletons s.nextAtomId s.atomCapacity

/-- A call that writes values only. -/
structure SameShape (s s' : AtomSpace) : Prop where
  /-- Skeletons unchanged. -/
  skeletons : s'.skeletons = s.skeletons
  /-- No id consumed. -/
  next : s'.nextAtomId = s.nextAtomId
  /-- Capacity unchanged. -/
  capacity : s'.atomCapacity = s.atomCapacity

/-- A call that creates one atom with the given skeleton. -/
structure Grows (s : AtomSpace) (new : Skeleton) (s' : AtomSpace) : Prop where
  /-- Skeletons after the creation. -/
  skeletons : s'.skeletons = appendSkeleton s.skeletons new
  /-- One id consumed. -/
  next : s'.nextAtomId = s.nextAtomId + 1
  /-- Capacity unchanged. -/
  capacity : s'.atomCapacity = s.atomCapacity

/-- The skeleton a call passes to the creating function it calls, with the id it would get. -/
def AtomSpaceOp.creation (next : Nat) : AtomSpaceOp → Option Skeleton
  | .addNode type (some name) => some ⟨next, copyName opencogMaxAtomName name, type, [], [], false⟩
  | .addLink type (target :: rest) => some ⟨next, linkName next, type, target :: rest, [], false⟩
  | .inferInheritance a _ c => some ⟨next, linkName next, .inheritanceLink, [a, c], [], false⟩
  | .inferSimilarity a b => some ⟨next, linkName next, .similarityLink, [a, b], [], false⟩
  | .fromCogfluenceUnit (some unit) =>
    some ⟨next, copyName opencogMaxAtomName unit.name, unitAtomType unit.type, [], [], false⟩
  | .tensorToAtom (some _) (some name) =>
    some ⟨next, copyName opencogMaxAtomName name, .conceptNode, [], [], false⟩
  | _ => none

section Shape

variable {s s' s'' : AtomSpace} {new : Skeleton}

theorem SameShape.rfl' : SameShape s s := ⟨rfl, rfl, rfl⟩

theorem SameShape.trans (first : SameShape s s') (second : SameShape s' s'') : SameShape s s'' :=
  ⟨second.skeletons.trans first.skeletons, second.next.trans first.next,
    second.capacity.trans first.capacity⟩

theorem Grows.trans_same (grows : Grows s new s') (same : SameShape s' s'') : Grows s new s'' :=
  ⟨same.skeletons.trans grows.skeletons, same.next.trans grows.next,
    same.capacity.trans grows.capacity⟩

/-- A write through `opencog_get_atom` that keeps the skeleton keeps the table's shape. -/
theorem sameShape_updateAtom {f : Atom → Atom} (keeps : ∀ a, (f a).skeleton = a.skeleton)
    (atomId : Nat) : SameShape s (s.updateAtom atomId f) := by
  unfold AtomSpace.updateAtom
  split
  · exact SameShape.rfl'
  · refine ⟨?_, rfl, rfl⟩
    simp only [AtomSpace.skeletons]
    induction s.atoms with
    | nil => rfl
    | cons a rest ih => by_cases h : Atom.isLive atomId a <;> simp [modifyFirst, h, ih, keeps]

theorem sameShape_spreadTo (share : ℚ) (targets : List Nat) :
    SameShape s (spreadTo s share targets) := by
  induction targets generalizing s with
  | nil => exact SameShape.rfl'
  | cons target rest ih =>
    exact (sameShape_updateAtom (f := Atom.addSti share) (fun _ => rfl) target).trans ih

theorem sameShape_setTruthValue (atomId : Nat) (strength confidence : ℚ) :
    SameShape s (opencogSetTruthValue s atomId strength confidence) :=
  sameShape_updateAtom (fun _ => rfl) atomId (f := fun a =>
    { a with truthValue := ⟨clampf 0 1 strength, clampf 0 1 confidence, 1⟩ })

theorem sameShape_setAttentionValue (atomId : Nat) (sti lti vlti : ℚ) :
    SameShape s (opencogSetAttentionValue s atomId sti lti vlti) :=
  sameShape_updateAtom (fun _ => rfl) atomId (f := fun a =>
    { a with attentionValue := ⟨clampf (-1) 1 sti, clampf 0 1 lti, clampf 0 1 vlti⟩ })

theorem sameShape_recordSuccess : SameShape s s.recordSuccess := ⟨rfl, rfl, rfl⟩

theorem sameShape_recordFailure : SameShape s s.recordFailure := ⟨rfl, rfl, rfl⟩

/-- A spreading loop that may be skipped keeps the table's shape. -/
theorem sameShape_spreadUnless (skip : Prop) [Decidable skip] (share : ℚ) (targets : List Nat) :
    SameShape s (if skip then s else spreadTo s share targets) := by
  split
  · exact SameShape.rfl'
  · exact sameShape_spreadTo _ _

theorem sameShape_spreadAttention (source : Nat) (amount : ℚ) :
    SameShape s (opencogSpreadAttention s source amount) := by
  unfold opencogSpreadAttention
  split
  · exact SameShape.rfl'
  · exact (sameShape_spreadUnless _ _ _).trans (sameShape_spreadUnless _ _ _)

theorem sameShape_updateAttentionValues : SameShape s (opencogUpdateAttentionValues s) := by
  refine ⟨?_, rfl, rfl⟩
  simp only [AtomSpace.skeletons, opencogUpdateAttentionValues, List.map_map]
  congr 1
  funext a
  by_cases h : a.isDeleted <;> simp [h, Atom.skeleton]

end Shape

section Create

variable {s : AtomSpace}

/-- Atoms with distinct positive ids, none deleted: what the lookups of a well-formed table
see. -/
structure UniqueLive (atoms : List Atom) : Prop where
  /-- Ids are distinct. -/
  nodup : (atoms.map Atom.atomId).Nodup
  /-- No atom is deleted. -/
  live : ∀ a ∈ atoms, a.isDeleted = false
  /-- No atom has id 0. -/
  positive : ∀ a ∈ atoms, 0 < a.atomId

/-- Ids of the filled slots. -/
theorem AtomSpace.atomIds_eq (s : AtomSpace) :
    s.atoms.map Atom.atomId = s.skeletons.map Skeleton.atomId := by
  simp [AtomSpace.skeletons, Atom.skeleton]

/-- The atoms of a well-formed table have distinct positive ids and none is deleted. -/
theorem AtomSpace.Wf.uniqueLive (wf : s.Wf) : UniqueLive s.atoms where
  nodup := by rw [s.atomIds_eq, wf.ids]; exact List.nodup_range' _ _
  live _ mem := wf.live _ (List.mem_map_of_mem _ mem)
  positive _ mem := (wf.atomId_mem (List.mem_map_of_mem Atom.skeleton mem)).1

/-- A rewrite of every atom that keeps ids and delete flags keeps `UniqueLive`. -/
theorem UniqueLive.map {atoms : List Atom} (unique : UniqueLive atoms) {g : Atom → Atom}
    (ids : ∀ a, (g a).atomId = a.atomId) (flags : ∀ a, (g a).isDeleted = a.isDeleted) :
    UniqueLive (atoms.map g) where
  nodup := by simpa [Function.comp_def, ids] using unique.nodup
  live := by simpa [flags] using unique.live
  positive := by simpa [ids] using unique.positive

/-- In a table of distinct live ids, the write through `opencog_get_atom` writes every atom
with the id. -/
theorem modifyFirst_isLive {x : Nat} {f : Atom → Atom} {atoms : List Atom}
    (nodup : (atoms.map Atom.atomId).Nodup) (live : ∀ a ∈ atoms, a.isDeleted = false) :
    modifyFirst (Atom.isLive x) f atoms = atoms.map fun a => if a.atomId = x then f a else a := by
  induction atoms with
  | nil => rfl
  | cons a rest ih =>
    simp only [List.map_cons, List.nodup_cons, List.mem_map, not_exists, not_and] at nodup
    simp only [List.mem_cons, forall_eq_or_imp] at live
    by_cases hx : a.atomId = x
    · have others : ∀ b ∈ rest, b.atomId ≠ x := fun b mem h => nodup.1 b mem (h.trans hx.symm)
      simp [modifyFirst, Atom.isLive, hx, live.1,
        List.map_congr_left (fun b mem => if_neg (others b mem))]
    · simp [modifyFirst, Atom.isLive, hx, ih nodup.2 live.2]

/-- The write through `opencog_get_atom` in a table of distinct positive live ids. -/
theorem updateAtom_atoms (unique : UniqueLive s.atoms) (x : Nat) (f : Atom → Atom) :
    (s.updateAtom x f).atoms = s.atoms.map fun a => if a.atomId = x then f a else a := by
  unfold AtomSpace.updateAtom
  split
  · next zero =>
    subst zero
    calc s.atoms = s.atoms.map id := (List.map_id _).symm
      _ = _ := List.map_congr_left fun a mem => (if_neg (unique.positive a mem).ne').symm
  · exact modifyFirst_isLive unique.nodup unique.live

/-- The reverse-index loop of `opencog_add_link` appends the link id to each atom once per
occurrence of its id. -/
theorem addIncomingLinks_atoms (linkId : Nat) (outgoing : List Nat) :
    ∀ s : AtomSpace, UniqueLive s.atoms →
      (addIncomingLinks linkId s outgoing).atoms = s.atoms.map fun a =>
        { a with incoming := a.incoming ++ List.replicate (outgoing.count a.atomId) linkId } := by
  induction outgoing with
  | nil => intro s _; simp [addIncomingLinks]
  | cons target rest ih =>
    intro s unique
    have written := updateAtom_atoms unique target (Atom.addIncoming linkId)
    have unique' : UniqueLive (s.updateAtom target (Atom.addIncoming linkId)).atoms := by
      rw [written]
      exact unique.map (fun a => by split <;> rfl) (fun a => by split <;> rfl)
    change (addIncomingLinks linkId (s.updateAtom target (Atom.addIncoming linkId)) rest).atoms = _
    rw [ih _ unique', written, List.map_map]
    refine List.map_congr_left fun a _ => ?_
    by_cases h : a.atomId = target
    · simp [Atom.addIncoming, h, List.count_cons, List.replicate_succ]
    · simp [h, List.count_cons, Ne.symm h]

@[simp] theorem updateAtom_nextAtomId (s : AtomSpace) (x : Nat) (f : Atom → Atom) :
    (s.updateAtom x f).nextAtomId = s.nextAtomId := by
  unfold AtomSpace.updateAtom; split <;> rfl

@[simp] theorem updateAtom_atomCapacity (s : AtomSpace) (x : Nat) (f : Atom → Atom) :
    (s.updateAtom x f).atomCapacity = s.atomCapacity := by
  unfold AtomSpace.updateAtom; split <;> rfl

@[simp] theorem addIncomingLinks_nextAtomId (linkId : Nat) (outgoing : List Nat) :
    ∀ s : AtomSpace, (addIncomingLinks linkId s outgoing).nextAtomId = s.nextAtomId := by
  induction outgoing with
  | nil => intro s; rfl
  | cons target rest ih => intro s; exact (ih _).trans (updateAtom_nextAtomId _ _ _)

@[simp] theorem addIncomingLinks_atomCapacity (linkId : Nat) (outgoing : List Nat) :
    ∀ s : AtomSpace, (addIncomingLinks linkId s outgoing).atomCapacity = s.atomCapacity := by
  induction outgoing with
  | nil => intro s; rfl
  | cons target rest ih => intro s; exact (ih _).trans (updateAtom_atomCapacity _ _ _)

@[simp] theorem skeletons_push (s : AtomSpace) (a : Atom) :
    (s.push a).skeletons = s.skeletons ++ [a.skeleton] := by
  simp [AtomSpace.push, AtomSpace.skeletons]

@[simp] theorem length_skeletons (s : AtomSpace) : s.skeletons.length = s.atoms.length := by
  simp [AtomSpace.skeletons]

/-- An atom that names nothing touches no reverse index. -/
theorem appendSkeleton_of_outgoing_nil (table : List Skeleton) {new : Skeleton}
    (none : new.outgoing = []) : appendSkeleton table new = table ++ [new] := by
  rw [appendSkeleton, List.map_id'' fun a => by simp [Skeleton.noteLink, none]]

/-- A lookup that resolves in a well-formed table names an atom older than the counter. -/
theorem AtomSpace.Wf.resolves_lt (wf : s.Wf) {x : Nat} (found : (opencogGetAtom s x).isSome) :
    0 < x ∧ x < s.nextAtomId := by
  unfold opencogGetAtom at found
  split at found
  · simp at found
  · obtain ⟨a, ha⟩ := Option.isSome_iff_exists.1 found
    have mem := List.mem_of_find?_eq_some ha
    have hit := List.find?_some ha
    simp only [Atom.isLive, Bool.and_eq_true, beq_iff_eq] at hit
    rw [← hit.1]
    exact wf.atomId_mem (List.mem_map_of_mem Atom.skeleton mem)

/-- `opencog_add_node` either fails without writing or appends its node. -/
theorem opencogAddNode_spec (s : AtomSpace) (type : AtomType) (name : Option CString) :
    opencogAddNode s type name = (s, 0) ∨
      ∃ n, name = some n ∧ s.full = false ∧
        opencogAddNode s type name = (s.push (newNode s type n), s.nextAtomId) := by
  cases name with
  | none => exact .inl rfl
  | some n =>
    cases room : s.full
    · exact .inr ⟨n, rfl, rfl, by simp [opencogAddNode, room]⟩
    · exact .inl (by simp [opencogAddNode, room])

/-- `opencog_add_link` either fails without writing or updates the reverse indices of its
targets and appends its link. -/
theorem opencogAddLink_spec (s : AtomSpace) (type : AtomType) (outgoing : List Nat) :
    opencogAddLink s type outgoing = (s, 0) ∨
      outgoing ≠ [] ∧ s.full = false ∧ outgoingResolve s outgoing = true ∧
        opencogAddLink s type outgoing =
          ((addIncomingLinks s.nextAtomId s outgoing).push (newLink s type outgoing),
            s.nextAtomId) := by
  unfold opencogAddLink
  by_cases refused : outgoing = [] ∨ s.full = true
  · exact .inl (if_pos refused)
  · rw [if_neg refused]
    simp only [not_or, Bool.not_eq_true] at refused
    cases resolve : outgoingResolve s outgoing
    · exact .inl rfl
    · exact .inr ⟨refused.1, refused.2, rfl, rfl⟩

/-- The node `opencog_add_node` appends can be created. -/
theorem appendable_newNode (room : s.full = false) (type : AtomType) (n : CString) :
    Appendable s.skeletons s.nextAtomId s.atomCapacity (newNode s type n).skeleton where
  room := by simpa [AtomSpace.full, AtomSpace.atomCount] using room
  fresh := rfl
  unnamed := rfl
  live := rfl
  older := by simp [newNode, Atom.skeleton]

/-- Appending the node is the skeleton append. -/
theorem grows_newNode (type : AtomType) (n : CString) :
    Grows s (newNode s type n).skeleton (s.push (newNode s type n)) :=
  ⟨by rw [skeletons_push, appendSkeleton_of_outgoing_nil _ rfl], rfl, rfl⟩

/-- The link `opencog_add_link` appends can be created. -/
theorem appendable_newLink (wf : s.Wf) (room : s.full = false) {type : AtomType}
    {outgoing : List Nat} (resolve : outgoingResolve s outgoing = true) :
    Appendable s.skeletons s.nextAtomId s.atomCapacity (newLink s type outgoing).skeleton where
  room := by simpa [AtomSpace.full, AtomSpace.atomCount] using room
  fresh := rfl
  unnamed := rfl
  live := rfl
  older x mem := wf.resolves_lt (List.all_eq_true.1 resolve x mem)

/-- The reverse-index loop and the append of `opencog_add_link` are the skeleton append. -/
theorem grows_newLink (wf : s.Wf) (type : AtomType) (outgoing : List Nat) :
    Grows s (newLink s type outgoing).skeleton
      ((addIncomingLinks s.nextAtomId s outgoing).push (newLink s type outgoing)) := by
  refine ⟨?_, by simp [AtomSpace.push], by simp [AtomSpace.push]⟩
  simp only [skeletons_push, appendSkeleton]
  simp only [AtomSpace.skeletons, addIncomingLinks_atoms _ _ s wf.uniqueLive, List.map_map]
  rfl

end Create

section Step

variable {s : AtomSpace}

theorem AtomSpace.Wf.next_pos (wf : s.Wf) : 0 < s.nextAtomId := by
  rw [wf.next_eq]; exact Nat.succ_pos _

/-- A value write after a creation. -/
theorem grows_then_update {new : Skeleton} {s' : AtomSpace} (grows : Grows s new s') (x : Nat)
    {f : Atom → Atom} (keeps : ∀ a, (f a).skeleton = a.skeleton) :
    Grows s new (s'.updateAtom x f) :=
  grows.trans_same (sameShape_updateAtom keeps x)

/-- The inference rules' tail: a link creation, then a truth-value write and the counters on
success, or only the counters on failure. -/
theorem inference_shape (wf : s.Wf) (type : AtomType) (outgoing : List Nat)
    (success : AtomSpace → Nat → AtomSpace) (keeps : ∀ t x, SameShape t (success t x)) :
    let r := opencogAddLink s type outgoing
    let after := (if 0 < r.2 then (success r.1 r.2, true) else (r.1.recordFailure, false)).1
    SameShape s after ∨ (outgoingResolve s outgoing = true ∧ s.full = false ∧
      Grows s (newLink s type outgoing).skeleton after) := by
  rcases opencogAddLink_spec s type outgoing with refused | ⟨_, room, resolve, created⟩
  · exact .inl (by simpa [refused] using sameShape_recordFailure)
  · refine .inr ⟨resolve, room, ?_⟩
    simp only [created, wf.next_pos, if_true]
    exact (grows_newLink wf type outgoing).trans_same (keeps _ _)

/-- Every call either writes values only, or creates the atom its creating call passes. -/
theorem step_shape (wf : s.Wf) (op : AtomSpaceOp) :
    SameShape s (s.step op) ∨
      ∃ new, op.creation s.nextAtomId = some new ∧
        Appendable s.skeletons s.nextAtomId s.atomCapacity new ∧ Grows s new (s.step op) := by
  cases op with
  | addNode type name =>
    rcases opencogAddNode_spec s type name with refused | ⟨n, rfl, room, created⟩
    · exact .inl (by simp [AtomSpace.step, refused, SameShape.rfl'])
    · exact .inr ⟨_, rfl, appendable_newNode room type n,
        by simpa [AtomSpace.step, created] using grows_newNode type n⟩
  | addLink type outgoing =>
    rcases opencogAddLink_spec s type outgoing with refused | ⟨nonempty, room, resolve, created⟩
    · exact .inl (by simp [AtomSpace.step, refused, SameShape.rfl'])
    · obtain ⟨target, rest, rfl⟩ := List.exists_cons_of_ne_nil nonempty
      exact .inr ⟨_, rfl, appendable_newLink wf room resolve,
        by simpa [AtomSpace.step, created] using grows_newLink wf type (target :: rest)⟩
  | setTruthValue atomId strength confidence => exact .inl (sameShape_setTruthValue _ _ _)
  | setAttentionValue atomId sti lti vlti => exact .inl (sameShape_setAttentionValue _ _ _ _)
  | updateAttentionValues => exact .inl sameShape_updateAttentionValues
  | spreadAttention source amount => exact .inl (sameShape_spreadAttention _ _)
  | inferInheritance a b c =>
    simp only [AtomSpace.step, opencogInferInheritance]
    split
    · exact .inl SameShape.rfl'
    · rcases inference_shape wf .inheritanceLink [a, c]
        (fun t x => (opencogSetTruthValue t x _ _).recordSuccess)
        (fun t x => (sameShape_setTruthValue _ _ _).trans sameShape_recordSuccess) with
        same | ⟨resolve, room, grows⟩
      · exact .inl same
      · exact .inr ⟨_, rfl, appendable_newLink wf room resolve, grows⟩
  | inferSimilarity a b =>
    simp only [AtomSpace.step, opencogInferSimilarity]
    split
    · rcases inference_shape wf .similarityLink [a, b]
        (fun t x => (opencogSetTruthValue t x _ _).recordSuccess)
        (fun t x => (sameShape_setTruthValue _ _ _).trans sameShape_recordSuccess) with
        same | ⟨resolve, room, grows⟩
      · exact .inl same
      · exact .inr ⟨_, rfl, appendable_newLink wf room resolve, grows⟩
    · exact .inl sameShape_recordFailure
  | fromCogfluenceUnit unit =>
    cases unit with
    | none => exact .inl SameShape.rfl'
    | some unit =>
      rcases opencogAddNode_spec s (unitAtomType unit.type) (some unit.name) with
        refused | ⟨n, named, room, created⟩
      · exact .inl (by simp [AtomSpace.step, opencogFromCogfluenceUnit, refused, SameShape.rfl'])
      · cases named
        refine .inr ⟨_, rfl, appendable_newNode room _ unit.name, ?_⟩
        simp only [AtomSpace.step, opencogFromCogfluenceUnit, created, wf.next_pos, if_true]
        exact grows_then_update (grows_newNode _ unit.name) _ (fun _ => rfl)
  | tensorToAtom tensor name =>
    cases tensor with
    | none => exact .inl SameShape.rfl'
    | some tensor =>
      cases name with
      | none => exact .inl SameShape.rfl'
      | some name =>
        rcases opencogAddNode_spec s .conceptNode (some name) with
          refused | ⟨n, named, room, created⟩
        · exact .inl (by simp [AtomSpace.step, opencogTensorToAtom, refused, SameShape.rfl'])
        · cases named
          refine .inr ⟨_, rfl, appendable_newNode room _ name, ?_⟩
          simp only [AtomSpace.step, opencogTensorToAtom, created, wf.next_pos.ne', if_false]
          exact grows_then_update (grows_newNode _ name) _ (fun _ => rfl)
  | getTruthValue _ | getAttentionValue _ | computeSimilarity _ _ | atomToTensor _
  | queryByType _ | queryByName _ | queryIncoming _ | queryOutgoing _ => exact .inl SameShape.rfl'

/-- The empty table is well formed. -/
theorem wf_init : opencogAtomspaceInit.Wf where
  ids := rfl
  next_eq := rfl
  bounded := Nat.zero_le _
  live := by simp [opencogAtomspaceInit, AtomSpace.skeletons]
  acyclic := by simp [opencogAtomspaceInit, AtomSpace.skeletons]
  reverse := by simp [opencogAtomspaceInit, AtomSpace.skeletons]

/-- Every call keeps the table well formed. -/
theorem AtomSpace.Wf.step (wf : s.Wf) (op : AtomSpaceOp) : (s.step op).Wf := by
  rcases step_shape wf op with same | ⟨new, -, appendable, grows⟩
  · unfold AtomSpace.Wf
    rw [same.skeletons, same.next, same.capacity]
    exact wf
  · unfold AtomSpace.Wf
    rw [grows.skeletons, grows.next, grows.capacity]
    exact wf.append appendable

/-- Every run from a well-formed table ends in one. -/
theorem AtomSpace.Run.wf {s' : AtomSpace} (run : s.Run s') (wf : s.Wf) : s'.Wf := by
  induction run with
  | refl => exact wf
  | tail _ last ih =>
    obtain ⟨op, rfl⟩ := last
    exact ih.step op

/-- Every reachable table is well formed. -/
theorem AtomSpace.Reachable.wf (reachable : s.Reachable) : s.Wf :=
  AtomSpace.Run.wf reachable wf_init

end Step

end Coggml

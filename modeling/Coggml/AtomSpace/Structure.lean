import Coggml.AtomSpace.Refinement
/-!
# Ids and adjacency of every reachable table

From `Reachable.wf` and `step_shape`: slot `i` holds id `i + 1` for good, so
`opencog_get_atom` is the slot lookup `id - 1`; a call extends any column that creation never
rewrites (ids, outgoing lists, types, names) by at most the created atom's entry, so along a
run each column only grows at its end; and each reverse index, being `reverseIndex`, counts
every link by the multiplicity of the target in its outgoing list and lists links in id
order. `atom_ids_are_slots` and `outgoing_incoming_duality` collect these facts.
-/

namespace Coggml

section Lookup

variable {s : AtomSpace}

/-- The linear search over slots numbered from `k` finds slot `x - k`. -/
theorem find?_isLive_of_ids (x : Nat) :
    ∀ (atoms : List Atom) (k : Nat), atoms.map Atom.atomId = List.range' k atoms.length →
      (∀ a ∈ atoms, a.isDeleted = false) →
      atoms.find? (Atom.isLive x) = if k ≤ x ∧ x < k + atoms.length then atoms[x - k]? else none
  | [], k, _, _ => by simp
  | a :: rest, k, ids, live => by
    simp only [List.map_cons, List.length_cons, List.range'_succ, List.cons.injEq] at ids
    simp only [List.mem_cons, forall_eq_or_imp] at live
    have tail := find?_isLive_of_ids x rest (k + 1) ids.2 live.2
    by_cases hx : x = k
    · subst hx
      rw [List.find?_cons_of_pos _ (by simp [Atom.isLive, ids.1, live.1])]
      simp
    · rw [List.find?_cons_of_neg _ (by simp [Atom.isLive, ids.1, Ne.symm hx]), tail]
      by_cases range : k + 1 ≤ x ∧ x < k + 1 + rest.length
      · rw [if_pos range, if_pos (by simp only [List.length_cons]; omega),
          show x - k = x - (k + 1) + 1 by omega, List.getElem?_cons_succ]
      · rw [if_neg range, if_neg (by simp only [List.length_cons]; omega)]

/-- Slot `i` of a well-formed table holds id `i + 1`. -/
theorem AtomSpace.Wf.atomId_getElem (wf : s.Wf) (i : Nat) (h : i < s.atoms.length) :
    s.atoms[i].atomId = i + 1 := by
  have column := congrArg (fun l => l[i]?) (s.atomIds_eq.trans wf.ids)
  simp only [List.getElem?_map, List.getElem?_range', length_skeletons, h, if_true,
    List.getElem?_eq_getElem h, Option.map_some'] at column
  simpa [Nat.add_comm] using column

/-- `opencog_get_atom` in a well-formed table is the lookup of slot `id - 1`. -/
theorem AtomSpace.Wf.getAtom_eq (wf : s.Wf) (x : Nat) :
    opencogGetAtom s x = if 1 ≤ x ∧ x ≤ s.atomCount then s.atoms[x - 1]? else none := by
  unfold opencogGetAtom
  split
  · next zero => simp [zero]
  · rw [find?_isLive_of_ids x s.atoms 1 (s.atomIds_eq.trans (by simpa using wf.ids))
      wf.uniqueLive.live]
    simp only [AtomSpace.atomCount, Nat.lt_one_add_iff]

/-- Every atom of a well-formed table is found under its own id. -/
theorem AtomSpace.Wf.getAtom_self (wf : s.Wf) {a : Atom} (mem : a ∈ s.atoms) :
    opencogGetAtom s a.atomId = some a := by
  obtain ⟨i, h, rfl⟩ := List.mem_iff_getElem.1 mem
  rw [wf.getAtom_eq, wf.atomId_getElem i h]
  simp [AtomSpace.atomCount, h, Nat.succ_le_of_lt h]

/-- An atom's reverse index in a well-formed table is the one the table owes it. -/
theorem AtomSpace.Wf.incoming_eq (wf : s.Wf) {a : Atom} (mem : a ∈ s.atoms) :
    a.incoming = reverseIndex s.skeletons a.atomId :=
  wf.reverse _ (List.mem_map_of_mem Atom.skeleton mem)

end Lookup

section Columns

variable {s s' : AtomSpace} {β : Type} {f : Skeleton → β}

/-- A call extends a column creation never rewrites by at most the created atom's entry. -/
theorem step_column (wf : s.Wf) (stable : ∀ (new : Skeleton) a, f (new.noteLink a) = f a)
    (op : AtomSpaceOp) :
    (s.step op).skeletons.map f = s.skeletons.map f ∨
      ∃ new, op.creation s.nextAtomId = some new ∧
        (s.step op).skeletons.map f = s.skeletons.map f ++ [f new] := by
  rcases step_shape wf op with same | ⟨new, creation, -, grows⟩
  · exact .inl (by rw [same.skeletons])
  · exact .inr ⟨new, creation, by rw [grows.skeletons, map_appendSkeleton f (stable new)]⟩

/-- Along a run, such a column only grows at its end. -/
theorem run_column (run : s.Run s') (wf : s.Wf)
    (stable : ∀ (new : Skeleton) a, f (new.noteLink a) = f a) :
    s.skeletons.map f <+: s'.skeletons.map f := by
  induction run with
  | refl => exact List.prefix_refl _
  | tail run last ih =>
    obtain ⟨op, rfl⟩ := last
    refine ih.trans ?_
    rcases step_column (AtomSpace.Run.wf run wf) stable op with same | ⟨new, -, grown⟩
    · rw [same]
    · rw [grown]; exact List.prefix_append _ _

end Columns

section Reverse

variable {table : List Skeleton} {target : Nat}

/-- Every entry of a reverse index is the id of an atom of the table. -/
theorem mem_reverseIndex {v : Nat} (mem : v ∈ reverseIndex table target) :
    ∃ y ∈ table, y.atomId = v := by
  simp only [reverseIndex, List.mem_flatMap, List.mem_replicate] at mem
  obtain ⟨y, hy, -, rfl⟩ := mem
  exact ⟨y, hy, rfl⟩

/-- With distinct ids, a reverse index counts each atom by the multiplicity of the target in
its outgoing list. -/
theorem count_reverseIndex (nodup : (table.map Skeleton.atomId).Nodup) {y : Skeleton}
    (mem : y ∈ table) : (reverseIndex table target).count y.atomId = y.outgoing.count target := by
  induction table with
  | nil => simp at mem
  | cons z rest ih =>
    simp only [List.map_cons, List.nodup_cons, List.mem_map, not_exists, not_and] at nodup
    simp only [reverseIndex, List.flatMap_cons, List.count_append, List.count_replicate] at ih ⊢
    rcases List.mem_cons.1 mem with rfl | mem
    · have absent : (rest.flatMap fun w => List.replicate (w.outgoing.count target) w.atomId).count
          y.atomId = 0 :=
        List.count_eq_zero.2 fun h => by
          obtain ⟨w, hw, same⟩ := mem_reverseIndex h
          exact nodup.1 w hw same
      simp [absent]
    · have distinct : z.atomId ≠ y.atomId := fun same => nodup.1 y mem same.symm
      simp [distinct, ih nodup.2 mem]

/-- A reverse index over slots numbered from `k` lists its links in id order. -/
theorem sorted_reverseIndex :
    ∀ (table : List Skeleton) (k : Nat), table.map Skeleton.atomId = List.range' k table.length →
      (reverseIndex table target).Sorted (· ≤ ·)
  | [], _, _ => List.sorted_nil
  | z :: rest, k, ids => by
    simp only [List.map_cons, List.length_cons, List.range'_succ, List.cons.injEq] at ids
    have later : ∀ y ∈ rest, k + 1 ≤ y.atomId := fun y mem => by
      have listed : y.atomId ∈ List.range' (k + 1) rest.length :=
        ids.2 ▸ List.mem_map_of_mem Skeleton.atomId mem
      exact (List.mem_range'_1.1 listed).1
    simp only [reverseIndex, List.flatMap_cons]
    refine List.pairwise_append.2 ⟨List.pairwise_replicate.2 (.inr le_rfl),
      sorted_reverseIndex rest (k + 1) ids.2, fun u hu v hv => ?_⟩
    obtain ⟨y, hy, rfl⟩ := mem_reverseIndex hv
    rw [(List.mem_replicate.1 hu).2, ids.1]
    exact Nat.le_of_succ_le (later y hy)

end Reverse

section SlotsAndLinks

variable {s : AtomSpace}

/-- Ids are the slot numbers and the creating functions keep them so. -/
structure AtomSpace.SlotIds (s : AtomSpace) : Prop where
  /-- `atom_count <= atom_capacity`. -/
  bounded : s.atomCount ≤ s.atomCapacity
  /-- `next_atom_id = atom_count + 1`. -/
  next_eq : s.nextAtomId = s.atomCount + 1
  /-- Slot `i` holds the live atom with id `i + 1`. -/
  slot : ∀ i (h : i < s.atoms.length), s.atoms[i].atomId = i + 1 ∧ s.atoms[i].isDeleted = false
  /-- `opencog_get_atom` is the lookup of slot `id - 1`. -/
  lookup : ∀ atomId, opencogGetAtom s atomId =
    if 1 ≤ atomId ∧ atomId ≤ s.atomCount then s.atoms[atomId - 1]? else none
  /-- A refused `opencog_add_node` changes nothing; a successful one returns the counter. -/
  addNode : ∀ type name, let r := opencogAddNode s type name
    (r.2 = 0 ∧ r.1 = s) ∨ (r.2 = s.nextAtomId ∧ 0 < r.2 ∧ r.1.nextAtomId = r.2 + 1)
  /-- A refused `opencog_add_link` changes nothing; a successful one returns the counter. -/
  addLink : ∀ type outgoing, let r := opencogAddLink s type outgoing
    (r.2 = 0 ∧ r.1 = s) ∨ (r.2 = s.nextAtomId ∧ 0 < r.2 ∧ r.1.nextAtomId = r.2 + 1)
  /-- Along any run the ids of the existing slots stay, so no id is reused. -/
  stable : ∀ s', s.Run s' → s.atoms.map Atom.atomId <+: s'.atoms.map Atom.atomId

/-- Every reachable table has its ids as slot numbers. -/
theorem atom_ids_are_slots (reachable : s.Reachable) : s.SlotIds := by
  have wf := reachable.wf
  refine ⟨by simpa using wf.bounded, by simpa using wf.next_eq,
    fun i h => ⟨wf.atomId_getElem i h, wf.uniqueLive.live _ (List.getElem_mem h)⟩,
    wf.getAtom_eq, fun type name => ?_, fun type outgoing => ?_, fun s' run => ?_⟩
  · rcases opencogAddNode_spec s type name with refused | ⟨n, -, -, created⟩
    · exact .inl (by simp [refused])
    · exact .inr (by simp [created, wf.next_pos, AtomSpace.push])
  · rcases opencogAddLink_spec s type outgoing with refused | ⟨-, -, -, created⟩
    · exact .inl (by simp [refused])
    · exact .inr (by simp [created, wf.next_pos, AtomSpace.push])
  · rw [s.atomIds_eq, s'.atomIds_eq]
    exact run_column (f := Skeleton.atomId) run wf fun _ _ => rfl

/-- Two concept nodes and an Inheritance link between them. -/
def dogIsAnimal : AtomSpace :=
  ((opencogAtomspaceInit.step (.addNode .conceptNode (some (cstr "Dog")))).step
    (.addNode .conceptNode (some (cstr "Animal")))).step (.addLink .inheritanceLink [1, 2])

/-- Three calls reach `dogIsAnimal`. -/
theorem dogIsAnimal_reachable : dogIsAnimal.Reachable :=
  .tail (.tail (.tail .refl ⟨_, rfl⟩) ⟨_, rfl⟩) ⟨_, rfl⟩

/-- In `dogIsAnimal` slot `i` holds the atom with id `i + 1`. -/
theorem dogIsAnimal_slotIds : dogIsAnimal.Reachable ∧ dogIsAnimal.SlotIds :=
  ⟨dogIsAnimal_reachable, atom_ids_are_slots dogIsAnimal_reachable⟩

/-- Outgoing lists and reverse indices are dual. -/
structure AtomSpace.AdjacencyDual (s : AtomSpace) : Prop where
  /-- A call adds at most one outgoing list, the one its creating call passes. -/
  created : ∀ op, (s.step op).atoms.map Atom.outgoing = s.atoms.map Atom.outgoing ∨
    ∃ new, op.creation s.nextAtomId = some new ∧
      (s.step op).atoms.map Atom.outgoing = s.atoms.map Atom.outgoing ++ [new.outgoing]
  /-- Along any run the outgoing lists of the existing atoms stay. -/
  stable : ∀ s', s.Run s' → s.atoms.map Atom.outgoing <+: s'.atoms.map Atom.outgoing
  /-- Every outgoing id names an older atom that `opencog_get_atom` finds. -/
  older : ∀ a ∈ s.atoms, ∀ x ∈ a.outgoing,
    x < a.atomId ∧ ∃ b ∈ s.atoms, b.atomId = x ∧ opencogGetAtom s x = some b
  /-- `y` occurs in `x.incoming` as often as `x` occurs in `y.outgoing`. -/
  count : ∀ x ∈ s.atoms, ∀ y ∈ s.atoms, x.incoming.count y.atomId = y.outgoing.count x.atomId
  /-- Reverse indices list links in id order. -/
  sorted : ∀ x ∈ s.atoms, x.incoming.Sorted (· ≤ ·)
  /-- `opencog_query_incoming` returns every link naming the atom, by multiplicity, in id order. -/
  query : ∀ x ∈ s.atoms, opencogQueryIncoming s x.atomId =
    s.atoms.flatMap fun y => List.replicate (y.outgoing.count x.atomId) y.atomId

/-- Every reachable table has dual adjacency. -/
theorem outgoing_incoming_duality (reachable : s.Reachable) : s.AdjacencyDual := by
  have wf := reachable.wf
  have column : ∀ t : AtomSpace, t.atoms.map Atom.outgoing = t.skeletons.map Skeleton.outgoing :=
    fun t => by simp [AtomSpace.skeletons, Atom.skeleton]
  refine ⟨fun op => ?_, fun s' run => ?_, fun a mem x hx => ?_, fun x hx y hy => ?_,
    fun x mem => ?_, fun x mem => ?_⟩
  · simp only [column]
    exact step_column (f := Skeleton.outgoing) wf (fun _ _ => rfl) op
  · simp only [column]
    exact run_column (f := Skeleton.outgoing) run wf fun _ _ => rfl
  · have bounds : 0 < x ∧ x < a.atomId := wf.acyclic _ (List.mem_map_of_mem Atom.skeleton mem) x hx
    have owner : 0 < a.atomId ∧ a.atomId < s.nextAtomId :=
      wf.atomId_mem (List.mem_map_of_mem Atom.skeleton mem)
    have next := wf.next_eq
    simp only [length_skeletons] at next
    have inside : x - 1 < s.atoms.length := by omega
    refine ⟨bounds.2, s.atoms[x - 1], List.getElem_mem inside,
      by rw [wf.atomId_getElem]; omega, ?_⟩
    rw [wf.getAtom_eq, if_pos (by simp only [AtomSpace.atomCount]; omega),
      List.getElem?_eq_getElem inside]
  · rw [wf.incoming_eq hx]
    have nodup : (s.skeletons.map Skeleton.atomId).Nodup := by
      rw [wf.ids]; exact List.nodup_range' _ _
    exact count_reverseIndex nodup (List.mem_map_of_mem Atom.skeleton hy)
  · rw [wf.incoming_eq mem]
    exact sorted_reverseIndex _ 1 wf.ids
  · simp only [opencogQueryIncoming, wf.getAtom_self mem]
    rw [wf.incoming_eq mem]
    simp [reverseIndex, AtomSpace.skeletons, List.flatMap_map, Atom.skeleton]

/-- In `dogIsAnimal` the outgoing lists and the reverse indices are dual. -/
theorem dogIsAnimal_adjacencyDual : dogIsAnimal.Reachable ∧ dogIsAnimal.AdjacencyDual :=
  ⟨dogIsAnimal_reachable, outgoing_incoming_duality dogIsAnimal_reachable⟩

end SlotsAndLinks

section Types

variable {s : AtomSpace}

/-- Node-typed atoms have an empty outgoing list and link-typed atoms a non-empty one. -/
def AtomSpace.TypesMatchArity (s : AtomSpace) : Prop :=
  ∀ a ∈ s.atoms, a.type.isNode = true ↔ a.outgoing = []

/-- A node of a link type: `opencog_add_node` does not check its type argument. -/
def linkTypedNode : AtomSpace :=
  opencogAtomspaceInit.step (.addNode .inheritanceLink (some (cstr "Relation")))

/-- A node created with a link type is reachable and breaks the type-arity agreement. -/
theorem linkTypedNode_breaks_arity : linkTypedNode.Reachable ∧ ¬ linkTypedNode.TypesMatchArity :=
  ⟨.tail .refl ⟨_, rfl⟩, fun typed => by
    simp [AtomSpace.TypesMatchArity, linkTypedNode, AtomSpace.step, opencogAddNode, AtomSpace.full, AtomSpace.atomCount,
      opencogAtomspaceInit, opencogMaxAtoms, AtomSpace.push, newNode, AtomType.isNode] at typed⟩

/-- A call whose type matches the function: a node type for `opencog_add_node`, a link type for
`opencog_add_link`, and for `opencog_from_cogfluence_unit` a unit that maps to a node type
(not a RELATION or RULE unit). -/
def AtomSpaceOp.WellTyped : AtomSpaceOp → Prop
  | .addNode type _ => type.isNode = true
  | .addLink type _ => type.isNode = false
  | .fromCogfluenceUnit (some unit) => (unitAtomType unit.type).isNode = true
  | _ => True

/-- A finite sequence of well-typed calls. -/
def AtomSpace.TypedRun : AtomSpace → AtomSpace → Prop :=
  Relation.ReflTransGen fun s s' => ∃ op, AtomSpaceOp.WellTyped op ∧ s' = s.step op

/-- Well-typed calls are calls. -/
theorem AtomSpace.TypedRun.run {s s' : AtomSpace} (run : s.TypedRun s') : s.Run s' :=
  run.mono fun _ _ ⟨op, _, step⟩ => ⟨op, step⟩

/-- A well-typed call creates a node-typed atom exactly when it names nothing. -/
theorem creation_typed {op : AtomSpaceOp} (typed : op.WellTyped) {next : Nat} {new : Skeleton}
    (created : op.creation next = some new) : new.type.isNode = true ↔ new.outgoing = [] := by
  unfold AtomSpaceOp.creation at created
  split at created <;> cases created <;> simp_all [AtomSpaceOp.WellTyped, AtomType.isNode]

/-- Every table reached by well-typed calls has node types exactly on the atoms without
outgoing lists. -/
theorem types_match_arity (run : opencogAtomspaceInit.TypedRun s) : s.TypesMatchArity := by
  suffices column : ∀ p ∈ s.skeletons.map (fun a => (a.type, a.outgoing)),
      p.1.isNode = true ↔ p.2 = [] from
    fun a mem => column _ (List.mem_map_of_mem _ (List.mem_map_of_mem Atom.skeleton mem))
  induction run with
  | refl => simp [opencogAtomspaceInit, AtomSpace.skeletons]
  | tail run last before =>
    obtain ⟨op, typed, rfl⟩ := last
    rcases step_column (f := fun a => (a.type, a.outgoing))
      (AtomSpace.Run.wf (AtomSpace.TypedRun.run run) wf_init) (fun _ _ => rfl) op
      with same | ⟨new, created, grown⟩
    · rwa [same]
    · rw [grown]
      simp only [List.mem_append, List.mem_singleton]
      rintro p (mem | rfl)
      · exact before p mem
      · exact creation_typed typed created

/-- A run that creates nodes with node types and links with link types keeps types and arities
in agreement. -/
theorem dogIsAnimal_typesMatchArity :
    opencogAtomspaceInit.TypedRun dogIsAnimal ∧ dogIsAnimal.TypesMatchArity :=
  have typed : opencogAtomspaceInit.TypedRun dogIsAnimal :=
    .tail (.tail (.tail .refl ⟨.addNode .conceptNode (some (cstr "Dog")), rfl, rfl⟩)
      ⟨.addNode .conceptNode (some (cstr "Animal")), rfl, rfl⟩) ⟨.addLink .inheritanceLink [1, 2], rfl, rfl⟩
  ⟨typed, types_match_arity typed⟩

end Types

end Coggml

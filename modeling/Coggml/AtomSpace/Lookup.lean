import Coggml.AtomSpace.Structure
/-!
# Failed creations and queries

`opencog_add_link` checks every outgoing id before it takes an id or touches a reverse index,
so a refused creation leaves the table exactly as it was (`failed_creation_changes_nothing`).
The two queries filter the slots, which in a reachable table are the live atoms in id order:
each returns the matching ids once each, increasing. A name is matched against the stored name,
which `opencog_add_node` cuts to `OPENCOG_MAX_ATOM_NAME - 1` bytes.
-/

namespace Coggml

section Lookup

variable {s : AtomSpace}

/-- What `opencog_get_atom` returns is a live atom of the table with the id asked for. -/
theorem mem_of_getAtom {x : Nat} {a : Atom} (found : opencogGetAtom s x = some a) :
    a ∈ s.atoms ∧ a.atomId = x ∧ a.isDeleted = false := by
  unfold opencogGetAtom at found
  split at found
  · cases found
  · have hit := List.find?_some found
    simp only [Atom.isLive, Bool.and_eq_true, beq_iff_eq, Bool.not_eq_true'] at hit
    exact ⟨List.mem_of_find?_eq_some found, hit⟩

/-- A filter of the slots of a reachable table, read as ids: each live atom passing the test
once, in increasing id order. -/
theorem filter_ids_spec (wf : s.Wf) (test : Atom → Bool) :
    ((s.atoms.filter fun a => !a.isDeleted && test a).map Atom.atomId).Sorted (· < ·) ∧
      ∀ x, x ∈ (s.atoms.filter fun a => !a.isDeleted && test a).map Atom.atomId ↔
        ∃ a, opencogGetAtom s x = some a ∧ test a = true := by
  have sorted : (s.atoms.map Atom.atomId).Sorted (· < ·) := by
    rw [s.atomIds_eq, wf.ids]
    exact List.pairwise_lt_range' _ _
  refine ⟨sorted.sublist ((List.filter_sublist _).map _), fun x => ⟨fun mem => ?_, ?_⟩⟩
  · obtain ⟨a, kept, rfl⟩ := List.mem_map.1 mem
    obtain ⟨mem, passes⟩ := List.mem_filter.1 kept
    exact ⟨a, wf.getAtom_self mem, (by simpa using passes : _ ∧ _).2⟩
  · rintro ⟨a, found, passes⟩
    obtain ⟨mem, rfl, live⟩ := mem_of_getAtom found
    exact List.mem_map_of_mem _ (List.mem_filter.2 ⟨mem, by simp [live, passes]⟩)

/-- The stored name column of a table. -/
theorem skeletons_map_name (s : AtomSpace) :
    s.skeletons.map Skeleton.name = s.atoms.map Atom.name := by
  simp [AtomSpace.skeletons, Atom.skeleton]

/-- A stored name is the string passed exactly when it fits the buffer. -/
theorem copyName_eq_self_iff {size : Nat} (positive : 0 < size) (name : CString) :
    copyName size name = name ↔ name.length < size := by
  unfold copyName
  constructor
  · intro kept
    have := congrArg List.length kept
    simp only [List.length_take] at this
    omega
  · exact fun fits => List.take_of_length_le (by omega)

end Lookup

section Failures

variable {s : AtomSpace}

/-- A creating call returns id 0 exactly on a missing name or outgoing list, a full table or a
missing target, and then leaves the AtomSpace as it was. -/
theorem failed_creation_changes_nothing (reachable : s.Reachable) :
    (∀ type name, (opencogAddNode s type name).2 = 0 ↔ name = none ∨ s.full = true) ∧
    (∀ type name, (opencogAddNode s type name).2 = 0 → (opencogAddNode s type name).1 = s) ∧
    (∀ type outgoing, (opencogAddLink s type outgoing).2 = 0 ↔
      outgoing = [] ∨ s.full = true ∨ ∃ x ∈ outgoing, opencogGetAtom s x = none) ∧
    (∀ type outgoing, (opencogAddLink s type outgoing).2 = 0 →
      (opencogAddLink s type outgoing).1 = s) := by
  have positive := reachable.wf.next_pos
  refine ⟨fun type name => ?_, fun type name => ?_, fun type outgoing => ?_,
    fun type outgoing => ?_⟩
  · cases name with
    | none => simp [opencogAddNode]
    | some n => cases room : s.full <;> simp [opencogAddNode, room, positive.ne']
  · rcases opencogAddNode_spec s type name with refused | ⟨n, -, -, created⟩
    · simp [refused]
    · simp [created, positive.ne']
  · unfold opencogAddLink
    by_cases refused : outgoing = [] ∨ s.full = true
    · rw [if_pos refused]
      exact iff_of_true rfl (refused.elim .inl fun full => .inr (.inl full))
    · rw [if_neg refused]
      simp only [not_or] at refused
      simp only [outgoingResolve, refused.1, refused.2, false_or, List.all_eq_true,
        Option.isSome_iff_ne_none, Bool.not_eq_true', Bool.false_eq_true]
      split
      · next unresolved => simpa using unresolved
      · next resolved => simpa [positive.ne'] using resolved
  · rcases opencogAddLink_spec s type outgoing with refused | ⟨-, -, -, created⟩
    · simp [refused]
    · simp [created, positive.ne']

/-- A link to the missing atom 7 on the Dog/Animal table is refused and changes nothing. -/
theorem dogIsAnimal_missingTarget :
    dogIsAnimal.Reachable ∧ (opencogAddLink dogIsAnimal .inheritanceLink [1, 7]).2 = 0 ∧
      (opencogAddLink dogIsAnimal .inheritanceLink [1, 7]).1 = dogIsAnimal := by
  have failed := failed_creation_changes_nothing dogIsAnimal_reachable
  have three : dogIsAnimal.atomCount = 3 := by decide
  have missing : opencogGetAtom dogIsAnimal 7 = none := by
    rw [dogIsAnimal_reachable.wf.getAtom_eq, three]; rfl
  have refused := (failed.2.2.1 .inheritanceLink [1, 7]).2 (.inr (.inr ⟨7, by simp, missing⟩))
  exact ⟨dogIsAnimal_reachable, refused, failed.2.2.2 _ _ refused⟩

end Failures

section Queries

variable {s : AtomSpace}

/-- The queries by type and by name list every matching live atom once, in increasing id order;
every call adds at most one name, the copy of the one it passes, which is the name itself only
when it is shorter than `OPENCOG_MAX_ATOM_NAME`. -/
theorem queries_list_matches_in_id_order (reachable : s.Reachable) (type : AtomType)
    (name : CString) :
    (opencogQueryByType s type).Sorted (· < ·) ∧
      (∀ x, x ∈ opencogQueryByType s type ↔ ∃ a, opencogGetAtom s x = some a ∧ a.type = type) ∧
      (opencogQueryByName s (some name)).Sorted (· < ·) ∧
      (∀ x, x ∈ opencogQueryByName s (some name) ↔
        ∃ a, opencogGetAtom s x = some a ∧ a.name = name) ∧
      (∀ op, (s.step op).atoms.map Atom.name = s.atoms.map Atom.name ∨
        ∃ new, op.creation s.nextAtomId = some new ∧
          (s.step op).atoms.map Atom.name = s.atoms.map Atom.name ++ [new.name]) ∧
      (∀ n : CString, copyName opencogMaxAtomName n = n ↔ n.length < opencogMaxAtomName) := by
  have wf := reachable.wf
  obtain ⟨typeSorted, typeMem⟩ := filter_ids_spec wf fun a => a.type == type
  obtain ⟨nameSorted, nameMem⟩ := filter_ids_spec wf fun a => a.name == name
  refine ⟨typeSorted, fun x => (typeMem x).trans (by simp only [beq_iff_eq]), nameSorted,
    fun x => (nameMem x).trans (by simp only [beq_iff_eq]), fun op => ?_,
    copyName_eq_self_iff (by decide)⟩
  simpa only [skeletons_map_name] using step_column (f := Skeleton.name) wf (fun _ _ => rfl) op

/-- On the Dog/Animal table both queries answer in id order with exactly the matches. -/
theorem dogIsAnimal_queries :
    dogIsAnimal.Reachable ∧ (opencogQueryByType dogIsAnimal .conceptNode).Sorted (· < ·) ∧
      ∀ x, x ∈ opencogQueryByName dogIsAnimal (some (cstr "Dog")) ↔
        ∃ a, opencogGetAtom dogIsAnimal x = some a ∧ a.name = cstr "Dog" :=
  have queries := queries_list_matches_in_id_order dogIsAnimal_reachable .conceptNode (cstr "Dog")
  ⟨dogIsAnimal_reachable, queries.1, queries.2.2.2.1⟩

/-- A name of 256 bytes. -/
def longName : CString := List.replicate 256 (charByte 'a')

/-- A concept node created with that name. -/
def longNamed : AtomSpace := opencogAtomspaceInit.step (.addNode .conceptNode (some longName))

/-- A node whose name is too long is stored truncated, and a query by its full name misses it. -/
theorem longNamed_not_found_by_name :
    longNamed.Reachable ∧ opencogQueryByType longNamed .conceptNode = [1] ∧
      opencogQueryByName longNamed (some longName) = [] := by
  have atoms : longNamed.atoms = [newNode opencogAtomspaceInit .conceptNode longName] := rfl
  have cut : copyName opencogMaxAtomName longName ≠ longName := fun same => by
    have fits := (copyName_eq_self_iff (by decide) longName).1 same
    simp only [longName, List.length_replicate, opencogMaxAtomName] at fits
    omega
  refine ⟨.tail .refl ⟨_, rfl⟩, rfl, ?_⟩
  simp [opencogQueryByName, atoms, newNode, cut]

end Queries

end Coggml

import Coggml.AtomSpace.Ops
import Mathlib.Data.List.Sort
/-!
# The table's skeleton and its invariant

Only the creating functions write an atom's id, name, type, outgoing list, reverse index and
delete flag; every other operation writes values. This module takes those fields as the
`Skeleton` of an atom and states, on a list of skeletons alone, what creating an atom does
(`appendSkeleton`: each target's reverse index gains the new id once per occurrence, then
the new atom follows) and the invariant the table keeps (`TableWf`): ids are the slot
numbers from 1, the counter is one past the last, nothing is deleted, every outgoing id is
smaller than its owner's, and every reverse index is exactly the list `reverseIndex` of the
links naming the atom, in slot order and with multiplicity. `TableWf.append` proves that
creating an atom whose targets are older keeps the invariant.
-/

namespace Coggml

/-- The fields of an atom that only the creating functions write. -/
structure Skeleton where
  /-- Id. -/
  atomId : Nat
  /-- Stored name. -/
  name : CString
  /-- Type. -/
  type : AtomType
  /-- Outgoing list. -/
  outgoing : List Nat
  /-- Reverse index. -/
  incoming : List Nat
  /-- Delete flag. -/
  isDeleted : Bool
  deriving DecidableEq

/-- The skeleton of an atom. -/
def Atom.skeleton (a : Atom) : Skeleton :=
  ⟨a.atomId, a.name, a.type, a.outgoing, a.incoming, a.isDeleted⟩

/-- The skeletons of the filled slots. -/
def AtomSpace.skeletons (s : AtomSpace) : List Skeleton := s.atoms.map Atom.skeleton

/-- The reverse index the table owes a target: the id of each atom once per occurrence of the
target in its outgoing list, in slot order. -/
def reverseIndex (table : List Skeleton) (target : Nat) : List Nat :=
  table.flatMap fun y => List.replicate (y.outgoing.count target) y.atomId

/-- An older atom after a new atom is created: its reverse index gains the new id once per
occurrence of its own id in the new outgoing list. -/
def Skeleton.noteLink (new a : Skeleton) : Skeleton :=
  { a with incoming := a.incoming ++ List.replicate (new.outgoing.count a.atomId) new.atomId }

/-- The skeleton table after an atom is created. -/
def appendSkeleton (table : List Skeleton) (new : Skeleton) : List Skeleton :=
  table.map new.noteLink ++ [new]

/-- The structural invariant of the atom table. -/
structure TableWf (table : List Skeleton) (next capacity : Nat) : Prop where
  /-- Slot `i` holds id `i + 1`. -/
  ids : table.map Skeleton.atomId = List.range' 1 table.length
  /-- The counter is one past the last id. -/
  next_eq : next = table.length + 1
  /-- The table is within its capacity. -/
  bounded : table.length ≤ capacity
  /-- No atom is deleted. -/
  live : ∀ a ∈ table, a.isDeleted = false
  /-- Every outgoing id names an older atom. -/
  acyclic : ∀ a ∈ table, ∀ x ∈ a.outgoing, 0 < x ∧ x < a.atomId
  /-- Every reverse index is the one the table owes. -/
  reverse : ∀ a ∈ table, a.incoming = reverseIndex table a.atomId

/-- An atom that can be created in the table: the next id, no reverse index, live, and
only older targets. -/
structure Appendable (table : List Skeleton) (next capacity : Nat) (new : Skeleton) : Prop where
  /-- There is room. -/
  room : table.length < capacity
  /-- It takes the counter's id. -/
  fresh : new.atomId = next
  /-- Nothing names it yet. -/
  unnamed : new.incoming = []
  /-- It is live. -/
  live : new.isDeleted = false
  /-- Its targets are older atoms. -/
  older : ∀ x ∈ new.outgoing, 0 < x ∧ x < next

section Reverse

variable (new : Skeleton) (table : List Skeleton) (target : Nat)

@[simp] theorem noteLink_atomId (a : Skeleton) : (new.noteLink a).atomId = a.atomId := rfl
@[simp] theorem noteLink_outgoing (a : Skeleton) : (new.noteLink a).outgoing = a.outgoing := rfl
@[simp] theorem noteLink_isDeleted (a : Skeleton) : (new.noteLink a).isDeleted = a.isDeleted := rfl
@[simp] theorem noteLink_type (a : Skeleton) : (new.noteLink a).type = a.type := rfl
@[simp] theorem noteLink_name (a : Skeleton) : (new.noteLink a).name = a.name := rfl

/-- Reverse-index entries only depend on ids and outgoing lists. -/
@[simp] theorem reverseIndex_map_noteLink :
    reverseIndex (table.map new.noteLink) target = reverseIndex table target := by
  simp [reverseIndex, List.flatMap_map, Function.comp_def]

/-- The reverse index of a concatenation. -/
@[simp] theorem reverseIndex_append (rest : List Skeleton) :
    reverseIndex (table ++ rest) target = reverseIndex table target ++ reverseIndex rest target := by
  simp [reverseIndex]

/-- A one-atom table owes each target its id once per occurrence. -/
@[simp] theorem reverseIndex_singleton :
    reverseIndex [new] target = List.replicate (new.outgoing.count target) new.atomId := by
  simp [reverseIndex]

/-- A table whose outgoing ids are all below a target owes it nothing. -/
theorem reverseIndex_eq_nil (below : ∀ a ∈ table, ∀ x ∈ a.outgoing, x < target) :
    reverseIndex table target = [] := by
  simp only [reverseIndex, List.flatMap_eq_nil_iff, List.replicate_eq_nil_iff, List.count_eq_zero]
  exact fun a mem h => Nat.lt_irrefl _ (below a mem target h)

end Reverse

section Append

variable {table : List Skeleton} {next capacity : Nat} {new : Skeleton}

/-- Creating an atom appends exactly one slot. -/
@[simp] theorem length_appendSkeleton : (appendSkeleton table new).length = table.length + 1 := by
  simp [appendSkeleton]

/-- Creating an atom keeps every older id, outgoing list and type. -/
theorem map_appendSkeleton {β : Type} (f : Skeleton → β) (keeps : ∀ a, f (new.noteLink a) = f a) :
    (appendSkeleton table new).map f = table.map f ++ [f new] := by
  simp [appendSkeleton, Function.comp_def, keeps]

/-- Ids of a well-formed table are all positive and at most its length. -/
theorem TableWf.atomId_mem (wf : TableWf table next capacity) {a : Skeleton} (mem : a ∈ table) :
    0 < a.atomId ∧ a.atomId < next := by
  have listed : a.atomId ∈ List.range' 1 table.length :=
    wf.ids ▸ List.mem_map_of_mem Skeleton.atomId mem
  rw [List.mem_range'_1] at listed
  have := wf.next_eq
  omega

/-- Creating an appendable atom keeps the invariant. -/
theorem TableWf.append (wf : TableWf table next capacity)
    (appendable : Appendable table next capacity new) :
    TableWf (appendSkeleton table new) (next + 1) capacity where
  ids := by
    rw [map_appendSkeleton Skeleton.atomId (fun _ => rfl), wf.ids, length_appendSkeleton, List.range'_concat,
      appendable.fresh, wf.next_eq]
    simp [Nat.add_comm]
  next_eq := by rw [length_appendSkeleton, wf.next_eq]
  bounded := by rw [length_appendSkeleton]; exact appendable.room
  live := by
    simp only [appendSkeleton, List.mem_append, List.mem_map, List.mem_singleton]
    rintro a (⟨b, mem, rfl⟩ | rfl)
    · exact wf.live b mem
    · exact appendable.live
  acyclic := by
    simp only [appendSkeleton, List.mem_append, List.mem_map, List.mem_singleton]
    rintro a (⟨b, mem, rfl⟩ | rfl)
    · exact wf.acyclic b mem
    · intro x hx
      rw [appendable.fresh]
      exact appendable.older x hx
  reverse := by
    simp only [appendSkeleton, List.mem_append, List.mem_map, List.mem_singleton,
      reverseIndex_append, reverseIndex_map_noteLink, reverseIndex_singleton]
    rintro a (⟨b, mem, rfl⟩ | rfl)
    · simp [Skeleton.noteLink, wf.reverse b mem]
    · have older : ∀ b ∈ table, ∀ x ∈ b.outgoing, x < a.atomId := fun b mem x hx =>
        appendable.fresh ▸ Nat.lt_trans (wf.acyclic b mem x hx).2 (wf.atomId_mem mem).2
      have unnamed : a.outgoing.count a.atomId = 0 :=
        List.count_eq_zero.2 fun h => Nat.lt_irrefl _ (appendable.fresh ▸ (appendable.older _ h).2)
      rw [reverseIndex_eq_nil _ _ older, unnamed, appendable.unnamed]
      rfl

end Append

end Coggml

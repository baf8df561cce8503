import Coggml.Basic
/-!
# The hypergraph memory of a cognitive agent

`add_knowledge` copies the `strlen(concept)` bytes of a name, without a terminator, into a new
node whose later bytes are whatever memory held; `find_concept` returns the first concept node
whose data passes `strncmp(data, concept, strlen(concept)) == 0`. So the search is by prefix: a
NUL-free query finds the first node whose stored bytes begin with it
(`find_concept_is_prefix_search`), and after `add_knowledge` of a name a search for it always
finds a node (`find_after_add_knowledge`). Along every sequence of calls the nodes fit the grown
table and hits never outnumber searches (`memory_writes_stay_in_table`). Timestamps and the
context pointer are left out.
-/

namespace Coggml

/-- `NODE_TYPE_CONCEPT`. -/
def nodeTypeConcept : Nat := 1

/-- `hypergraph_node`, without its timestamps. -/
structure HypergraphNode where
  /-- The bytes from `data->data` on: the concept's bytes, then what the context memory held. -/
  data : Nat → UInt8
  /-- The floats of the embedding tensor. -/
  embedding : List ℚ
  /-- Node type. -/
  nodeType : Nat
  /-- PLN truth value. -/
  truthValue : ℚ
  /-- PLN confidence. -/
  confidence : ℚ

/-- `hypergraph_memory`, without its context. -/
structure HypergraphMemory where
  /-- Nodes `0 .. node_count - 1`. -/
  nodes : List HypergraphNode
  /-- Slots allocated for node pointers. -/
  capacity : Nat
  /-- Searches made. -/
  totalAccesses : Nat
  /-- Searches that found a node. -/
  cacheHits : Nat

/-- `init_hypergraph_memory`. -/
def initHypergraphMemory : HypergraphMemory := ⟨[], 1000, 0, 0⟩

/-- The bytes of a buffer whose first bytes were copied from `bytes`, followed by `after`. -/
def copiedBytes (bytes : CString) (after : Nat → UInt8) (i : Nat) : UInt8 :=
  if h : i < bytes.length then bytes[i] else after (i - bytes.length)

/-- A C string in memory: its bytes, then the terminator. -/
def cstrBytes (s : CString) (i : Nat) : UInt8 := s.getD i 0

/-- `add_knowledge` — double the capacity when the table is full, then append a concept node
holding the name's bytes (followed by `after`, the context memory past them), the embedding,
truth 0.8 and confidence 0.9. -/
def addKnowledge (mem : HypergraphMemory) (concept : CString) (embedding : List ℚ)
    (after : Nat → UInt8) : HypergraphMemory :=
  let capacity := if mem.capacity ≤ mem.nodes.length then mem.capacity * 2 else mem.capacity
  { mem with
    capacity
    nodes := mem.nodes ++ [⟨copiedBytes concept after, embedding, nodeTypeConcept, 0.8, 0.9⟩] }

/-- `strncmp(s1 + i, s2 + i, n) == 0`: the bytes agree up to the `n`-th or up to a NUL both
hold. -/
def strncmpEq (s1 s2 : Nat → UInt8) (i : Nat) : Nat → Bool
  | 0 => true
  | n + 1 => s1 i == s2 i && (s1 i == 0 || strncmpEq s1 s2 (i + 1) n)

/-- The test of `find_concept`'s loop: a concept node whose data begins with the concept. -/
def HypergraphNode.matches (concept : CString) (node : HypergraphNode) : Bool :=
  node.nodeType == nodeTypeConcept && strncmpEq node.data (cstrBytes concept) 0 concept.length

/-- The loop of `find_concept` from slot `i`: the first matching slot. -/
def findConceptFrom (concept : CString) : Nat → List HypergraphNode → Option Nat
  | _, [] => none
  | i, node :: rest => if node.matches concept then some i else findConceptFrom concept (i + 1) rest

/-- `find_concept` — the memory with the search counted, and a hit counted when a slot is
found, and the slot of the node returned. -/
def findConcept (mem : HypergraphMemory) (concept : CString) : HypergraphMemory × Option Nat :=
  let accessed := { mem with totalAccesses := mem.totalAccesses + 1 }
  match findConceptFrom concept 0 mem.nodes with
  | some i => ({ accessed with cacheHits := accessed.cacheHits + 1 }, some i)
  | none => (accessed, none)

/-! ## `strncmp` -/

/-- Against a NUL-free stretch of the second string, `strncmp` agrees exactly when the bytes
agree. -/
theorem strncmpEq_iff {s1 s2 : Nat → UInt8} :
    ∀ {n i : Nat}, (∀ j < n, s2 (i + j) ≠ 0) →
      (strncmpEq s1 s2 i n = true ↔ ∀ j < n, s1 (i + j) = s2 (i + j))
  | 0, _, _ => by simp [strncmpEq]
  | n + 1, i, nonzero => by
    have rest := @strncmpEq_iff s1 s2 n (i + 1) fun j lt => by
      simpa [Nat.add_assoc, Nat.add_comm 1] using nonzero (j + 1) (by omega)
    have first : s2 i ≠ 0 := by simpa using nonzero 0 (Nat.succ_pos n)
    simp only [strncmpEq, Bool.and_eq_true, beq_iff_eq, Bool.or_eq_true, rest]
    constructor
    · rintro ⟨same, zero | later⟩
      · exact absurd (same ▸ zero) first
      · intro j lt
        rcases j with _ | j
        · exact same
        · simpa [Nat.add_assoc, Nat.add_comm 1] using later j (by omega)
    · intro all
      refine ⟨all 0 (Nat.succ_pos n), .inr fun j lt => ?_⟩
      simpa [Nat.add_assoc, Nat.add_comm 1] using all (j + 1) (by omega)

/-- Bytes copied from a string agree with that string under `strncmp` over its length. -/
theorem strncmpEq_copiedBytes (bytes : CString) (after : Nat → UInt8) :
    ∀ {n i : Nat}, i + n ≤ bytes.length → strncmpEq (copiedBytes bytes after) (cstrBytes bytes) i n
  | 0, _, _ => rfl
  | n + 1, i, within => by
    have same : copiedBytes bytes after i = cstrBytes bytes i := by
      simp [copiedBytes, cstrBytes, show i < bytes.length by omega]
    simp [strncmpEq, same, strncmpEq_copiedBytes bytes after (n := n) (i := i + 1) (by omega)]

/-- A node made by `add_knowledge` matches its own name. -/
theorem matches_added (concept : CString) (embedding : List ℚ) (after : Nat → UInt8) :
    (HypergraphNode.mk (copiedBytes concept after) embedding nodeTypeConcept 0.8 0.9).matches
      concept := by
  simp [HypergraphNode.matches, strncmpEq_copiedBytes concept after (Nat.zero_add _).le]

/-! ## The search -/

/-- The search over appended nodes: the first match among the old ones, else among the new. -/
theorem findConceptFrom_append (concept : CString) (more : List HypergraphNode) :
    ∀ (i : Nat) (nodes : List HypergraphNode),
      findConceptFrom concept i (nodes ++ more) =
        (findConceptFrom concept i nodes).orElse
          fun _ => findConceptFrom concept (i + nodes.length) more
  | i, [] => by simp [findConceptFrom]
  | i, node :: rest => by
    by_cases found : node.matches concept
    · simp [findConceptFrom, found]
    · have skip : ∀ l, findConceptFrom concept i (node :: l) = findConceptFrom concept (i + 1) l :=
        fun l => by simp [findConceptFrom, found]
      rw [List.cons_append, skip, skip, findConceptFrom_append concept more (i + 1) rest,
        List.length_cons, show i + 1 + rest.length = i + (rest.length + 1) by omega]

/-- The loop answers a slot at or after the one it starts from. -/
theorem le_of_findConceptFrom {concept : CString} :
    ∀ {i m : Nat} {nodes : List HypergraphNode}, findConceptFrom concept i nodes = some m → i ≤ m
  | _, _, [], found => by simp [findConceptFrom] at found
  | i, m, node :: rest, found => by
    unfold findConceptFrom at found
    split at found
    · exact (Option.some.inj found).le
    · exact Nat.le_of_succ_le (le_of_findConceptFrom found)

/-- The loop finds slot `i + k` exactly when node `k` matches and no earlier node does. -/
theorem findConceptFrom_eq_some (concept : CString) (nodes : List HypergraphNode) :
    ∀ {i k : Nat}, findConceptFrom concept i nodes = some (i + k) ↔
      ∃ node, nodes[k]? = some node ∧ node.matches concept ∧
        ∀ j < k, ∀ earlier, nodes[j]? = some earlier → earlier.matches concept = false := by
  induction nodes with
  | nil => simp [findConceptFrom]
  | cons node rest ih =>
    intro i k
    by_cases found : node.matches concept
    · rcases k with _ | k
      · simp [findConceptFrom, found]
      · simp only [findConceptFrom, found, ite_true, Option.some.injEq]
        constructor
        · omega
        · rintro ⟨_, _, _, none⟩
          simpa [found] using none 0 (Nat.succ_pos k) node (List.getElem?_cons_zero ..)
    · rcases k with _ | k
      · simp only [findConceptFrom, found, Bool.false_eq_true, ite_false, Nat.add_zero,
          List.getElem?_cons_zero, Option.some.injEq, exists_eq_left']
        constructor
        · intro later
          have := le_of_findConceptFrom later
          omega
        · rintro ⟨matched, -⟩
          exact matched.elim
      · rw [show i + (k + 1) = (i + 1) + k by omega]
        simp only [findConceptFrom, found, Bool.false_eq_true, ite_false, ih,
          List.getElem?_cons_succ]
        constructor
        · rintro ⟨node', at_k, matched, none⟩
          refine ⟨node', at_k, matched, fun j lt earlier at_j => ?_⟩
          rcases j with _ | j
          · simp only [List.getElem?_cons_zero, Option.some.injEq] at at_j
            exact at_j ▸ Bool.eq_false_iff.2 found
          · exact none j (by omega) earlier (by simpa only [List.getElem?_cons_succ] using at_j)
        · rintro ⟨node', at_k, matched, none⟩
          exact ⟨node', at_k, matched, fun j lt earlier at_j =>
            none (j + 1) (by omega) earlier (by simpa only [List.getElem?_cons_succ] using at_j)⟩

/-- `find_concept` answers what its loop finds from slot 0. -/
theorem findConcept_snd (mem : HypergraphMemory) (concept : CString) :
    (findConcept mem concept).2 = findConceptFrom concept 0 mem.nodes := by
  unfold findConcept
  split <;> simp_all

/-- A concept node whose first bytes are the query. -/
def HypergraphNode.BeginsWith (concept : CString) (node : HypergraphNode) : Prop :=
  node.nodeType = nodeTypeConcept ∧ (List.range concept.length).map node.data = concept

/-- For a NUL-free query, the loop's test is exactly a prefix test. -/
theorem matches_iff_beginsWith {concept : CString} (nul : (0 : UInt8) ∉ concept)
    (node : HypergraphNode) : node.matches concept = true ↔ node.BeginsWith concept := by
  have bytes : ∀ j (lt : j < concept.length), cstrBytes concept j = concept[j] := fun j lt => by
    simp [cstrBytes, List.getD_eq_getElem?_getD, List.getElem?_eq_getElem lt]
  have nonzero : ∀ j < concept.length, cstrBytes concept (0 + j) ≠ 0 := fun j lt => by
    rw [Nat.zero_add, bytes j lt]
    exact fun zero => nul (zero ▸ List.getElem_mem lt)
  simp only [HypergraphNode.matches, HypergraphNode.BeginsWith, Bool.and_eq_true, beq_iff_eq,
    strncmpEq_iff nonzero, Nat.zero_add]
  refine and_congr_right fun _ => ⟨fun agree => ?_, fun prefixed j lt => ?_⟩
  · refine List.ext_getElem (by simp) fun j lt _ => ?_
    simp only [List.getElem_map, List.getElem_range]
    rw [agree j (by simpa using lt), bytes j (by simpa using lt)]
  · rw [bytes j lt]
    have := congrArg (·[j]?) prefixed
    simpa [List.getElem?_eq_getElem lt, List.getElem?_range lt] using this

/-- For a query without NUL bytes, `find_concept` returns slot `k` exactly when node `k` is a
concept node whose stored bytes begin with the query and no earlier node's do: the search is by
prefix, so a search for `cat` can return a node stored as `category`. -/
theorem find_concept_is_prefix_search (mem : HypergraphMemory) (concept : CString) (k : Nat)
    (nul : (0 : UInt8) ∉ concept) :
    (findConcept mem concept).2 = some k ↔
      ∃ node, mem.nodes[k]? = some node ∧ node.BeginsWith concept ∧
        ∀ j < k, ∀ earlier, mem.nodes[j]? = some earlier → ¬earlier.BeginsWith concept := by
  rw [findConcept_snd, ← Nat.zero_add k, findConceptFrom_eq_some, Nat.zero_add]
  simp only [matches_iff_beginsWith nul, Bool.eq_false_iff, ne_eq]

/-- Three names as `add_knowledge` stores them with zeroed memory after: an unrelated one, then
a name, then its own prefix. -/
def dogCategoryCat : HypergraphMemory :=
  addKnowledge (addKnowledge (addKnowledge initHypergraphMemory (cstr "dog") [] fun _ => 0)
    (cstr "category") [] fun _ => 0) (cstr "cat") [] fun _ => 0

/-- A search for `cat` skips `dog` and returns `category`, slot 1, the first node it
prefixes. -/
theorem dogCategoryCat_search :
    (0 : UInt8) ∉ cstr "cat" ∧ (findConcept dogCategoryCat (cstr "cat")).2 = some 1 ∧
      ((findConcept dogCategoryCat (cstr "cat")).2 = some 1 ↔
        ∃ node, dogCategoryCat.nodes[1]? = some node ∧ node.BeginsWith (cstr "cat") ∧
          ∀ j < 1, ∀ earlier, dogCategoryCat.nodes[j]? = some earlier →
            ¬earlier.BeginsWith (cstr "cat")) :=
  ⟨by decide, by decide, find_concept_is_prefix_search dogCategoryCat (cstr "cat") 1 (by decide)⟩

/-- After `add_knowledge` of a name, `find_concept` of that name always finds a node, whatever
the memory and the bytes after the copied name: the first older node that matches, and the new
node when none does. -/
theorem find_after_add_knowledge (mem : HypergraphMemory) (concept : CString)
    (embedding : List ℚ) (after : Nat → UInt8) :
    (findConcept (addKnowledge mem concept embedding after) concept).2 =
      some ((findConcept mem concept).2.getD mem.nodes.length) := by
  simp only [findConcept_snd, addKnowledge, findConceptFrom_append, Nat.zero_add]
  cases findConceptFrom concept 0 mem.nodes with
  | some k => rfl
  | none => simp [findConceptFrom, matches_added]

/-! ## Calls in any order -/

/-- A call of the hypergraph memory. -/
inductive HypergraphOp
  | addKnowledge (concept : CString) (embedding : List ℚ) (after : Nat → UInt8)
  | findConcept (concept : CString)

/-- The memory after one call, its result discarded. -/
def HypergraphMemory.step (mem : HypergraphMemory) : HypergraphOp → HypergraphMemory
  | .addKnowledge concept embedding after => addKnowledge mem concept embedding after
  | .findConcept concept => (findConcept mem concept).1

/-- What every run keeps: the nodes fit the capacity, the capacity is at least the initial
1000, and hits never outnumber searches. -/
structure HypergraphMemory.Wf (mem : HypergraphMemory) : Prop where
  fits : mem.nodes.length ≤ mem.capacity
  capacity_ge : 1000 ≤ mem.capacity
  hits_le : mem.cacheHits ≤ mem.totalAccesses

namespace HypergraphMemory

variable {mem : HypergraphMemory}

/-- The slot `add_knowledge` writes is below the capacity after its growth. -/
theorem Wf.slot_lt (wf : mem.Wf) (concept : CString) (embedding : List ℚ)
    (after : Nat → UInt8) : mem.nodes.length < (Coggml.addKnowledge mem concept embedding after).capacity := by
  have := wf.fits
  have := wf.capacity_ge
  simp only [Coggml.addKnowledge]
  split <;> omega

theorem Wf.step (wf : mem.Wf) (op : HypergraphOp) : (mem.step op).Wf := by
  cases op with
  | addKnowledge concept embedding after =>
    have slot := wf.slot_lt concept embedding after
    refine ⟨?_, ?_, wf.hits_le⟩
    · simpa [HypergraphMemory.step, Coggml.addKnowledge] using slot
    · have := wf.capacity_ge
      simp only [HypergraphMemory.step, Coggml.addKnowledge]
      split <;> omega
  | findConcept concept =>
    have := wf.hits_le
    simp only [HypergraphMemory.step, Coggml.findConcept]
    split
    · exact ⟨wf.fits, wf.capacity_ge, by simp only; omega⟩
    · exact ⟨wf.fits, wf.capacity_ge, by simp only; omega⟩

end HypergraphMemory

/-- A finite sequence of calls takes the first memory to the second. -/
def HypergraphRun : HypergraphMemory → HypergraphMemory → Prop :=
  Relation.ReflTransGen fun mem mem' => ∃ op, mem' = mem.step op

/-- Along every sequence of `add_knowledge` and `find_concept` calls from
`init_hypergraph_memory`, the nodes fit the allocated array and cache hits never outnumber
searches; so the next `add_knowledge`, after growing the array, writes inside it. -/
theorem memory_writes_stay_in_table {mem : HypergraphMemory}
    (run : HypergraphRun initHypergraphMemory mem) :
    mem.nodes.length ≤ mem.capacity ∧ mem.cacheHits ≤ mem.totalAccesses ∧
      ∀ concept embedding after,
        mem.nodes.length < (addKnowledge mem concept embedding after).capacity := by
  have wf : mem.Wf := by
    induction run with
    | refl => exact ⟨Nat.zero_le _, le_rfl, le_rfl⟩
    | tail _ last wf =>
      obtain ⟨op, rfl⟩ := last
      exact wf.step op
  exact ⟨wf.fits, wf.hits_le, wf.slot_lt⟩

/-- The three writes of `dogCategoryCat` stay in the table, as does the next. -/
theorem dogCategoryCat_in_table :
    dogCategoryCat.nodes.length ≤ dogCategoryCat.capacity ∧
      dogCategoryCat.cacheHits ≤ dogCategoryCat.totalAccesses ∧
      ∀ concept embedding after, dogCategoryCat.nodes.length <
        (addKnowledge dogCategoryCat concept embedding after).capacity :=
  memory_writes_stay_in_table
    (.tail (.tail (.tail .refl ⟨.addKnowledge (cstr "dog") [] fun _ => 0, rfl⟩)
      ⟨.addKnowledge (cstr "category") [] fun _ => 0, rfl⟩)
      ⟨.addKnowledge (cstr "cat") [] fun _ => 0, rfl⟩)

end Coggml

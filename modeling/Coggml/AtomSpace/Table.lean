import Coggml.Cogfluence
/-!
# The atom table

`opencog_atomspace_t` is a fixed-capacity array of atoms filled from slot 0, here a list, with
`next_atom_id` counting ids. `opencog_get_atom` is a linear search for a live atom, and every
mutation writes through the pointer it returns (`AtomSpace.updateAtom`). `opencog_add_link`
checks its targets, appends the new id to each target's incoming list once per occurrence, and
only then counts the new slot, so the model runs that loop over the old slots. Timestamps are
never read and are left out, which makes the lookups pure.
-/

namespace Coggml

/-- `OPENCOG_MAX_ATOMS`. -/
def opencogMaxAtoms : Nat := 2048
/-- `OPENCOG_MAX_ATOM_NAME`. -/
def opencogMaxAtomName : Nat := 256

/-- `opencog_atom_type_t`. -/
inductive AtomType
  | conceptNode
  | predicateNode
  | variableNode
  | inheritanceLink
  | evaluationLink
  | implicationLink
  | similarityLink
  | memberLink
  deriving DecidableEq, Repr

/-- The three node types, `OPENCOG_CONCEPT_NODE` through `OPENCOG_VARIABLE_NODE`. -/
def AtomType.isNode : AtomType → Bool
  | .conceptNode | .predicateNode | .variableNode => true
  | _ => false

/-- `opencog_truth_value_t`. -/
structure TruthValue where
  /-- Strength, documented in `[0, 1]`. -/
  strength : ℚ
  /-- Confidence, documented in `[0, 1]`. -/
  confidence : ℚ
  /-- Evidence count. -/
  count : ℚ
  deriving DecidableEq

/-- `opencog_attention_value_t`. -/
structure AttentionValue where
  /-- Short-term importance, documented in `[-1, 1]`. -/
  sti : ℚ
  /-- Long-term importance, documented in `[0, 1]`. -/
  lti : ℚ
  /-- Very long-term importance, documented in `[0, 1]`. -/
  vlti : ℚ
  deriving DecidableEq

/-- `opencog_atom_t`, without its timestamps. -/
structure Atom where
  /-- Id assigned at creation. -/
  atomId : Nat
  /-- `name[OPENCOG_MAX_ATOM_NAME]`. -/
  name : CString
  /-- Atom type. -/
  type : AtomType
  /-- PLN truth value. -/
  truthValue : TruthValue
  /-- ECAN attention value. -/
  attentionValue : AttentionValue
  /-- Tensor representation. -/
  tensorEncoding : Tensor
  /-- Id copied from a Cogfluence unit, 0 otherwise. -/
  cogfluenceUnitId : Nat
  /-- Outgoing links, for compound atoms. -/
  outgoing : List Nat
  /-- Incoming links: the reverse index. -/
  incoming : List Nat
  /-- Soft-delete flag. -/
  isDeleted : Bool
  deriving DecidableEq

/-- `opencog_atomspace_t`, without its context and Cogfluence pointers. -/
structure AtomSpace where
  /-- Slots `0 .. atom_count - 1`. -/
  atoms : List Atom
  /-- Fixed at construction. -/
  atomCapacity : Nat
  /-- Id the next created atom receives. -/
  nextAtomId : Nat
  /-- ECAN decay factor. -/
  attentionDecayRate : ℚ
  /-- STI above which STI is consolidated into LTI. -/
  attentionThreshold : ℚ
  /-- Strength of a new atom. -/
  defaultStrength : ℚ
  /-- Confidence of a new atom. -/
  defaultConfidence : ℚ
  /-- Inference calls counted. -/
  totalInferences : Nat
  /-- Inference calls that created a link. -/
  successfulInferences : Nat
  /-- Last recomputed `successful_inferences / total_inferences`. -/
  reasoningAccuracy : ℚ

/-- `opencog_atomspace_init`. -/
def opencogAtomspaceInit : AtomSpace where
  atoms := []
  atomCapacity := opencogMaxAtoms
  nextAtomId := 1
  attentionDecayRate := 0.95
  attentionThreshold := 0.1
  defaultStrength := 0.8
  defaultConfidence := 0.9
  totalInferences := 0
  successfulInferences := 0
  reasoningAccuracy := 0

namespace AtomSpace

/-- `atom_count`. -/
def atomCount (s : AtomSpace) : Nat := s.atoms.length

/-- Whether the table is full, the capacity check of both creating functions. -/
def full (s : AtomSpace) : Bool := s.atomCapacity ≤ s.atomCount

end AtomSpace

/-- The test of the search in `opencog_get_atom`: the id matches and the atom is live. -/
def Atom.isLive (atomId : Nat) (atom : Atom) : Bool := atom.atomId == atomId && !atom.isDeleted

/-- `opencog_get_atom` — the first live atom with the id; id 0 is never found. -/
def opencogGetAtom (s : AtomSpace) (atomId : Nat) : Option Atom :=
  if atomId = 0 then none else s.atoms.find? (Atom.isLive atomId)

/-- A write through the pointer `opencog_get_atom` returns; nothing when it returns `NULL`. -/
def AtomSpace.updateAtom (s : AtomSpace) (atomId : Nat) (f : Atom → Atom) : AtomSpace :=
  if atomId = 0 then s else { s with atoms := modifyFirst (Atom.isLive atomId) f s.atoms }

/-- The value of a C `char` on the signed-char targets the code runs on. -/
def charValue (c : UInt8) : ℚ := if c.toNat < 128 then c.toNat else (c.toNat : ℚ) - 256

/-- The name-based tensor of `opencog_add_node`: 128 zeros, the first `min(128, strlen)` of
which are overwritten by `name[i] / 255`. -/
def nameEncoding (name : CString) : Tensor :=
  let codes := (name.take 128).map fun c => charValue c / 255
  codes ++ zeroTensor (128 - codes.length)

/-- The name `snprintf` gives a link: `Link_<id>`. -/
def linkName (atomId : Nat) : CString := cstr "Link_" ++ decimalBytes atomId

/-- The record `opencog_add_node` writes: default truth, zero attention, no links. -/
def newNode (s : AtomSpace) (type : AtomType) (name : CString) : Atom where
  atomId := s.nextAtomId
  name := copyName opencogMaxAtomName name
  type := type
  truthValue := ⟨s.defaultStrength, s.defaultConfidence, 1⟩
  attentionValue := ⟨0, 0, 0⟩
  tensorEncoding := nameEncoding name
  cogfluenceUnitId := 0
  outgoing := []
  incoming := []
  isDeleted := false

/-- The record `opencog_add_link` writes: a generated name, a zero tensor, the outgoing list
as given and no incoming links. -/
def newLink (s : AtomSpace) (type : AtomType) (outgoing : List Nat) : Atom where
  atomId := s.nextAtomId
  name := linkName s.nextAtomId
  type := type
  truthValue := ⟨s.defaultStrength, s.defaultConfidence, 1⟩
  attentionValue := ⟨0, 0, 0⟩
  tensorEncoding := zeroTensor 128
  cogfluenceUnitId := 0
  outgoing := outgoing
  incoming := []
  isDeleted := false

/-- Append a new atom and advance the id counter: the common tail of both creating functions. -/
def AtomSpace.push (s : AtomSpace) (atom : Atom) : AtomSpace :=
  { s with atoms := s.atoms ++ [atom], nextAtomId := s.nextAtomId + 1 }

/-- `opencog_add_node` — the table and the new id, or 0 for a `NULL` name or a full table. -/
def opencogAddNode (s : AtomSpace) (type : AtomType) (name : Option CString) : AtomSpace × Nat :=
  match name with
  | none => (s, 0)
  | some name => if s.full then (s, 0) else (s.push (newNode s type name), s.nextAtomId)

/-- Append a link id to an atom's reverse index. -/
def Atom.addIncoming (linkId : Nat) (atom : Atom) : Atom :=
  { atom with incoming := atom.incoming ++ [linkId] }

/-- The reverse-index loop of `opencog_add_link`, one lookup and append per outgoing entry. -/
def addIncomingLinks (linkId : Nat) (s : AtomSpace) (outgoing : List Nat) : AtomSpace :=
  outgoing.foldl (fun s target => s.updateAtom target (Atom.addIncoming linkId)) s

/-- The validation loop of `opencog_add_link`: every outgoing id resolves. -/
def outgoingResolve (s : AtomSpace) (outgoing : List Nat) : Bool :=
  outgoing.all fun target => (opencogGetAtom s target).isSome

/-- `opencog_add_link` — the table and the new id, or 0 for an empty outgoing list, a full
table, or an outgoing id that does not resolve. -/
def opencogAddLink (s : AtomSpace) (type : AtomType) (outgoing : List Nat) : AtomSpace × Nat :=
  if outgoing = [] ∨ s.full then (s, 0)
  else if !outgoingResolve s outgoing then (s, 0)
  else ((addIncomingLinks s.nextAtomId s outgoing).push (newLink s type outgoing), s.nextAtomId)

end Coggml

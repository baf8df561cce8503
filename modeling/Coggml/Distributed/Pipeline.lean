import Coggml.Distributed.Architecture
/-!
# The transduction pipeline

Stage 2 of `transduction_full_pipeline` creates the atom with the AtomSpace's next id and
records the unit's id in it; stage 3 converts the atom whose id is the unit's `atomspace_id`,
which is the unit's own id from the process-wide `generate_unit_id`. The two ids agree only
while the architecture's atom counter keeps step with the process's unit counter
(`pipeline_converts_atom_of_unit_id`): one workflow, one unit made without an atom, one atom
made directly, or a second architecture, and stage 3 converts another atom or none.
-/

namespace Coggml

/-! ## Reachable processes -/

/-- What every reachable process keeps: the unit counter is positive and each architecture's
AtomSpace is one that AtomSpace calls reach. -/
structure Process.Wf (p : Process) : Prop where
  /-- `generate_unit_id` never returns 0. -/
  counter_pos : 0 < p.unitCounter
  /-- Each AtomSpace is reachable. -/
  atomspaces : ∀ arch ∈ p.archs, arch.atomspace.Reachable

section Keeps

variable {counter : Nat} {arch : Architecture}

/-- A call that keeps the counter positive and the AtomSpace reachable. -/
def Keeps (f : Nat → UInt32 → Architecture → Nat × UInt32 × Architecture) : Prop :=
  ∀ units loops arch, 0 < units → arch.atomspace.Reachable →
    0 < (f units loops arch).1 ∧ (f units loops arch).2.2.atomspace.Reachable

/-- A call keeps the invariant when it never lowers the counter and runs AtomSpace calls. -/
theorem Keeps.of {f : Nat → UInt32 → Architecture → Nat × UInt32 × Architecture}
    (grows : ∀ (units : Nat) (loops : UInt32) (arch : Architecture), units ≤ (f units loops arch).1)
    (run : ∀ (units : Nat) (loops : UInt32) (arch : Architecture),
      arch.atomspace.Run (f units loops arch).2.2.atomspace) : Keeps f :=
  fun units loops arch pos reach =>
    ⟨pos.trans_le (grows units loops arch), Relation.ReflTransGen.trans reach (run units loops arch)⟩

/-- A call on one architecture that keeps the invariant keeps it for the process. -/
theorem Process.Wf.call {p : Process} (wf : p.Wf) (handle : Nat)
    {f : Nat → UInt32 → Architecture → Nat × UInt32 × Architecture} (keeps : Keeps f) :
    (p.call handle f).Wf := by
  unfold Process.call
  split
  · exact wf
  · next arch found =>
    have after := keeps p.unitCounter p.loopCounter arch wf.counter_pos
      (wf.atomspaces arch (List.getElem?_mem found))
    refine ⟨after.1, fun b mem => ?_⟩
    rcases List.mem_or_eq_of_mem_set mem with old | rfl
    · exact wf.atomspaces b old
    · exact after.2

/-- Adding a unit never lowers the unit counter. -/
theorem le_cogfluenceAddKnowledgeUnit (system : CogfluenceSystem) (name : Option CString)
    (type : UnitType) (embedding : Option Tensor) :
    counter ≤ (cogfluenceAddKnowledgeUnit counter system name type embedding).2.1 := by
  unfold cogfluenceAddKnowledgeUnit; split
  · exact le_rfl
  · split
    · exact le_rfl
    · exact Nat.le_succ _

/-- Creating a workflow never lowers the unit counter. -/
theorem le_cogfluenceCreateWorkflow (system : CogfluenceSystem) (name : Option CString) :
    counter ≤ (cogfluenceCreateWorkflow counter system name).2.1 := by
  unfold cogfluenceCreateWorkflow; split
  · exact le_rfl
  · split
    · exact le_rfl
    · exact Nat.le_succ _

/-- Making a unit from a tensor never lowers the unit counter. -/
theorem le_cogfluenceFromTensor (system : CogfluenceSystem) (tensor : Option Tensor)
    (name : Option CString) : counter ≤ (cogfluenceFromTensor counter system tensor name).2.1 := by
  unfold cogfluenceFromTensor; split
  · exact le_cogfluenceAddKnowledgeUnit _ _ _ _
  · exact le_rfl

/-- The tensor-to-unit transduction never lowers the unit counter. -/
theorem le_transductionGgmlToCogfluence (tensor : Option Tensor) (unitName : Option CString) :
    counter ≤ (transductionGgmlToCogfluence counter arch tensor unitName).2.1 := by
  unfold transductionGgmlToCogfluence; split
  · dsimp only; split <;> exact le_cogfluenceFromTensor _ _ _
  · exact le_rfl

@[simp] theorem atomspace_transductionOpencogToGgml (atomId : Nat) :
    (transductionOpencogToGgml arch atomId).1.atomspace = arch.atomspace := by
  unfold transductionOpencogToGgml; split <;> rfl

/-- Stage 2 makes at most one AtomSpace call. -/
theorem run_transductionCogfluenceToOpencog (unitId : Nat) :
    arch.atomspace.Run (transductionCogfluenceToOpencog arch unitId).1.atomspace := by
  unfold transductionCogfluenceToOpencog; split
  · exact .refl
  · next unit _ => dsimp only; split <;> exact .tail .refl ⟨.fromCogfluenceUnit (some unit), rfl⟩

/-- The pipeline makes at most one AtomSpace call and draws at most one unit id. -/
theorem run_transductionFullPipeline (input : Option CString) (output : Option Nat) :
    arch.atomspace.Run (transductionFullPipeline counter arch input output).arch.atomspace ∧
      counter ≤ (transductionFullPipeline counter arch input output).counter := by
  unfold transductionFullPipeline
  split
  · next input outputSize =>
    have first := @le_cogfluenceAddKnowledgeUnit counter arch.cogfluence (some input)
      .concept (some (pipelineEmbedding input))
    have second := @run_transductionCogfluenceToOpencog
      { arch with cogfluence := (cogfluenceAddKnowledgeUnit counter arch.cogfluence
        (some input) .concept (some (pipelineEmbedding input))).1 }
      (cogfluenceAddKnowledgeUnit counter arch.cogfluence (some input) .concept
        (some (pipelineEmbedding input))).2.2
    dsimp only
    split
    · exact ⟨.refl, first⟩
    · split
      · exact ⟨second, first⟩
      · split
        · exact ⟨second, first⟩
        · split <;> exact ⟨by simpa using second, first⟩
  · exact ⟨.refl, le_rfl⟩

/-- A call that keeps the unit counter and the AtomSpace. -/
theorem Keeps.of_eq {f : Nat → UInt32 → Architecture → Nat × UInt32 × Architecture}
    (same_counter : ∀ (units : Nat) (loops : UInt32) (arch : Architecture),
      (f units loops arch).1 = units)
    (same_atomspace : ∀ (units : Nat) (loops : UInt32) (arch : Architecture),
      (f units loops arch).2.2.atomspace = arch.atomspace) : Keeps f :=
  .of (fun u l a => (same_counter u l a).ge) fun u l a => same_atomspace u l a ▸ .refl

/-- Every call but `init` runs, on one architecture, a function that keeps the invariant. -/
theorem Process.step_eq_call (p : Process) (op : ProcessOp) :
    op = .init ∨ ∃ h f, p.step op = p.call h f ∧ Keeps f := by
  cases op <;> dsimp only [Process.step]
  case init => exact .inl rfl
  case addKnowledgeUnit h name type embedding =>
    exact .inr ⟨h, _, rfl,
      .of (fun _ _ _ => le_cogfluenceAddKnowledgeUnit _ _ _ _) fun _ _ _ => .refl⟩
  case addRelation h unit1 unit2 =>
    exact .inr ⟨h, _, rfl, .of_eq (fun _ _ _ => rfl) fun _ _ _ => rfl⟩
  case createWorkflow h name =>
    exact .inr ⟨h, _, rfl, .of (fun _ _ _ => le_cogfluenceCreateWorkflow _ _) fun _ _ _ => .refl⟩
  case addWorkflowStep h workflowId unitId =>
    exact .inr ⟨h, _, rfl, .of_eq (fun _ _ _ => rfl) fun _ _ _ => rfl⟩
  case executeWorkflow h workflowId =>
    exact .inr ⟨h, _, rfl, .of_eq (fun _ _ _ => rfl) fun _ _ _ => rfl⟩
  case fromTensor h tensor name =>
    exact .inr ⟨h, _, rfl, .of (fun _ _ _ => le_cogfluenceFromTensor _ _ _) fun _ _ _ => .refl⟩
  case atomspace h op =>
    exact .inr ⟨h, _, rfl, .of (fun _ _ _ => le_rfl) fun _ _ _ => .tail .refl ⟨op, rfl⟩⟩
  case cogfluenceToOpencog h unitId =>
    exact .inr ⟨h, _, rfl,
      .of (fun _ _ _ => le_rfl) fun _ _ _ => run_transductionCogfluenceToOpencog unitId⟩
  case opencogToGgml h atomId =>
    exact .inr ⟨h, _, rfl,
      .of_eq (fun _ _ _ => rfl) fun _ _ _ => atomspace_transductionOpencogToGgml atomId⟩
  case ggmlToCogfluence h tensor unitName =>
    refine .inr ⟨h, _, rfl, .of (fun _ _ _ => le_transductionGgmlToCogfluence _ _) fun _ _ _ => ?_⟩
    unfold transductionGgmlToCogfluence
    split
    · dsimp only; split <;> exact .refl
    · exact .refl
  case fullPipeline h input output =>
    exact .inr ⟨h, _, rfl, .of (fun _ _ _ => (run_transductionFullPipeline input output).2)
      fun _ _ _ => (run_transductionFullPipeline input output).1⟩
  case createLoop h targetSystem targetParameter initialValue targetValue =>
    refine .inr ⟨h, _, rfl, .of_eq (fun _ _ _ => rfl) fun _ _ _ => ?_⟩
    unfold optimizationCreateLoop; split
    · split <;> rfl
    · rfl
  case updateLoop h loopId currentPerformance =>
    refine .inr ⟨h, _, rfl, .of_eq (fun _ _ _ => rfl) fun _ _ _ => ?_⟩
    unfold optimizationUpdateLoop; split <;> rfl

/-- Every call keeps the process invariant. -/
theorem Process.Wf.step {p : Process} (wf : p.Wf) (op : ProcessOp) : (p.step op).Wf := by
  rcases p.step_eq_call op with rfl | ⟨h, f, called, keeps⟩
  · refine ⟨wf.counter_pos, fun arch mem => ?_⟩
    rcases List.mem_append.1 mem with old | new
    · exact wf.atomspaces arch old
    · rw [List.mem_singleton.1 new]; exact .refl
  · exact called ▸ wf.call h keeps

/-- Every reachable process keeps the invariant. -/
theorem Process.Reachable.wf {p : Process} (reachable : p.Reachable) : p.Wf := by
  induction reachable with
  | refl => exact ⟨Nat.one_pos, by simp [processInit]⟩
  | tail _ last wf =>
    obtain ⟨op, rfl⟩ := last
    exact wf.step op

end Keeps

/-! ## The stages -/

section Stages

variable {counter : Nat} {system : CogfluenceSystem} {s : AtomSpace}

/-- Stage 1 with room: the unit takes the counter's id. -/
theorem cogfluenceAddKnowledgeUnit_of_room
    (room : system.knowledgeUnits.length < system.unitCapacity) (name : CString) (type : UnitType)
    (embedding : Option Tensor) :
    cogfluenceAddKnowledgeUnit counter system (some name) type embedding =
      ({ system with knowledgeUnits := system.knowledgeUnits ++
          [newKnowledgeUnit system counter name type embedding] }, counter + 1, counter) := by
  simp [cogfluenceAddKnowledgeUnit, Nat.not_le.2 room, generateUnitId]

/-- A search for an id the table holds finds a unit recording that id. -/
theorem getKnowledgeUnit_of_mem {unitId : Nat} (positive : 0 < unitId) {unit : KnowledgeUnit}
    (mem : unit ∈ system.knowledgeUnits) (recorded : unit.atomspaceId = unitId) :
    ∃ found, cogfluenceGetKnowledgeUnit system unitId = some found ∧
      found.atomspaceId = unitId := by
  have hit : (system.knowledgeUnits.find? (KnowledgeUnit.hasId unitId)).isSome :=
    List.find?_isSome.2 ⟨unit, mem, by simp [KnowledgeUnit.hasId, recorded]⟩
  obtain ⟨found, some⟩ := Option.isSome_iff_exists.1 hit
  refine ⟨found, by simp [cogfluenceGetKnowledgeUnit, positive.ne', some], ?_⟩
  simpa [KnowledgeUnit.hasId] using List.find?_some some

/-- `opencog_get_atom` returns an atom with the id it was given. -/
theorem atomId_of_getAtom {x : Nat} {a : Atom} (found : opencogGetAtom s x = some a) :
    a.atomId = x := by
  unfold opencogGetAtom at found
  split at found
  · cases found
  · exact (by simpa [Atom.isLive] using List.find?_some found : a.atomId = x ∧ _).1

/-- Stage 2 on a table with room: the atom takes the next id and records the unit's id. -/
theorem fromCogfluenceUnit_created (wf : s.Wf) (space : s.full = false) (unit : KnowledgeUnit) :
    (opencogFromCogfluenceUnit s (some unit)).2 = s.nextAtomId ∧
      (opencogGetAtom (opencogFromCogfluenceUnit s (some unit)).1 s.nextAtomId).map
        Atom.cogfluenceUnitId = some unit.atomspaceId := by
  have add : opencogAddNode s (unitAtomType unit.type) (some unit.name) =
      (s.push (newNode s (unitAtomType unit.type) unit.name), s.nextAtomId) := by
    simp [opencogAddNode, space]
  have pushed : (s.push (newNode s (unitAtomType unit.type) unit.name)).Wf := by
    simpa [AtomSpace.step, add] using wf.step (.addNode (unitAtomType unit.type) (some unit.name))
  have after : opencogFromCogfluenceUnit s (some unit) =
      ((s.push (newNode s (unitAtomType unit.type) unit.name)).updateAtom s.nextAtomId
        (Atom.copyUnit unit), s.nextAtomId) := by
    simp [opencogFromCogfluenceUnit, add, wf.next_pos]
  have copied : (s.push (newNode s (unitAtomType unit.type) unit.name)).updateAtom s.nextAtomId
      (Atom.copyUnit unit) = s.step (.fromCogfluenceUnit (some unit)) := by
    simp [AtomSpace.step, after]
  have mem : Atom.copyUnit unit (newNode s (unitAtomType unit.type) unit.name) ∈
      ((s.push (newNode s (unitAtomType unit.type) unit.name)).updateAtom s.nextAtomId
        (Atom.copyUnit unit)).atoms := by
    rw [updateAtom_atoms pushed.uniqueLive]
    exact List.mem_map.2 ⟨newNode s (unitAtomType unit.type) unit.name, by simp [AtomSpace.push],
      by simp [newNode]⟩
  have found := (copied ▸ wf.step _ : AtomSpace.Wf _).getAtom_self mem
  rw [after]
  exact ⟨rfl, Option.map_eq_some'.2 ⟨_, found, rfl⟩⟩

end Stages

/-- When the knowledge table and the AtomSpace have room, which is when stages 1 and 2
succeed, stage 2 creates the atom with the AtomSpace's next id and records the new unit's id
in it, and stage 3 converts the atom whose id is the unit's id: the pipeline succeeds exactly
when that atom exists, then reports the unit's id as the atom's, and that atom is the one
stage 2 created exactly when the AtomSpace's next id equals the process's unit counter. -/
theorem pipeline_converts_atom_of_unit_id {p : Process} (reachable : p.Reachable)
    {arch : Architecture} (member : arch ∈ p.archs) (input : CString) (outputSize : Nat)
    (room : arch.cogfluence.knowledgeUnits.length < arch.cogfluence.unitCapacity)
    (space : arch.atomspace.full = false) :
    let r := transductionFullPipeline p.unitCounter arch (some input) (some outputSize)
    r.counter = p.unitCounter + 1 ∧
      (opencogGetAtom r.arch.atomspace arch.atomspace.nextAtomId).map Atom.cogfluenceUnitId =
        some p.unitCounter ∧
      (r.ok = true ↔ (opencogGetAtom r.arch.atomspace p.unitCounter).isSome) ∧
      (r.ok = true →
        r.output = some (pipelineOutput outputSize input p.unitCounter p.unitCounter)) ∧
      (opencogGetAtom r.arch.atomspace p.unitCounter =
          opencogGetAtom r.arch.atomspace arch.atomspace.nextAtomId ↔
        arch.atomspace.nextAtomId = p.unitCounter) := by
  have wf := reachable.wf
  have tableWf := (wf.atomspaces arch member).wf
  have stage1 := @cogfluenceAddKnowledgeUnit_of_room p.unitCounter _ room input .concept
    (some (pipelineEmbedding input))
  obtain ⟨unit, found, recorded⟩ := @getKnowledgeUnit_of_mem
    { arch.cogfluence with knowledgeUnits := arch.cogfluence.knowledgeUnits ++
      [newKnowledgeUnit arch.cogfluence p.unitCounter input .concept (some (pipelineEmbedding input))] }
    _ wf.counter_pos _ (List.mem_append_right _ (List.mem_singleton_self _)) rfl
  obtain ⟨createdId, created⟩ := fromCogfluenceUnit_created tableWf space unit
  obtain ⟨atom, atNext, -⟩ := Option.map_eq_some'.1 created
  have same : opencogGetAtom (opencogFromCogfluenceUnit arch.atomspace (some unit)).1 p.unitCounter =
      opencogGetAtom (opencogFromCogfluenceUnit arch.atomspace (some unit)).1
        arch.atomspace.nextAtomId ↔ arch.atomspace.nextAtomId = p.unitCounter :=
    ⟨fun eq => (atomId_of_getAtom atNext).symm.trans (atomId_of_getAtom (eq.trans atNext)),
      fun eq => eq ▸ rfl⟩
  simp only [transductionFullPipeline, stage1, transductionCogfluenceToOpencog, found, createdId,
    tableWf.next_pos.ne', wf.counter_pos.ne', if_false, Bool.not_true, Architecture.countTransduction,
    recorded, transductionOpencogToGgml, Bool.false_eq_true, opencogAtomToTensor]
  cases converted : opencogGetAtom (opencogFromCogfluenceUnit arch.atomspace (some unit)).1
    p.unitCounter <;> simp_all

/-- A process with one architecture. -/
def singleArchitecture : Process := processInit.step .init

/-- With one architecture, the pipeline's unit id matches the atom it converts. -/
theorem singleArchitecture_pipeline_succeeds :
    singleArchitecture.Reachable ∧
      (transductionFullPipeline 1 distributedCognitiveInit (some (cstr "cat")) (some 256)).ok =
        true := by
  have reachable : singleArchitecture.Reachable := .tail .refl ⟨.init, rfl⟩
  have member : distributedCognitiveInit ∈ singleArchitecture.archs := by
    simp [singleArchitecture, Process.step, processInit]
  obtain ⟨-, created, converts, -, same⟩ := pipeline_converts_atom_of_unit_id reachable member
    (cstr "cat") 256 (by simp [distributedCognitiveInit, cogfluenceInit, cogfluenceMaxKnowledgeUnits])
    rfl
  refine ⟨reachable, converts.2 ?_⟩
  rw [same.2 rfl]
  exact Option.isSome_map.symm.trans (Option.isSome_iff_exists.2 ⟨_, created⟩)

/-- Two architectures in one process, the first of which has run the pipeline. -/
def pipelineOnFirst : Process :=
  ((processInit.step .init).step .init).step (.fullPipeline 0 (some (cstr "cat")) (some 256))

/-- With a second architecture, the pipeline's unit id 2 names no atom of its AtomSpace, whose
atom 1 belongs to unit 2, so the pipeline fails. -/
theorem second_architecture_pipeline_fails :
    pipelineOnFirst.Reachable ∧ pipelineOnFirst.archs[1]? = some distributedCognitiveInit ∧
      pipelineOnFirst.unitCounter = 2 ∧
      (opencogGetAtom (transductionFullPipeline 2 distributedCognitiveInit (some (cstr "dog"))
        (some 256)).arch.atomspace 1).map Atom.cogfluenceUnitId = some 2 ∧
      (transductionFullPipeline 2 distributedCognitiveInit (some (cstr "dog")) (some 256)).ok =
        false := by
  refine ⟨.tail (.tail (.tail .refl ⟨_, rfl⟩) ⟨_, rfl⟩) ⟨_, rfl⟩, rfl, ?_⟩
  simp [pipelineOnFirst, Process.step, Process.call, processInit, transductionFullPipeline,
    cogfluenceAddKnowledgeUnit, distributedCognitiveInit, cogfluenceInit,
    cogfluenceMaxKnowledgeUnits, generateUnitId, cogfluenceGetKnowledgeUnit, KnowledgeUnit.hasId,
    newKnowledgeUnit, transductionCogfluenceToOpencog, opencogFromCogfluenceUnit, opencogAddNode,
    AtomSpace.full, AtomSpace.atomCount, opencogAtomspaceInit, opencogMaxAtoms, AtomSpace.push,
    newNode, AtomSpace.updateAtom, modifyFirst, Atom.isLive, Atom.copyUnit, opencogGetAtom,
    transductionOpencogToGgml, opencogAtomToTensor, Architecture.countTransduction]

end Coggml

import Coggml.Moses.Program
import Coggml.AtomSpace.Ops
/-!
# Executing a MOSES program

`moses_program_execute` copies `min(variable_count, program->variable_count)` inputs over the
program's variables and runs the instructions in order, each clamped to `[0, 1]` at the end of its
round. An execution reads the program's past through two channels only: fields that no case
writes, which stay zero on a generated program (`MosesInstruction.Settled`,
`execute_after_history`), and variables not covered by the inputs. When the inputs cover every
variable read, as the zero-filled inputs of `moses_program_evaluate_fitness` do, two executions
with different histories agree (`execute_agrees_of_covered`, `fitness_execution_agrees`);
otherwise they need not (`stale_variable_read`).
-/

namespace Coggml

/-! ## One instruction -/

/-- A case that writes `value` as output and strength with its own confidence, keeping the
count. -/
def MosesInstruction.setValue (instr : MosesInstruction) (value confidence : ℚ) :
    MosesInstruction :=
  { instr with
    outputValue := value
    truthValue := { instr.truthValue with strength := value, confidence } }

/-- A PLN case: the whole truth value, its strength as output. -/
def MosesInstruction.setTruth (instr : MosesInstruction) (tv : TruthValue) : MosesInstruction :=
  { instr with truthValue := tv, outputValue := tv.strength }

/-- The end of every round: `fmaxf(0.0f, fminf(1.0f, ...))` on the output, the strength and the
confidence. -/
def MosesInstruction.clamp (instr : MosesInstruction) : MosesInstruction :=
  { instr with
    outputValue := clampf 0 1 instr.outputValue
    truthValue := { instr.truthValue with
      strength := clampf 0 1 instr.truthValue.strength
      confidence := clampf 0 1 instr.truthValue.confidence } }

/-- `if (arg1 < i && arg2 < i)` around a case that reads two of the instructions already run,
`earlier`: the test is `earlier[arg]?` being defined. Otherwise the instruction is left alone. -/
def withArgs (earlier : List MosesInstruction) (arg1 arg2 : Nat) (instr : MosesInstruction)
    (result : MosesInstruction → MosesInstruction → MosesInstruction) : MosesInstruction :=
  match earlier[arg1]?, earlier[arg2]? with
  | some first, some second => result first second
  | _, _ => instr

/-- `if (arg < i)` around a case that reads one of the instructions already run. -/
def withArg (earlier : List MosesInstruction) (arg : Nat) (instr : MosesInstruction)
    (result : MosesInstruction → MosesInstruction) : MosesInstruction :=
  match earlier[arg]? with
  | some first => result first
  | none => instr

/-- The `switch` of `moses_program_execute` on the instruction at index `earlier.length`, where
`earlier` holds the instructions this execution has already run. -/
def executeOp (variableValues : List ℚ) (variableCount : Nat) (earlier : List MosesInstruction)
    (instr : MosesInstruction) : MosesInstruction :=
  match instr.op with
  | .constant value => instr.setValue value 0.9
  | .variableRef index =>
    if index < variableCount then instr.setValue (variableValues.getD index 0) 0.8
    else { instr with outputValue := 0 }
  | .binary .plnAnd arg1 arg2 =>
    withArgs earlier arg1 arg2 instr fun first second =>
      instr.setTruth (opencogPlnAnd first.truthValue second.truthValue)
  | .binary .plnOr arg1 arg2 =>
    withArgs earlier arg1 arg2 instr fun first second =>
      instr.setTruth (opencogPlnOr first.truthValue second.truthValue)
  | .unary .plnNot arg =>
    withArg earlier arg instr fun first => instr.setTruth (opencogPlnNot first.truthValue)
  | .binary .similarity arg1 arg2 =>
    withArgs earlier arg1 arg2 instr fun first second =>
      instr.setValue (max 0 (1 - |first.outputValue - second.outputValue|)) 0.7
  | _ => { instr with outputValue := 0 }

/-- One round of the loop: the case, then the clamp. -/
def executeInstruction (variableValues : List ℚ) (variableCount : Nat)
    (earlier : List MosesInstruction) (instr : MosesInstruction) : MosesInstruction :=
  (executeOp variableValues variableCount earlier instr).clamp

/-- The loop `for (size_t i = 0; i < program->instruction_count; i++)`: `earlier` holds the
instructions already run, `pending` the rest. -/
def executeInstructions (variableValues : List ℚ) (variableCount : Nat) :
    List MosesInstruction → List MosesInstruction → List MosesInstruction
  | earlier, [] => earlier
  | earlier, instr :: pending =>
    executeInstructions variableValues variableCount
      (earlier ++ [executeInstruction variableValues variableCount earlier instr]) pending

/-- The variable values after `memcpy(program->variable_values, input_variables,
copy_count * sizeof(float))`, `copy_count = min(variable_count, program->variable_count)`. -/
def copyInputs (program : MosesProgram) (inputVariables : List ℚ) : List ℚ :=
  inputVariables.take (min inputVariables.length program.variableCount) ++
    program.variableValues.drop (min inputVariables.length program.variableCount)

/-- `moses_program_execute(moses, program, input_variables, variable_count)`, `variable_count`
being the length of `input_variables`. -/
def mosesProgramExecute (program : MosesProgram) (inputVariables : List ℚ) : MosesProgram :=
  { program with
    variableValues := copyInputs program inputVariables
    instructions :=
      executeInstructions (copyInputs program inputVariables) program.variableCount []
        program.instructions
    executionCount := program.executionCount + 1 }

section Args

variable {earlier : List MosesInstruction} {instr : MosesInstruction}

theorem withArgs_of_lt {arg1 arg2 : Nat} (first : arg1 < earlier.length)
    (second : arg2 < earlier.length)
    (result : MosesInstruction → MosesInstruction → MosesInstruction) :
    withArgs earlier arg1 arg2 instr result = result earlier[arg1] earlier[arg2] := by
  simp only [withArgs, List.getElem?_eq_getElem first, List.getElem?_eq_getElem second]

theorem withArg_of_lt {arg : Nat} (first : arg < earlier.length)
    (result : MosesInstruction → MosesInstruction) :
    withArg earlier arg instr result = result earlier[arg] := by
  simp only [withArg, List.getElem?_eq_getElem first]

/-- What holds of the instruction and of every result read from `earlier` holds after the
guard. -/
theorem withArgs_of_forall {P : MosesInstruction → Prop} {arg1 arg2 : Nat}
    {result : MosesInstruction → MosesInstruction → MosesInstruction} (unchanged : P instr)
    (read : ∀ first ∈ earlier, ∀ second ∈ earlier, P (result first second)) :
    P (withArgs earlier arg1 arg2 instr result) := by
  unfold withArgs
  split
  next first second found1 found2 =>
    exact read first (List.getElem?_mem found1) second (List.getElem?_mem found2)
  next => exact unchanged

theorem withArg_of_forall {P : MosesInstruction → Prop} {arg : Nat}
    {result : MosesInstruction → MosesInstruction} (unchanged : P instr)
    (read : ∀ first ∈ earlier, P (result first)) : P (withArg earlier arg instr result) := by
  unfold withArg
  split
  next first found => exact read first (List.getElem?_mem found)
  next => exact unchanged

end Args

@[simp] theorem executeInstruction_op (variableValues : List ℚ) (variableCount : Nat)
    (earlier : List MosesInstruction) (instr : MosesInstruction) :
    (executeInstruction variableValues variableCount earlier instr).op = instr.op := by
  unfold executeInstruction executeOp
  split
  any_goals rfl
  · split <;> rfl
  all_goals first
    | exact withArgs_of_forall (P := fun result => result.clamp.op = instr.op) rfl
        fun _ _ _ _ => rfl
    | exact withArg_of_forall (P := fun result => result.clamp.op = instr.op) rfl fun _ _ => rfl

/-! ## What an instruction carries between executions -/

/-- The operations of the `default` case, which writes the output and no truth value. -/
def MosesOp.KeepsTruth : MosesOp → Prop
  | .binary .plnImplies _ _ => True
  | .binary .inheritance _ _ => True
  | .unary .patternMatch _ => True
  | .unary .attention _ => True
  | _ => False

/-- What an instruction carries into its next execution: a zero count, since only the PLN cases
write one and they combine the counts of settled instructions, and a zero truth value where the
`default` case keeps it. -/
structure MosesInstruction.Settled (instr : MosesInstruction) : Prop where
  count : instr.truthValue.count = 0
  kept : instr.op.KeepsTruth → instr.truthValue = ⟨0, 0, 0⟩

theorem MosesOp.fresh_settled (op : MosesOp) : op.fresh.Settled := ⟨rfl, fun _ => rfl⟩

section Round

variable {variableValues : List ℚ} {variableCount : Nat} {earlier : List MosesInstruction}
  {instr : MosesInstruction}

/-- A settled, well-formed instruction runs as its fresh self: every field the case reads from the
instruction is one that generation zeroed. -/
theorem executeOp_fresh (enough : mosesMaxVariables ≤ variableCount)
    (formed : instr.op.WellFormed earlier.length) (settled : instr.Settled) :
    executeOp variableValues variableCount earlier instr =
      executeOp variableValues variableCount earlier instr.op.fresh := by
  obtain ⟨op, output, strength, confidence, count⟩ := instr
  obtain ⟨rfl, kept⟩ := settled
  cases op with
  | constant value => rfl
  | variableRef index =>
    simp only [executeOp, MosesOp.fresh, if_pos (lt_of_lt_of_le formed enough)]
    rfl
  | binary opType arg1 arg2 =>
    obtain ⟨first, second⟩ := formed
    cases opType <;> simp only [executeOp, MosesOp.fresh, withArgs_of_lt first second] <;>
      first | rfl | obtain ⟨rfl, rfl, -⟩ := TruthValue.mk.inj (kept trivial); rfl
  | unary opType arg =>
    cases opType <;> simp only [executeOp, MosesOp.fresh, withArg_of_lt formed] <;>
      first | rfl | obtain ⟨rfl, rfl, -⟩ := TruthValue.mk.inj (kept trivial); rfl

/-- The clamp keeps an instruction settled: it leaves the count and maps a zero truth value to
itself. -/
theorem MosesInstruction.clamp_settled (settled : instr.Settled) : instr.clamp.Settled :=
  ⟨settled.count, fun keeps => by
    simp only [MosesInstruction.clamp, settled.kept keeps, clampf_of_mem le_rfl zero_le_one]⟩

/-- A round keeps its instruction settled when the instructions it may read are: the PLN cases
combine their counts by `min`, `max` or a copy. -/
theorem executeInstruction_settled (earlierSettled : ∀ e ∈ earlier, e.Settled)
    (settled : instr.Settled) :
    (executeInstruction variableValues variableCount earlier instr).Settled := by
  refine MosesInstruction.clamp_settled ?_
  obtain ⟨op, output, strength, confidence, count⟩ := instr
  obtain ⟨rfl, kept⟩ := settled
  have zero : ∀ e ∈ earlier, e.truthValue.count = 0 := fun e mem => (earlierSettled e mem).count
  cases op with
  | constant value => exact ⟨rfl, False.elim⟩
  | variableRef index => simp only [executeOp]; split_ifs <;> exact ⟨rfl, False.elim⟩
  | binary opType arg1 arg2 =>
    cases opType <;> simp only [executeOp]
    · refine withArgs_of_forall (P := MosesInstruction.Settled) ⟨rfl, kept⟩
        fun first hf second hs => ⟨?_, False.elim⟩
      simp only [MosesInstruction.setTruth, opencogPlnAnd, zero first hf, zero second hs, min_self]
    · refine withArgs_of_forall (P := MosesInstruction.Settled) ⟨rfl, kept⟩
        fun first hf second hs => ⟨?_, False.elim⟩
      simp only [MosesInstruction.setTruth, opencogPlnOr, zero first hf, zero second hs, max_self]
    · exact ⟨rfl, kept⟩
    · exact withArgs_of_forall (P := MosesInstruction.Settled) ⟨rfl, kept⟩
        fun _ _ _ _ => ⟨rfl, False.elim⟩
    · exact ⟨rfl, kept⟩
  | unary opType arg =>
    cases opType <;> simp only [executeOp]
    · exact withArg_of_forall (P := MosesInstruction.Settled) ⟨rfl, kept⟩
        fun first hf => ⟨zero first hf, False.elim⟩
    all_goals exact ⟨rfl, kept⟩

end Round

/-! ## Runs of the loop -/

section Loop

variable (variableValues : List ℚ) (variableCount : Nat)

/-- The loop keeps every operation in place. -/
theorem executeInstructions_ops : ∀ earlier pending : List MosesInstruction,
    (executeInstructions variableValues variableCount earlier pending).map (·.op) =
      earlier.map (·.op) ++ pending.map (·.op)
  | earlier, [] => (List.append_nil _).symm
  | earlier, instr :: pending => by
    rw [executeInstructions, executeInstructions_ops]
    simp

/-- The loop keeps every instruction settled. -/
theorem executeInstructions_settled : ∀ earlier pending : List MosesInstruction,
    (∀ e ∈ earlier, e.Settled) → (∀ e ∈ pending, e.Settled) →
      ∀ e ∈ executeInstructions variableValues variableCount earlier pending, e.Settled
  | _, [], earlierSettled, _ => earlierSettled
  | earlier, instr :: pending, earlierSettled, pendingSettled => by
    refine executeInstructions_settled _ pending (fun e mem => ?_)
      fun e mem => pendingSettled e (List.mem_cons_of_mem _ mem)
    rcases List.mem_append.1 mem with old | new
    · exact earlierSettled e old
    · rw [List.mem_singleton.1 new]
      exact executeInstruction_settled earlierSettled
        (pendingSettled instr (List.mem_cons_self _ _))

/-- On settled, well-formed instructions the loop runs as on their fresh selves. -/
theorem executeInstructions_fresh (enough : mosesMaxVariables ≤ variableCount) :
    ∀ earlier pending : List MosesInstruction, (∀ e ∈ pending, e.Settled) →
      (∀ (j : Nat) (instr : MosesInstruction), pending[j]? = some instr →
        instr.op.WellFormed (earlier.length + j)) →
      executeInstructions variableValues variableCount earlier pending =
        executeInstructions variableValues variableCount earlier (pending.map (·.op.fresh))
  | _, [], _, _ => rfl
  | earlier, instr :: pending, settled, formed => by
    have first := @executeOp_fresh variableValues variableCount earlier instr enough
      (formed 0 instr List.getElem?_cons_zero) (settled instr (List.mem_cons_self _ _))
    rw [List.map_cons, executeInstructions, executeInstructions, executeInstruction,
      executeInstruction, first]
    refine executeInstructions_fresh enough _ pending
      (fun e mem => settled e (List.mem_cons_of_mem _ mem)) fun j e found => ?_
    rw [List.length_append, List.length_singleton, Nat.add_assoc, Nat.add_comm 1]
    exact formed (j + 1) e (by rwa [List.getElem?_cons_succ])

/-- The loop reads the variable values only at the indices of its `VARIABLE` instructions. -/
theorem executeInstructions_congr {values : List ℚ} : ∀ earlier pending : List MosesInstruction,
    (∀ instr ∈ pending, ∀ index, instr.op = .variableRef index →
      variableValues.getD index 0 = values.getD index 0) →
    executeInstructions variableValues variableCount earlier pending =
      executeInstructions values variableCount earlier pending
  | _, [], _ => rfl
  | earlier, ⟨op, output, truth⟩ :: pending, agree => by
    have round : executeInstruction variableValues variableCount earlier ⟨op, output, truth⟩ =
        executeInstruction values variableCount earlier ⟨op, output, truth⟩ := by
      cases op with
      | variableRef index =>
        simp only [executeInstruction, executeOp, agree _ (List.mem_cons_self _ _) index rfl]
      | binary opType => cases opType <;> rfl
      | unary opType => cases opType <;> rfl
      | constant => rfl
    rw [executeInstructions, executeInstructions, round]
    exact executeInstructions_congr _ pending fun instr mem =>
      agree instr (List.mem_cons_of_mem _ mem)

end Loop

/-! ## Histories -/

/-- The states of the program that generation left as `generated`, after any sequence of
executions. -/
inductive ExecutionHistory (generated : MosesProgram) : MosesProgram → Prop
  | start : ExecutionHistory generated generated
  | execute {program : MosesProgram} (inputVariables : List ℚ) :
      ExecutionHistory generated program →
        ExecutionHistory generated (mosesProgramExecute program inputVariables)

/-- What every state of a generated program's history keeps: its `MOSES_MAX_VARIABLES`
variables, the generated operations, and settled instructions. -/
structure MosesProgram.Follows (generated program : MosesProgram) : Prop where
  variableCount : program.variableCount = mosesMaxVariables
  ops : program.instructions.map (·.op) = generated.instructions.map (·.op)
  settled : ∀ instr ∈ program.instructions, instr.Settled

/-- An execution keeps what the history keeps. -/
theorem MosesProgram.Follows.execute {generated program : MosesProgram}
    (follows : generated.Follows program) (inputVariables : List ℚ) :
    generated.Follows (mosesProgramExecute program inputVariables) :=
  ⟨follows.variableCount,
    (executeInstructions_ops _ _ _ _).trans (by rw [List.map_nil, List.nil_append, follows.ops]),
    executeInstructions_settled _ _ _ _ (fun _ => False.elim ∘ List.not_mem_nil _)
      follows.settled⟩

/-- Every state of a generated program's history follows it. -/
theorem ExecutionHistory.follows {rand : Nat → Nat} {pos maxInstructions next : Nat}
    {generated program : MosesProgram}
    (built : mosesProgramGenerateRandom rand pos mosesProgramCreate maxInstructions =
      some (true, generated, next))
    (history : ExecutionHistory generated program) : generated.Follows program := by
  induction history with
  | start =>
    obtain ⟨instructions, rfl, drawn⟩ := generateRandom_drawn rand pos built
    refine ⟨rfl, rfl, fun instr mem => ?_⟩
    obtain ⟨j, found⟩ := List.mem_iff_getElem?.1 mem
    rw [(drawn j instr found).1]
    exact instr.op.fresh_settled
  | execute inputVariables _ follows => exact follows.execute inputVariables

/-- The copied inputs are read back below `copy_count`. -/
theorem copyInputs_getD (program : MosesProgram) {inputVariables : List ℚ} {index : Nat}
    (input : index < inputVariables.length) (slot : index < program.variableCount) :
    (copyInputs program inputVariables).getD index 0 = inputVariables.getD index 0 := by
  have within : index < (inputVariables.take
      (min inputVariables.length program.variableCount)).length := by
    simp only [List.length_take]
    omega
  rw [copyInputs, List.getD_eq_getElem?_getD, List.getElem?_append_left within,
    List.getElem?_take_of_lt (by omega), ← List.getD_eq_getElem?_getD]

section Generated

variable {rand : Nat → Nat} {pos maxInstructions next : Nat} {generated : MosesProgram}

/-- Every execution of a generated program, whatever executions came before it, runs the
instructions as generation left them over the variable values it has just copied in. -/
theorem execute_after_history
    (built : mosesProgramGenerateRandom rand pos mosesProgramCreate maxInstructions =
      some (true, generated, next))
    {program : MosesProgram} (history : ExecutionHistory generated program)
    (inputVariables : List ℚ) :
    (mosesProgramExecute program inputVariables).instructions =
      executeInstructions (copyInputs program inputVariables) mosesMaxVariables []
        generated.instructions := by
  obtain ⟨count, ops, settled⟩ := history.follows built
  obtain ⟨instructions, rfl, drawn⟩ := generateRandom_drawn rand pos built
  have formed : ∀ (j : Nat) (instr : MosesInstruction), program.instructions[j]? = some instr →
      instr.op.WellFormed (([] : List MosesInstruction).length + j) := fun j instr found => by
    have same := congrArg (·[j]?) ops
    simp only [List.getElem?_map, found, Option.map_some'] at same
    obtain ⟨original, found', sameOp⟩ := Option.map_eq_some'.1 same.symm
    rw [← sameOp]
    simpa using (drawn j original found').2
  have fresh : program.instructions.map (·.op.fresh) = instructions :=
    calc program.instructions.map (·.op.fresh)
        = (program.instructions.map (·.op)).map MosesOp.fresh :=
          (List.map_map MosesOp.fresh MosesInstruction.op _).symm
      _ = (instructions.map (·.op)).map MosesOp.fresh := by rw [ops]
      _ = instructions := (List.map_map _ _ _).trans drawn.map_fresh
  show executeInstructions _ program.variableCount [] program.instructions = _
  rw [count, executeInstructions_fresh _ _ le_rfl [] _ settled formed, fresh]

/-- A generated program reads only the `MOSES_MAX_VARIABLES` variables. -/
theorem generated_reads_below
    (built : mosesProgramGenerateRandom rand pos mosesProgramCreate maxInstructions =
      some (true, generated, next))
    {instr : MosesInstruction} (mem : instr ∈ generated.instructions) {index : Nat}
    (isRead : instr.op = .variableRef index) : index < mosesMaxVariables := by
  obtain ⟨instructions, rfl, drawn⟩ := generateRandom_drawn rand pos built
  obtain ⟨j, found⟩ := List.mem_iff_getElem?.1 mem
  have formed := (drawn j instr found).2
  rwa [isRead] at formed

/-- Two executions of one generated program on the same inputs, after any two histories, agree
when every variable the program reads is among the inputs, as all are when the inputs number
`MOSES_MAX_VARIABLES` or more. -/
theorem execute_agrees_of_covered
    (built : mosesProgramGenerateRandom rand pos mosesProgramCreate maxInstructions =
      some (true, generated, next))
    {program1 program2 : MosesProgram} (history1 : ExecutionHistory generated program1)
    (history2 : ExecutionHistory generated program2) {inputVariables : List ℚ}
    (covered : ∀ instr ∈ generated.instructions, ∀ index, instr.op = .variableRef index →
      index < inputVariables.length) :
    (mosesProgramExecute program1 inputVariables).instructions =
      (mosesProgramExecute program2 inputVariables).instructions := by
  rw [execute_after_history built history1, execute_after_history built history2]
  refine executeInstructions_congr _ _ _ _ fun instr mem index isRead => ?_
  have slot := generated_reads_below built mem isRead
  have input := covered instr mem index isRead
  rw [copyInputs_getD _ input (by rwa [(history1.follows built).variableCount]),
    copyInputs_getD _ input (by rwa [(history2.follows built).variableCount])]

/-- The input array that `moses_program_evaluate_fitness` passes for a test case:
`float input_vars[MOSES_MAX_VARIABLES] = {0}`, then the first
`min(n_elements, MOSES_MAX_VARIABLES)` elements of the test's tensor, if it has data. -/
def fitnessInputs : Option (List ℚ) → List ℚ
  | none => List.replicate mosesMaxVariables 0
  | some data =>
    data.take mosesMaxVariables ++ List.replicate (mosesMaxVariables - data.length) 0

theorem length_fitnessInputs (testCase : Option (List ℚ)) :
    (fitnessInputs testCase).length = mosesMaxVariables := by
  cases testCase with
  | none => exact List.length_replicate _ _
  | some data =>
    simp only [fitnessInputs, List.length_append, List.length_take, List.length_replicate]
    omega

/-- The executions of `moses_program_evaluate_fitness` see no history: its zero-filled inputs
cover every variable a generated program reads. -/
theorem fitness_execution_agrees
    (built : mosesProgramGenerateRandom rand pos mosesProgramCreate maxInstructions =
      some (true, generated, next))
    {program1 program2 : MosesProgram} (history1 : ExecutionHistory generated program1)
    (history2 : ExecutionHistory generated program2) (testCase : Option (List ℚ)) :
    (mosesProgramExecute program1 (fitnessInputs testCase)).instructions =
      (mosesProgramExecute program2 (fitnessInputs testCase)).instructions :=
  execute_agrees_of_covered built history1 history2 fun _ mem _ isRead => by
    rw [length_fitnessInputs]
    exact generated_reads_below built mem isRead

end Generated

/-- The program of ten `VARIABLE 11` instructions that the stream `11, 11, ...` generates with
`max_instructions = 10`. -/
def staleReader : MosesProgram :=
  { mosesProgramCreate with instructions := List.replicate 10 (MosesOp.variableRef 11).fresh }

/-- An execution with the test's three inputs copies three values and leaves variable 11 as the
last execution set it: after an execution with 32 ones it reads 1, on a fresh program 0. -/
theorem stale_variable_read :
    mosesProgramGenerateRandom (fun _ => 11) 0 mosesProgramCreate 10 =
      some (true, staleReader, 21) ∧
    (mosesProgramExecute staleReader [1 / 2, 3 / 10, 4 / 5]).instructions.map (·.outputValue) =
      List.replicate 10 0 ∧
    (mosesProgramExecute (mosesProgramExecute staleReader (List.replicate 32 1))
      [1 / 2, 3 / 10, 4 / 5]).instructions.map (·.outputValue) = List.replicate 10 1 := by
  refine ⟨rfl, ?_, ?_⟩
  · decide
  · decide

end Coggml

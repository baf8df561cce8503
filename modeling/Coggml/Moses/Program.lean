import Coggml.AtomSpace.Table
import Mathlib.Tactic.IntervalCases
/-!
# MOSES programs and their random generation

A `moses_program_t` holds up to `MOSES_MAX_PROGRAM_SIZE` instructions and the
`MOSES_MAX_VARIABLES` variables its `VARIABLE` instructions read. `moses_program_generate_random`
draws everything from `rand()`, a stream read at a position, through
`random_int(min, max) = min + rand() % (max - min + 1)` in `int`, a remainder by zero being
`none`. For `5 <= max_instructions <= MOSES_MAX_PROGRAM_SIZE` every stream gives between 5 and
`max_instructions` instructions, each operand naming an earlier instruction and each variable a
slot (`generateRandom_wellFormed`); `max_instructions = 4` divides by zero.
-/

namespace Coggml

/-! ## Programs -/

/-- `MOSES_MAX_PROGRAM_SIZE`. -/
def mosesMaxProgramSize : Nat := 256

/-- `MOSES_MAX_VARIABLES`. -/
def mosesMaxVariables : Nat := 32

/-- The values of `moses_operation_type_t` whose operands are `binary_op`. -/
inductive BinaryOp
  | plnAnd
  | plnOr
  | plnImplies
  | similarity
  | inheritance
  deriving DecidableEq, Repr

/-- The values of `moses_operation_type_t` whose operand is `unary_arg_index`. -/
inductive UnaryOp
  | plnNot
  | patternMatch
  | attention
  deriving DecidableEq, Repr

/-- An instruction's `op_type` with the member of its `operands` union that the code writes and
reads for it. -/
inductive MosesOp
  | constant (constantValue : ℚ)
  | variableRef (variableIndex : Nat)
  | binary (opType : BinaryOp) (arg1Index arg2Index : Nat)
  | unary (opType : UnaryOp) (unaryArgIndex : Nat)
  deriving DecidableEq

/-- `moses_instruction_t`. -/
structure MosesInstruction where
  /-- `op_type` and `operands`. -/
  op : MosesOp
  /-- `output_value`. -/
  outputValue : ℚ
  /-- `truth_value`. -/
  truthValue : TruthValue
  deriving DecidableEq

/-- The fields of `moses_program_t` that generation and execution use; `instructions` holds the
first `instruction_count` entries of the array. -/
structure MosesProgram where
  /-- `instructions[0 .. instruction_count)`. -/
  instructions : List MosesInstruction
  /-- `variable_values[0 .. variable_count)`. -/
  variableValues : List ℚ
  /-- `variable_count`. -/
  variableCount : Nat
  /-- `execution_count`. -/
  executionCount : Nat
  deriving DecidableEq

/-- `moses_program_create`: no instructions and `MOSES_MAX_VARIABLES` variables, zeroed by
`calloc`. -/
def mosesProgramCreate : MosesProgram :=
  ⟨[], List.replicate mosesMaxVariables 0, mosesMaxVariables, 0⟩

/-- An instruction as generation leaves it, its output and truth value zeroed. -/
def MosesOp.fresh (op : MosesOp) : MosesInstruction := ⟨op, 0, ⟨0, 0, 0⟩⟩

/-! ## `rand()` -/

/-- `random_int(min, max)`: `min + rand() % (max - min + 1)` on `int` with `%` truncating, and the
stream's next position; `none` for a remainder by zero. -/
def randomInt (rand : Nat → Nat) (pos : Nat) (min max : Int) : Option (Int × Nat) :=
  if max - min + 1 = 0 then none else some (min + Int.tmod (rand pos) (max - min + 1), pos + 1)

/-- `random_float()`: `(float)rand() / (float)RAND_MAX`. -/
def randomFloat (rand : Nat → Nat) (pos : Nat) : ℚ := rand pos / randMax

/-! ## Generation -/

/-- `instr->operands.constant_value = random_float()`, also the fallback of the first
instruction. -/
def drawConstant (rand : Nat → Nat) (pos : Nat) : MosesOp × Nat :=
  (.constant (randomFloat rand pos), pos + 1)

/-- A binary operation at index `i`: both operands `random_int(0, (int)i - 1)`, or a constant for
the first instruction. -/
def drawBinary (rand : Nat → Nat) (opType : BinaryOp) (i pos : Nat) : Option (MosesOp × Nat) :=
  if i > 0 then do
    let (arg1, pos) ← randomInt rand pos 0 ((i : Int) - 1)
    let (arg2, pos) ← randomInt rand pos 0 ((i : Int) - 1)
    return (.binary opType arg1.toNat arg2.toNat, pos)
  else some (drawConstant rand pos)

/-- A unary operation at index `i`: its operand `random_int(0, (int)i - 1)`, or a constant for the
first instruction. -/
def drawUnary (rand : Nat → Nat) (opType : UnaryOp) (i pos : Nat) : Option (MosesOp × Nat) :=
  if i > 0 then do
    let (arg, pos) ← randomInt rand pos 0 ((i : Int) - 1)
    return (.unary opType arg.toNat, pos)
  else some (drawConstant rand pos)

/-- The body of the loop of `moses_program_generate_random` at index `i`: the operation
`random_int(MOSES_OP_CONSTANT, MOSES_OP_ATTENTION)` and the `switch` on it. No value outside
`1 .. 10` is drawn; the model answers one with `none`. -/
def drawInstruction (rand : Nat → Nat) (i pos : Nat) : Option (MosesOp × Nat) := do
  let (opType, pos) ← randomInt rand pos 1 10
  match opType with
  | 1 => some (drawConstant rand pos)
  | 2 => do
    let (index, pos) ← randomInt rand pos 0 ((mosesMaxVariables : Int) - 1)
    return (.variableRef index.toNat, pos)
  | 3 => drawBinary rand .plnAnd i pos
  | 4 => drawBinary rand .plnOr i pos
  | 5 => drawUnary rand .plnNot i pos
  | 6 => drawBinary rand .plnImplies i pos
  | 7 => drawBinary rand .similarity i pos
  | 8 => drawBinary rand .inheritance i pos
  | 9 => drawUnary rand .patternMatch i pos
  | 10 => drawUnary rand .attention i pos
  | _ => none

/-- The loop `for (size_t i = 0; i < program->instruction_count; i++)` from index `i`, with
`count` rounds left. -/
def drawInstructions (rand : Nat → Nat) : Nat → Nat → Nat → Option (List MosesInstruction × Nat)
  | 0, _, pos => some ([], pos)
  | count + 1, i, pos => do
    let (op, pos) ← drawInstruction rand i pos
    let (rest, pos) ← drawInstructions rand count (i + 1) pos
    return (op.fresh :: rest, pos)

/-- `moses_program_generate_random(moses, program, max_instructions)`: its answer, the program and
the stream's next position. -/
def mosesProgramGenerateRandom (rand : Nat → Nat) (pos : Nat) (program : MosesProgram)
    (maxInstructions : Nat) : Option (Bool × MosesProgram × Nat) :=
  if maxInstructions > mosesMaxProgramSize then some (false, program, pos)
  else do
    let (instructionCount, pos) ← randomInt rand pos 5 maxInstructions
    let (instructions, pos) ← drawInstructions rand instructionCount.toNat 0 pos
    return (true, { program with instructions }, pos)

/-! ## Well-formed programs -/

/-- The operands of the instruction at index `i` name earlier instructions, and its variable one
of the `MOSES_MAX_VARIABLES` slots. -/
def MosesOp.WellFormed (i : Nat) : MosesOp → Prop
  | .constant _ => True
  | .variableRef index => index < mosesMaxVariables
  | .binary _ arg1 arg2 => arg1 < i ∧ arg2 < i
  | .unary _ arg => arg < i

instance (i : Nat) : DecidablePred (MosesOp.WellFormed i) := fun op => by
  cases op <;> unfold MosesOp.WellFormed <;> infer_instance

/-- Instructions as generation writes them from index `i`: fresh and well formed where they
stand. -/
def Drawn (i : Nat) (instructions : List MosesInstruction) : Prop :=
  ∀ (j : Nat) (instr : MosesInstruction), instructions[j]? = some instr →
    instr = instr.op.fresh ∧ instr.op.WellFormed (i + j)

/-- Drawn instructions are their operations, made fresh. -/
theorem Drawn.map_fresh {i : Nat} {instructions : List MosesInstruction}
    (drawn : Drawn i instructions) : instructions.map (·.op.fresh) = instructions := by
  refine (List.map_congr_left fun instr mem => ?_).trans (List.map_id _)
  obtain ⟨j, found⟩ := List.mem_iff_getElem?.1 mem
  exact (drawn j instr found).1.symm

/-! ## What a draw gives -/

section Draws

variable (rand : Nat → Nat) (pos : Nat)

/-- A draw of `random_int(min, max)` with `min <= max` lies in `[min, max]`. -/
theorem randomInt_mem {min max : Int} (ordered : min ≤ max) :
    ∃ r, randomInt rand pos min max = some (r, pos + 1) ∧ min ≤ r ∧ r ≤ max := by
  have positive : 0 < max - min + 1 := by omega
  refine ⟨_, if_neg positive.ne', ?_, ?_⟩
  · have := Int.tmod_nonneg (max - min + 1) (Int.natCast_nonneg (rand pos))
    omega
  · have := Int.tmod_lt_of_pos (rand pos : Int) positive
    omega

/-- With `max < min - 1` the divisor is negative and `%` keeps the sign of `rand()`: the draw lies
in `[min, 2 * min - max - 1)`. -/
theorem randomInt_mem_of_lt {min max : Int} (reversed : max + 1 < min) :
    ∃ r, randomInt rand pos min max = some (r, pos + 1) ∧ min ≤ r ∧ r < 2 * min - max - 1 := by
  have negative : max - min + 1 < 0 := by omega
  refine ⟨_, if_neg negative.ne, ?_, ?_⟩
  · have := Int.tmod_nonneg (max - min + 1) (Int.natCast_nonneg (rand pos))
    omega
  · have := Int.tmod_lt_of_pos (rand pos : Int) (show 0 < -(max - min + 1) by omega)
    rw [Int.tmod_neg] at this
    omega

/-- A binary operation draws both operands below its index. -/
theorem drawBinary_wellFormed (opType : BinaryOp) (i : Nat) :
    ∃ op next, drawBinary rand opType i pos = some (op, next) ∧ op.WellFormed i := by
  unfold drawBinary
  split_ifs with positive
  · obtain ⟨arg1, first, low1, high1⟩ := randomInt_mem rand pos (show (0 : Int) ≤ i - 1 by omega)
    obtain ⟨arg2, second, low2, high2⟩ :=
      randomInt_mem rand (pos + 1) (show (0 : Int) ≤ i - 1 by omega)
    refine ⟨.binary opType arg1.toNat arg2.toNat, pos + 1 + 1, ?_, by omega, by omega⟩
    rw [first]
    dsimp only [bind, Option.bind]
    rw [second]
    rfl
  · exact ⟨_, _, rfl, trivial⟩

/-- A unary operation draws its operand below its index. -/
theorem drawUnary_wellFormed (opType : UnaryOp) (i : Nat) :
    ∃ op next, drawUnary rand opType i pos = some (op, next) ∧ op.WellFormed i := by
  unfold drawUnary
  split_ifs with positive
  · obtain ⟨arg, first, low, high⟩ := randomInt_mem rand pos (show (0 : Int) ≤ i - 1 by omega)
    exact ⟨_, _, by rw [first]; rfl, by show arg.toNat < i; omega⟩
  · exact ⟨_, _, rfl, trivial⟩

/-- Every round of the generation loop draws a well-formed instruction. -/
theorem drawInstruction_wellFormed (i : Nat) :
    ∃ op next, drawInstruction rand i pos = some (op, next) ∧ op.WellFormed i := by
  obtain ⟨code, draw, low, high⟩ := randomInt_mem rand pos (show (1 : Int) ≤ 10 by decide)
  unfold drawInstruction
  rw [draw]
  interval_cases code
  · exact ⟨_, _, rfl, trivial⟩
  · obtain ⟨index, first, low, high⟩ :=
      randomInt_mem rand (pos + 1) (show (0 : Int) ≤ (mosesMaxVariables : Int) - 1 by decide)
    unfold mosesMaxVariables at high
    refine ⟨.variableRef index.toNat, pos + 1 + 1, ?_, show index.toNat < 32 by omega⟩
    dsimp only [bind, Option.bind]
    rw [first]
    rfl
  all_goals first
    | exact drawBinary_wellFormed rand (pos + 1) _ i
    | exact drawUnary_wellFormed rand (pos + 1) _ i

/-- The generation loop draws `count` instructions, each fresh and well formed where it
stands. -/
theorem drawInstructions_drawn : ∀ count i pos, ∃ instructions next,
    drawInstructions rand count i pos = some (instructions, next) ∧
      instructions.length = count ∧ Drawn i instructions
  | 0, _, pos => ⟨[], pos, rfl, rfl, fun _ _ found => by simp at found⟩
  | count + 1, i, pos => by
    obtain ⟨op, mid, first, formed⟩ := drawInstruction_wellFormed rand pos i
    obtain ⟨rest, next, remaining, length, drawn⟩ := drawInstructions_drawn count (i + 1) mid
    refine ⟨op.fresh :: rest, next, ?_, by rw [List.length_cons, length], ?_⟩
    · rw [drawInstructions, first]
      dsimp only [bind, Option.bind]
      rw [remaining]
      rfl
    · rintro (_ | j) instr found
      · obtain rfl : op.fresh = instr := Option.some.inj (by rwa [List.getElem?_cons_zero] at found)
        exact ⟨rfl, formed⟩
      · obtain ⟨fresh, formed⟩ := drawn j instr (by rwa [List.getElem?_cons_succ] at found)
        exact ⟨fresh, by rwa [show i + (j + 1) = i + 1 + j by omega]⟩

/-- A generation that draws the count `instructionCount` writes that many fresh, well-formed
instructions and keeps the program's other fields. -/
theorem generateRandom_of_count {program : MosesProgram} {maxInstructions : Nat}
    (most : maxInstructions ≤ mosesMaxProgramSize) {instructionCount : Int} {next : Nat}
    (draw : randomInt rand pos 5 maxInstructions = some (instructionCount, next)) :
    ∃ instructions last, mosesProgramGenerateRandom rand pos program maxInstructions =
        some (true, { program with instructions }, last) ∧
      instructions.length = instructionCount.toNat ∧ Drawn 0 instructions := by
  obtain ⟨instructions, last, loop, length, drawn⟩ :=
    drawInstructions_drawn rand instructionCount.toNat 0 next
  refine ⟨instructions, last, ?_, length, drawn⟩
  rw [mosesProgramGenerateRandom, if_neg (by omega), draw]
  dsimp only [bind, Option.bind]
  rw [loop]
  rfl

/-- For `5 <= max_instructions <= MOSES_MAX_PROGRAM_SIZE` every stream of `rand()` results gives
between 5 and `max_instructions` instructions, fresh and well formed. -/
theorem generateRandom_wellFormed (program : MosesProgram) {maxInstructions : Nat}
    (least : 5 ≤ maxInstructions) (most : maxInstructions ≤ mosesMaxProgramSize) :
    ∃ instructions next, mosesProgramGenerateRandom rand pos program maxInstructions =
        some (true, { program with instructions }, next) ∧
      5 ≤ instructions.length ∧ instructions.length ≤ maxInstructions ∧ Drawn 0 instructions := by
  obtain ⟨count, draw, low, high⟩ :=
    randomInt_mem rand pos (show (5 : Int) ≤ maxInstructions by omega)
  obtain ⟨instructions, next, generated, length, drawn⟩ :=
    generateRandom_of_count rand pos most draw
  exact ⟨instructions, next, generated, by omega, by omega, drawn⟩

/-- Whatever the stream, a generation that answers true has written fresh, well-formed
instructions and kept the program's other fields. -/
theorem generateRandom_drawn {program generated : MosesProgram} {maxInstructions next : Nat}
    (built : mosesProgramGenerateRandom rand pos program maxInstructions =
      some (true, generated, next)) :
    ∃ instructions, generated = { program with instructions } ∧ Drawn 0 instructions := by
  have generate := built
  unfold mosesProgramGenerateRandom at built
  split_ifs at built with large
  · cases built
  cases draw : randomInt rand pos 5 maxInstructions with
  | none => rw [draw] at built; cases built
  | some result =>
    obtain ⟨instructions, last, same, -, drawn⟩ :=
      @generateRandom_of_count rand pos program maxInstructions (not_lt.1 large) _ _ draw
    rw [generate] at same
    obtain ⟨-, rfl, -⟩ := Prod.mk.inj (Option.some.inj same)
    exact ⟨instructions, rfl, drawn⟩

end Draws

/-- `random_int(5, max_instructions)` with `max_instructions = 4` takes `rand() % 0`, and with
`max_instructions < 4` yields 5 to `8 - max_instructions` instructions, more than asked for; every
stream of `rand()` results does so. -/
theorem generateRandom_count_below_five :
    (∀ rand pos program, mosesProgramGenerateRandom rand pos program 4 = none) ∧
    ∀ rand pos program maxInstructions, maxInstructions < 4 →
      ∃ instructions next, mosesProgramGenerateRandom rand pos program maxInstructions =
          some (true, { program with instructions }, next) ∧
        maxInstructions < instructions.length ∧ instructions.length ≤ 8 - maxInstructions := by
  refine ⟨fun rand pos program => rfl, fun rand pos program maxInstructions small => ?_⟩
  obtain ⟨count, draw, low, high⟩ :=
    randomInt_mem_of_lt rand pos (show (maxInstructions : Int) + 1 < 5 by omega)
  obtain ⟨instructions, next, generated, length, -⟩ :=
    generateRandom_of_count rand pos (by unfold mosesMaxProgramSize; omega) draw
  exact ⟨instructions, next, generated, by omega, by omega⟩

end Coggml

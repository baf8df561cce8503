import Coggml.Moses.Execute
import Coggml.AtomSpace.Values
/-!
# Evaluating a MOSES program's fitness

`moses_program_evaluate_fitness` executes the program once per test case and turns the average
distance of the last output to the targets into `1 / (1 + error)`, mixed with the AtomSpace's
reasoning accuracy under PLN integration, plus a tenth of the efficiency bonus. It then counts
the evaluation through `moses->population`, which `moses_system_init` leaves `NULL`: with test
cases and no population the call dereferences `NULL`, written `none`
(`fitness_without_population_dereferences_null`). With a population the fitness lies in
`(0, 1.1]` (`fitness_in_range`), and for a generated program it does not depend on earlier
executions (`fitness_ignores_history`). The scores the call writes into the program are left out.
-/

namespace Coggml

/-- `MOSES_MAX_POPULATION`. -/
def mosesMaxPopulation : Nat := 128

/-- The fields of `moses_system_t` that test cases, populations and fitness evaluation use. -/
structure MosesSystem where
  /-- `test_cases[i]->data`, `none` for a tensor without data, with `target_outputs[i]`. -/
  testCases : List (Option (List ℚ) × ℚ)
  /-- `atomspace`, `none` for `NULL`. -/
  atomspace : Option AtomSpace
  /-- `integrate_with_pln`. -/
  integrateWithPln : Bool
  /-- `population->total_evaluations`, `none` while `population` is `NULL`. -/
  totalEvaluations : Option Nat

/-- `moses_system_init`: no test cases, PLN integration on, no population. -/
def mosesSystemInit (atomspace : Option AtomSpace) : MosesSystem := ⟨[], atomspace, true, none⟩

/-- `moses_add_test_case` — refused for a `NULL` tensor, `none`; `some data` is a tensor with
its data pointer, itself possibly `NULL`. -/
def mosesAddTestCase (moses : MosesSystem) (input : Option (Option (List ℚ)))
    (expectedOutput : ℚ) : MosesSystem × Bool :=
  match input with
  | none => (moses, false)
  | some data => ({ moses with testCases := moses.testCases ++ [(data, expectedOutput)] }, true)

/-- `moses_population_create`, as fitness evaluation sees it: refused above
`MOSES_MAX_POPULATION`, otherwise a population with no evaluations. -/
def mosesPopulationCreate (moses : MosesSystem) (populationSize : Nat) : MosesSystem × Bool :=
  if mosesMaxPopulation < populationSize then (moses, false)
  else ({ moses with totalEvaluations := some 0 }, true)

/-- The test loop of `moses_program_evaluate_fitness`: each test's inputs are executed and,
when the program has instructions, the last output's distance to the target is added to the
error and the test counted. -/
def fitnessTests : List (Option (List ℚ) × ℚ) → MosesProgram → ℚ → Nat → MosesProgram × ℚ × Nat
  | [], program, totalError, validTests => (program, totalError, validTests)
  | (input, expected) :: rest, program, totalError, validTests =>
    let executed := mosesProgramExecute program (fitnessInputs input)
    match executed.instructions.getLast? with
    | none => fitnessTests rest executed totalError validTests
    | some last =>
      fitnessTests rest executed (totalError + |last.outputValue - expected|) (validTests + 1)

/-- The fitness of the error total and the count of valid tests, before the counting of the
evaluation: `1 / (1 + average_error)`, the PLN mix, and the efficiency bonus. -/
def fitnessOf (moses : MosesSystem) (instructionCount : Nat) (totalError : ℚ)
    (validTests : Nat) : ℚ :=
  let averageError : ℚ := if 0 < validTests then totalError / validTests else 1
  let fitness := 1 / (1 + averageError)
  let fitness := match moses.integrateWithPln, moses.atomspace with
    | true, some atomspace => fitness * 0.7 + atomspace.reasoningAccuracy * 0.3
    | _, _ => fitness
  let efficiencyBonus : ℚ := 1 - (instructionCount : ℚ) / mosesMaxProgramSize
  fitness + efficiencyBonus * 0.1

/-- `moses_program_evaluate_fitness` — 0 without test cases; `none` where it increments
`total_evaluations` through a `NULL` population; otherwise the system, the program after its
executions, and the fitness. -/
def mosesProgramEvaluateFitness (moses : MosesSystem) (program : MosesProgram) :
    Option (MosesSystem × MosesProgram × ℚ) :=
  if moses.testCases = [] then some (moses, program, 0)
  else
    let tested := fitnessTests moses.testCases program 0 0
    match moses.totalEvaluations with
    | none => none
    | some totalEvaluations =>
      some ({ moses with totalEvaluations := some (totalEvaluations + 1) }, tested.1,
        fitnessOf moses tested.1.instructions.length tested.2.1 tested.2.2)

/-! ## Without a population -/

/-- Evaluation dereferences `NULL` exactly when there are test cases and no population. -/
theorem mosesProgramEvaluateFitness_eq_none {moses : MosesSystem} (program : MosesProgram) :
    mosesProgramEvaluateFitness moses program = none ↔
      moses.testCases ≠ [] ∧ moses.totalEvaluations = none := by
  unfold mosesProgramEvaluateFitness
  split
  · simp_all
  · rename_i tests
    cases moses.totalEvaluations <;> simp [tests]

/-- Adding test cases never creates a population, and once one is accepted there are test
cases. -/
theorem foldl_mosesAddTestCase :
    ∀ (cases : List (Option (Option (List ℚ)) × ℚ)) (moses : MosesSystem),
      (cases.foldl (fun moses c => (mosesAddTestCase moses c.1 c.2).1) moses).totalEvaluations =
          moses.totalEvaluations ∧
        ((∃ c ∈ cases, c.1.isSome) ∨ moses.testCases ≠ [] →
          (cases.foldl (fun moses c => (mosesAddTestCase moses c.1 c.2).1) moses).testCases ≠ [])
  | [], moses => ⟨rfl, by simp⟩
  | (input, expected) :: rest, moses => by
    obtain ⟨same, grows⟩ := foldl_mosesAddTestCase rest (mosesAddTestCase moses input expected).1
    rw [List.foldl_cons]
    refine ⟨by rw [same]; cases input <;> rfl, fun accepted => grows ?_⟩
    cases input with
    | none => simpa [mosesAddTestCase] using accepted
    | some data => exact .inr (by simp [mosesAddTestCase])

/-- The test cases of `test-moses`: the inputs `(0.5, 0.3, 0.8)` and `(0.2, 0.7, 0.1)`, with
their means to two places as targets. -/
def testMosesCases : List (Option (Option (List ℚ)) × ℚ) :=
  [(some (some [0.5, 0.3, 0.8]), 0.53), (some (some [0.2, 0.7, 0.1]), 0.33)]

/-- After `moses_system_init` and any test cases, at least one of them accepted, and no
`moses_population_create`, evaluating the fitness of any program dereferences the `NULL`
population. -/
theorem fitness_without_population_dereferences_null (atomspace : Option AtomSpace)
    (cases : List (Option (Option (List ℚ)) × ℚ)) (accepted : ∃ c ∈ cases, c.1.isSome)
    (program : MosesProgram) :
    mosesProgramEvaluateFitness
      (cases.foldl (fun moses c => (mosesAddTestCase moses c.1 c.2).1) (mosesSystemInit atomspace))
      program = none := by
  obtain ⟨same, grows⟩ := foldl_mosesAddTestCase cases (mosesSystemInit atomspace)
  exact (mosesProgramEvaluateFitness_eq_none program).2 ⟨grows (.inl accepted), same⟩

/-- Without a population, fitness evaluation returns nothing even with test cases. -/
theorem testMosesCases_without_population :
    (∃ c ∈ testMosesCases, c.1.isSome) ∧
      mosesProgramEvaluateFitness
        (testMosesCases.foldl (fun moses c => (mosesAddTestCase moses c.1 c.2).1)
          (mosesSystemInit (some opencogAtomspaceInit))) staleReader = none :=
  have accepted : ∃ c ∈ testMosesCases, c.1.isSome := ⟨_, List.mem_cons_self _ _, rfl⟩
  ⟨accepted, fitness_without_population_dereferences_null _ _ accepted _⟩

/-! ## The range of the fitness -/

/-- An execution keeps the number of instructions. -/
theorem length_mosesProgramExecute (program : MosesProgram) (inputVariables : List ℚ) :
    (mosesProgramExecute program inputVariables).instructions.length =
      program.instructions.length := by
  simpa using congrArg List.length (executeInstructions_ops (copyInputs program inputVariables)
    program.variableCount [] program.instructions)

/-- The test loop keeps the number of instructions and a nonnegative error total. -/
theorem fitnessTests_spec : ∀ (tests : List (Option (List ℚ) × ℚ)) (program : MosesProgram)
    (totalError : ℚ) (validTests : Nat), 0 ≤ totalError →
      (fitnessTests tests program totalError validTests).1.instructions.length =
          program.instructions.length ∧
        0 ≤ (fitnessTests tests program totalError validTests).2.1
  | [], _, _, _, nonneg => ⟨rfl, nonneg⟩
  | (input, expected) :: rest, program, totalError, validTests, nonneg => by
    rw [← length_mosesProgramExecute program (fitnessInputs input)]
    simp only [fitnessTests]
    split
    · exact fitnessTests_spec rest _ _ _ nonneg
    · exact fitnessTests_spec rest _ _ _ (add_nonneg nonneg (abs_nonneg _))

/-- Along every run from `opencog_atomspace_init` the reasoning accuracy is in `[0, 1]`. -/
theorem AtomSpace.Reachable.accuracy_mem_unit {s : AtomSpace} (reachable : s.Reachable) :
    0 ≤ s.reasoningAccuracy ∧ s.reasoningAccuracy ≤ 1 := by
  obtain ⟨t, low, -, ratio⟩ := reachable.staleRatio
  change s.reasoningAccuracy = _ at ratio
  rw [ratio]
  exact ⟨div_nonneg (Nat.cast_nonneg _) (Nat.cast_nonneg _),
    div_le_one_of_le₀ (Nat.cast_le.2 low) (Nat.cast_nonneg _)⟩

/-- The fitness of a program within `MOSES_MAX_PROGRAM_SIZE` instructions, with a nonnegative
error total and an accuracy in `[0, 1]`, is in `(0, 1.1]`. -/
theorem fitnessOf_mem {moses : MosesSystem} {instructionCount : Nat} {totalError : ℚ}
    (validTests : Nat) (accuracy : ∀ s, moses.atomspace = some s →
      0 ≤ s.reasoningAccuracy ∧ s.reasoningAccuracy ≤ 1)
    (sized : instructionCount ≤ mosesMaxProgramSize) (nonneg : 0 ≤ totalError) :
    0 < fitnessOf moses instructionCount totalError validTests ∧
      fitnessOf moses instructionCount totalError validTests ≤ 1.1 := by
  unfold fitnessOf
  dsimp only
  have averageNonneg : 0 ≤ (if 0 < validTests then totalError / validTests else 1 : ℚ) := by
    split
    · exact div_nonneg nonneg (Nat.cast_nonneg _)
    · exact zero_le_one
  set averageError := (if 0 < validTests then totalError / validTests else 1 : ℚ)
  have basePos : 0 < 1 / (1 + averageError) :=
    one_div_pos.2 (add_pos_of_pos_of_nonneg one_pos averageNonneg)
  have baseLe : 1 / (1 + averageError) ≤ 1 :=
    div_le_one_of_le₀ (le_add_of_nonneg_right averageNonneg) (add_nonneg zero_le_one averageNonneg)
  have share : (instructionCount : ℚ) / mosesMaxProgramSize ≤ 1 :=
    div_le_one_of_le₀ (Nat.cast_le.2 sized) (Nat.cast_nonneg _)
  have shareNonneg : 0 ≤ (instructionCount : ℚ) / mosesMaxProgramSize :=
    div_nonneg (Nat.cast_nonneg _) (Nat.cast_nonneg _)
  have bonusNonneg : 0 ≤ (1 - (instructionCount : ℚ) / mosesMaxProgramSize) * 0.1 :=
    mul_nonneg (sub_nonneg.2 share) (by norm_num)
  have bonusLe : (1 - (instructionCount : ℚ) / mosesMaxProgramSize) * 0.1 ≤ 1 * 0.1 :=
    mul_le_mul_of_nonneg_right (sub_le_self _ shareNonneg) (by norm_num)
  split
  · rename_i atomspace _ found
    obtain ⟨low, high⟩ := accuracy atomspace found
    refine ⟨add_pos_of_pos_of_nonneg (add_pos_of_pos_of_nonneg (mul_pos basePos (by norm_num))
      (mul_nonneg low (by norm_num))) bonusNonneg, ?_⟩
    calc _ ≤ 1 * 0.7 + 1 * 0.3 + 1 * 0.1 :=
          add_le_add (add_le_add (mul_le_mul_of_nonneg_right baseLe (by norm_num))
            (mul_le_mul_of_nonneg_right high (by norm_num))) bonusLe
      _ = 1.1 := by norm_num
  · exact ⟨add_pos_of_pos_of_nonneg basePos bonusNonneg,
      (add_le_add baseLe bonusLe).trans_eq (by norm_num)⟩

/-- The system of `test-moses`: a population of 20 created, then the two test cases added. -/
def testMoses : MosesSystem :=
  testMosesCases.foldl (fun moses c => (mosesAddTestCase moses c.1 c.2).1)
    (mosesPopulationCreate (mosesSystemInit (some opencogAtomspaceInit)) 20).1

/-- With a population and test cases, the fitness of a program of at most
`MOSES_MAX_PROGRAM_SIZE` instructions, over no AtomSpace or one reached from
`opencog_atomspace_init`, is in `(0, 1.1]`, and the evaluation is counted. -/
theorem fitness_in_range {moses : MosesSystem} {program : MosesProgram} {totalEvaluations : Nat}
    (population : moses.totalEvaluations = some totalEvaluations)
    (reached : ∀ s, moses.atomspace = some s → s.Reachable)
    (sized : program.instructions.length ≤ mosesMaxProgramSize) (tests : moses.testCases ≠ []) :
    ∃ executed fitness, mosesProgramEvaluateFitness moses program =
        some ({ moses with totalEvaluations := some (totalEvaluations + 1) }, executed, fitness) ∧
      0 < fitness ∧ fitness ≤ 1.1 := by
  obtain ⟨length, nonneg⟩ := fitnessTests_spec moses.testCases program 0 0 le_rfl
  refine ⟨(fitnessTests moses.testCases program 0 0).1, _, ?_,
    fitnessOf_mem (fitnessTests moses.testCases program 0 0).2.2
      (fun s found => (reached s found).accuracy_mem_unit) (length ▸ sized) nonneg⟩
  simp only [mosesProgramEvaluateFitness, if_neg tests, population]

/-- On the test system, the fitness of `staleReader` is in (0, 1.1] and the evaluation is
counted. -/
theorem testMoses_fitness_in_range :
    testMoses.totalEvaluations = some 0 ∧
    (∀ s, testMoses.atomspace = some s → s.Reachable) ∧
    staleReader.instructions.length ≤ mosesMaxProgramSize ∧ testMoses.testCases ≠ [] ∧
    ∃ executed fitness, mosesProgramEvaluateFitness testMoses staleReader =
        some ({ testMoses with totalEvaluations := some (0 + 1) }, executed, fitness) ∧
      0 < fitness ∧ fitness ≤ 1.1 :=
  have population : testMoses.totalEvaluations = some 0 := rfl
  have reached : ∀ s, testMoses.atomspace = some s → s.Reachable := fun s found =>
    Option.some.inj found ▸ Relation.ReflTransGen.refl
  have sized : staleReader.instructions.length ≤ mosesMaxProgramSize := by decide
  have tests : testMoses.testCases ≠ [] := List.cons_ne_nil _ _
  ⟨population, reached, sized, tests, fitness_in_range population reached sized tests⟩

/-! ## Fitness and history -/

section Generated

variable {rand : Nat → Nat} {pos maxInstructions next : Nat} {generated : MosesProgram}

/-- Over two histories of one generated program, the test loop finds the same errors. -/
theorem fitnessTests_agree
    (built : mosesProgramGenerateRandom rand pos mosesProgramCreate maxInstructions =
      some (true, generated, next)) :
    ∀ (tests : List (Option (List ℚ) × ℚ)) {program1 program2 : MosesProgram},
      ExecutionHistory generated program1 → ExecutionHistory generated program2 →
      ∀ (totalError : ℚ) (validTests : Nat),
        (fitnessTests tests program1 totalError validTests).2 =
          (fitnessTests tests program2 totalError validTests).2
  | [], _, _, _, _, _, _ => rfl
  | (input, expected) :: rest, program1, program2, history1, history2, totalError, validTests => by
    have same := fitness_execution_agrees built history1 history2 input
    have next1 := history1.execute (fitnessInputs input)
    have next2 := history2.execute (fitnessInputs input)
    simp only [fitnessTests, same]
    split <;> exact fitnessTests_agree built rest next1 next2 _ _

/-- Every state of a generated program's history has its number of instructions. -/
theorem ExecutionHistory.length_eq
    (built : mosesProgramGenerateRandom rand pos mosesProgramCreate maxInstructions =
      some (true, generated, next))
    {program : MosesProgram} (history : ExecutionHistory generated program) :
    program.instructions.length = generated.instructions.length := by
  simpa using congrArg List.length (history.follows built).ops

/-- The fitness `moses_program_evaluate_fitness` gives a generated program does not depend on
the executions of the program before the call: any two states of its history, evaluated
against the same system, get the same fitness (or both dereference `NULL`). -/
theorem fitness_ignores_history
    (built : mosesProgramGenerateRandom rand pos mosesProgramCreate maxInstructions =
      some (true, generated, next))
    {program1 program2 : MosesProgram} (history1 : ExecutionHistory generated program1)
    (history2 : ExecutionHistory generated program2) (moses : MosesSystem) :
    (mosesProgramEvaluateFitness moses program1).map (·.2.2) =
      (mosesProgramEvaluateFitness moses program2).map (·.2.2) := by
  unfold mosesProgramEvaluateFitness
  split
  · rfl
  · have errors := fitnessTests_agree built moses.testCases history1 history2 0 0
    have lengths : (fitnessTests moses.testCases program1 0 0).1.instructions.length =
        (fitnessTests moses.testCases program2 0 0).1.instructions.length := by
      rw [(fitnessTests_spec _ _ _ _ le_rfl).1, (fitnessTests_spec _ _ _ _ le_rfl).1,
        history1.length_eq built, history2.length_eq built]
    cases moses.totalEvaluations with
    | none => rfl
    | some totalEvaluations => simp only [Option.map_some', lengths, errors]

end Generated

/-- The program that reads before it writes gets the same fitness as its own execution on the
input of ones. -/
theorem staleReader_fitness_ignores_history :
    mosesProgramGenerateRandom (fun _ => 11) 0 mosesProgramCreate 10 =
        some (true, staleReader, 21) ∧
      (mosesProgramEvaluateFitness testMoses staleReader).map (·.2.2) =
        (mosesProgramEvaluateFitness testMoses
          (mosesProgramExecute staleReader (List.replicate 32 1))).map (·.2.2) :=
  have built : mosesProgramGenerateRandom (fun _ => 11) 0 mosesProgramCreate 10 =
      some (true, staleReader, 21) := rfl
  ⟨built, fitness_ignores_history built .start (.execute _ .start) testMoses⟩

end Coggml

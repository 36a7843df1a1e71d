import ExpertAdvisor.Proofs.Advisor.TickInstructions
import ExpertAdvisor.Proofs.Number.DecimalReading

namespace ExpertAdvisor

open Text Indicator Advisor Number Code

/-!
# Distinct ticks

What a strategy adds to an expert advisor tells the strategy apart from others
of its kind.  The body of its tick tells the instructions, the first of these
read the buffers, and their number tells whether they note which sides are held.
Of a threshold strategy only what takes part in its tick can be told.
-/

/-- The instructions of statements are known from the text of the statements. -/
theorem Advisor.Statement.instructions_unique
    {first second : List (Statement Nat)}
    (firstFilled : ∀ statement ∈ first, statement.IsFilled)
    (firstPlain : ∀ statement ∈ first, statement.RemarkPlain)
    (secondFilled : ∀ statement ∈ second, statement.IsFilled)
    (secondPlain : ∀ statement ∈ second, statement.RemarkPlain)
    (same : body naturalText first = body naturalText second) :
    first.flatMap instructions = second.flatMap instructions := by
  have read := congrArg read? same
  rw [read?_body firstFilled firstPlain, read?_body secondFilled secondPlain] at read
  exact Option.some.inj read

namespace CrossoverStrategy

/-- The instructions that the tick of a crossover strategy makes. -/
def instructions (strategy : CrossoverStrategy) : List Instruction :=
  strategy.tick.flatMap Statement.instructions

/-- A crossover tick begins with the reading of both buffers. -/
theorem take_instructions (strategy : CrossoverStrategy) :
    strategy.instructions.take 2 =
      (Statement.readSeries .fast strategy.fastBuffer 0).instructions ++
        (Statement.readSeries .slow strategy.slowBuffer 0).instructions :=
  rfl

/-- A strategy without stacking notes both sides. -/
theorem length_instructions (strategy : CrossoverStrategy) :
    strategy.instructions.length = if strategy.stacking then 8 else 10 := by
  rw [instructions, tick]
  cases strategy.stacking <;> cases strategy.reversed <;> rfl

/-- How a strategy reacts to crosses. -/
def reaction (stacking reversed : Bool) : Instruction :=
  let bullishSide := if reversed then Side.sell else Side.buy
  Reaction.instruction ⟨.bullishCross, Action.enter bullishSide stacking⟩
    [⟨.bearishCross, Action.enter bullishSide.opposite stacking⟩]

/-- A crossover tick ends with its reaction. -/
theorem getLast?_instructions (strategy : CrossoverStrategy) :
    strategy.instructions.getLast? = some (reaction strategy.stacking strategy.reversed) := by
  rw [instructions, tick]
  cases strategy.stacking <;> cases strategy.reversed <;> rfl

/-- The reaction tells whether a crossover strategy is reversed. -/
theorem reaction_unique :
    ∀ stacking first second,
      (reaction stacking first).tokens = (reaction stacking second).tokens → first = second := by
  decide +kernel

/-- What a crossover strategy adds to an expert advisor tells the whole strategy. -/
theorem fragment_unique
    {first second : CrossoverStrategy}
    (same : (Strategy.crossover first).fragment = (Strategy.crossover second).fragment) :
    first = second := by
  simp only [Strategy.fragment, Fragment.mk.injEq, true_and] at same
  have sameInstructions : first.instructions = second.instructions :=
    Statement.instructions_unique first.filled_tick first.remarksPlain_tick
      second.filled_tick second.remarksPlain_tick same
  have sameBuffers :
      first.fastBuffer = second.fastBuffer ∧ first.slowBuffer = second.slowBuffer := by
    have sameReadings := congrArg (List.take 2) sameInstructions
    rw [take_instructions, take_instructions] at sameReadings
    simpa [Statement.instructions] using sameReadings
  have sameStacking : first.stacking = second.stacking := by
    have sameLength := congrArg List.length sameInstructions
    rw [length_instructions, length_instructions] at sameLength
    revert sameLength
    cases first.stacking <;> cases second.stacking <;> simp
  have sameReversed : first.reversed = second.reversed := by
    have sameReaction := congrArg List.getLast? sameInstructions
    rw [getLast?_instructions, getLast?_instructions, sameStacking] at sameReaction
    exact reaction_unique _ _ _ (congrArg Instruction.tokens (Option.some.inj sameReaction))
  cases first
  cases second
  simp_all

end CrossoverStrategy

namespace ThresholdStrategy

/-- The instructions that the tick of a threshold strategy makes. -/
def instructions (strategy : ThresholdStrategy) : List Instruction :=
  strategy.tick.flatMap Statement.instructions

theorem take_instructions (strategy : ThresholdStrategy) :
    strategy.instructions.take 1 =
      (Statement.readSeries .level strategy.buffer 0).instructions :=
  rfl

/-- Each watched side is defined and reacted to, and without stacking both sides are noted. -/
theorem length_instructions
    (strategy : ThresholdStrategy)
    (someSides : strategy.sides ≠ []) :
    strategy.instructions.length =
      2 + (if strategy.stacking then 0 else 2) + 2 * strategy.sides.length := by
  have each
      {statement : Side → Statement Nat}
      (single : ∀ side, (statement side).instructions.length = 1) :
      ((strategy.sides.map statement).flatMap Statement.instructions).length =
        strategy.sides.length := by
    simp [List.flatMap_map, List.length_flatMap, single]
  have defining := @each (fun side => .define (Tick.breachOf side) (Tick.breachConditions side))
    fun _ => rfl
  have reacting := @each
    (fun side => .react [⟨Tick.breachOf side, Action.enter side strategy.stacking⟩]) fun _ => rfl
  have noting : ((if strategy.stacking then [] else Tick.noteHeldSides).flatMap
      Statement.instructions).length = if strategy.stacking then 0 else 2 := by
    cases strategy.stacking <;> rfl
  rw [instructions, tick, Tick.threshold, List.isEmpty_eq_false_iff.mpr someSides]
  simp only [Bool.false_eq_true, ↓reduceIte, List.flatMap_append, List.length_append, defining,
    reacting, noting]
  simp [Statement.instructions]
  omega

/-- The inputs of a strategy tell the watched levels. -/
theorem inputs_unique
    {first second : ThresholdStrategy}
    (same : first.inputs = second.inputs) :
    first.watchedUpper = second.watchedUpper ∧ first.watchedLower = second.watchedLower := by
  have boundsApart (upper lower : FiniteBinary64) :
      Tick.boundInput .lower (finiteLiteral lower) ≠ Tick.boundInput .upper (finiteLiteral upper) :=
    fun sameInput => absurd (congrArg Input.name sameInput)
      (by decide : Bound.lower.inputName ≠ Bound.upper.inputName)
  have sameLevel {bound : Bound} {level other : FiniteBinary64} :
      Tick.boundInput bound (finiteLiteral level) = Tick.boundInput bound (finiteLiteral other) ↔
        level = other :=
    ⟨fun sameInput => finiteLiteral_injective (congrArg Input.value sameInput),
      congrArg fun level => Tick.boundInput bound (finiteLiteral level)⟩
  unfold inputs at same
  revert same
  cases first.watchedUpper <;> cases first.watchedLower <;> cases second.watchedUpper <;>
    cases second.watchedLower <;> simp [boundsApart, (boundsApart _ _).symm, sameLevel]

/--
What a threshold strategy adds to an expert advisor tells the buffer and the
watched levels, and whether it stacks positions if it watches any level.
-/
theorem fragment_unique
    {first second : ThresholdStrategy}
    (same : (Strategy.threshold first).fragment = (Strategy.threshold second).fragment) :
    first.buffer = second.buffer ∧ first.watchedUpper = second.watchedUpper ∧
      first.watchedLower = second.watchedLower ∧
      ((first.watchedUpper.isSome ∨ first.watchedLower.isSome) →
        first.stacking = second.stacking) := by
  simp only [Strategy.fragment, Fragment.mk.injEq] at same
  obtain ⟨sameUpper, sameLower⟩ := inputs_unique same.1
  have sameSides : first.sides = second.sides := by
    rw [sides, sides, sameUpper, sameLower]
  have sameInstructions : first.instructions = second.instructions :=
    Statement.instructions_unique first.filled_tick first.remarksPlain_tick
      second.filled_tick second.remarksPlain_tick same.2
  refine ⟨?_, sameUpper, sameLower, fun someLevel => ?_⟩
  · have sameReading := congrArg (List.take 1) sameInstructions
    rw [take_instructions, take_instructions] at sameReading
    simpa [Statement.instructions] using sameReading
  · have someSides : first.sides ≠ [] := by
      rw [sides]
      rcases someLevel with isSome | isSome <;> simp [isSome]
    have sameLength := congrArg List.length sameInstructions
    rw [length_instructions first someSides,
      length_instructions second (sameSides ▸ someSides), sameSides] at sameLength
    revert sameLength
    cases first.stacking <;> cases second.stacking <;> simp

end ThresholdStrategy

end ExpertAdvisor

import ExpertAdvisor.Proofs.Advisor.TickLines
import ExpertAdvisor.Proofs.Code.Reader

namespace ExpertAdvisor

open Text Indicator Advisor Number

/-!
# Instructions of a tick

Each statement of a tick stands for instructions of the code it is written as.
The tokens of its lines are the tokens of these instructions, so the body of a
tick is read as the instructions of its statements.
-/

namespace Code

/-- Whether a character is a token of its own, or keeps tokens apart. -/
def isSeparating (character : Char) : Bool :=
  !isWordCharacter character && !isOperatorCharacter character

theorem joins_eq_false_of_isSeparating
    {first second : Char}
    (separating : isSeparating first = true ∨ isSeparating second = true) :
    joins first second = false := by
  rcases separating with separating | separating <;>
    simp_all [isSeparating, joins]

/-- A text that makes the given tokens, and in which no remark begins. -/
structure Makes
    (text : String)
    (made : List Token) : Prop where
  noSlash : '/' ∉ text.toList
  lineTokens_eq : lineTokens text.toList = made

/-- Whether a text makes tokens can be decided by making them. -/
instance (text : String) (made : List Token) : Decidable (Makes text made) :=
  decidable_of_iff ('/' ∉ text.toList ∧ lineTokens text.toList = made)
    ⟨fun both => ⟨both.1, both.2⟩, fun makes => ⟨makes.noSlash, makes.lineTokens_eq⟩⟩

/-- Whether a text begins apart from what stands before it. -/
def beginsApart (text : String) : Bool :=
  text.toList.head?.any isSeparating

/-- Whether a text ends apart from what stands behind it. -/
def endsApart (text : String) : Bool :=
  text.toList.getLast?.any isSeparating

namespace Makes

variable {first second separator : String} {firstMade secondMade separatorMade : List Token}

/-- Texts that stand apart make their tokens one after the other. -/
theorem append
    (firstMakes : Makes first firstMade)
    (secondMakes : Makes second secondMade)
    (apart : endsApart first = true ∨ beginsApart second = true) :
    Makes (first ++ second) (firstMade ++ secondMade) where
  noSlash := by
    rw [String.toList_append, List.mem_append, not_or]
    exact ⟨firstMakes.noSlash, secondMakes.noSlash⟩
  lineTokens_eq := by
    rw [String.toList_append, lineTokens_append firstMakes.noSlash secondMakes.noSlash,
      firstMakes.lineTokens_eq, secondMakes.lineTokens_eq]
    intro last isLast next isNext
    refine joins_eq_false_of_isSeparating (apart.imp (fun ends => ?_) fun begins => ?_)
    · simpa [endsApart, Option.mem_def.mp isLast] using ends
    · simpa [beginsApart, Option.mem_def.mp isNext] using begins

/-- A text that begins and ends apart separates what it stands between. -/
theorem append_separator
    (firstMakes : Makes first firstMade)
    (separatorMakes : Makes separator separatorMade)
    (begins : beginsApart separator = true)
    (ends : endsApart separator = true)
    (secondMakes : Makes second secondMade) :
    Makes (first ++ separator ++ second) (firstMade ++ separatorMade ++ secondMade) := by
  rw [String.append_assoc, List.append_assoc]
  refine firstMakes.append (separatorMakes.append secondMakes (.inl ends)) (.inr ?_)
  obtain ⟨head, isHead, separating⟩ := (Option.any_eq_true _ _).mp begins
  simp [beginsApart, List.head?_append, isHead, separating]

theorem naturalText (number : Nat) :
    Makes (Number.naturalText number) [.number number] where
  noSlash := (within_naturalText number).not_mem (by decide)
  lineTokens_eq := lineTokens_naturalText number

/-- Items with a separator make their tokens with the separator's between them. -/
theorem intercalate
    {separatorToken : Token}
    {code : α → String}
    {itemTokens : α → List Token}
    {items : List α}
    (separatorMakes : Makes separator [separatorToken])
    (begins : beginsApart separator = true)
    (ends : endsApart separator = true)
    (itemsMake : ∀ item ∈ items, Makes (code item) (itemTokens item)) :
    Makes (separator.intercalate (items.map code)) (separated separatorToken itemTokens items) := by
  induction items with
  | nil =>
      rw [List.map_nil, String.intercalate_nil, separated]
      decide
  | cons item rest inductionHypothesis =>
      obtain ⟨itemMakes, restMake⟩ := List.forall_mem_cons.mp itemsMake
      cases rest with
      | nil => simpa [separated] using itemMakes
      | cons next more =>
          have goesOn := inductionHypothesis restMake
          have joined := itemMakes.append_separator separatorMakes begins ends goesOn
          rw [List.append_assoc, List.singleton_append] at joined
          simpa [String.intercalate_cons_cons, separated] using joined

end Makes

end Code

/-- The number by which generated functions know a side. -/
def Side.direction : Side → Int
  | .buy => 1
  | .sell => -1

namespace Advisor

open Code

/-- A side of a comparison, as instructions name it. -/
def Operand.atom (operand : Operand) : Atom :=
  .term (.name operand.code)

/-- A relation, as instructions have it. -/
def Relation.comparator : Relation → Comparator
  | .less => .less
  | .atMost => .atMost
  | .greater => .greater
  | .atLeast => .atLeast

/-- A comparison, as conditions have it. -/
def Comparison.test (comparison : Comparison) : Test :=
  .compared comparison.left.atom comparison.relation.comparator comparison.right.atom

/-- The test for a missing number. -/
def Series.emptyTest (name : Series) : Test :=
  .compared (.term (.name name.variableName)) .equal (.term (.name "EMPTY_VALUE"))

/-- A condition that a flag is set. -/
def flagCondition (name : String) : Condition :=
  [[.plain (.term (.name name))]]

namespace Action

/-- The instruction of an action: its conditions in a branch, around what it performs. -/
def instruction : Action → Instruction
  | .closeSide side onlyIfHeld =>
      let heldTests : List Test :=
        if onlyIfHeld then [.plain (.term (.name side.heldFlag))] else []
      .choose [.plain (.term (.name "CloseOppositeSignal")) :: heldTests]
        (.perform "ClosePositions" [.integer side.direction])
  | .openSide side unlessHeld =>
      let opening : Instruction := .perform "OpenOrder" [.name side.orderType]
      if unlessHeld then .choose [[.negated (.term (.name side.heldFlag))]] opening else opening

end Action

namespace Reaction

/-- The block of instructions of a reaction. -/
def block (reaction : Reaction) : Instruction :=
  .block (reaction.actions.map Action.instruction)

/-- A reaction with alternatives to it. -/
def instruction (reaction : Reaction) : List Reaction → Instruction
  | [] => .choose (flagCondition reaction.signal.variableName) reaction.block
  | next :: more =>
      .chooseOr (flagCondition reaction.signal.variableName) reaction.block
        (next.instruction more)

end Reaction

namespace Statement

/-- The instructions that a statement is written as. -/
def instructions : Statement Nat → List Instruction
  | .readSeries name buffer shift =>
      [.declare .double name.variableName
        [[.plain (.call "GetIndicatorValue" [.integer buffer, .integer shift])]]]
  | .leaveIfEmpty names => [.choose (names.map fun name => [name.emptyTest]) .leave]
  | .noteHeld side =>
      [.declare .bool side.heldFlag
        [[.plain (.call "HasOpenPosition" [.integer side.direction])]]]
  | .define signal conditions =>
      [.declare .bool signal.variableName [conditions.map Comparison.test]]
  | .react [] => []
  | .react (first :: rest) => [first.instruction rest]
  | .remark _ | .gap => []

/-- Whether a statement that tests something has something to test. -/
def IsFilled : Statement Buffer → Prop
  | .leaveIfEmpty names => names ≠ []
  | .define _ conditions => conditions ≠ []
  | _ => True

end Statement

/-! The lines of a statement make the tokens of its instructions. -/

theorem makes_variableName (name : Series) :
    Makes name.variableName [.name name.variableName] := by
  cases name <;> decide

theorem makes_operand (operand : Operand) : Makes operand.code operand.atom.tokens := by
  rcases operand with name | name <;> cases name <;> decide

theorem makes_comparison (comparison : Comparison) :
    Makes comparison.code comparison.test.tokens := by
  have relation : Makes (" " ++ comparison.relation.symbol ++ " ")
      [.mark (.comparison comparison.relation.comparator)] := by
    cases comparison.relation <;> decide
  have joined := (makes_operand comparison.left).append_separator relation
    (by cases comparison.relation <;> decide) (by cases comparison.relation <;> decide)
    (makes_operand comparison.right)
  simpa [Comparison.code, Comparison.test, Test.tokens, String.append_assoc] using joined

theorem makes_emptyTest (name : Series) :
    Makes (name.variableName ++ " == EMPTY_VALUE") name.emptyTest.tokens := by
  cases name <;> decide

theorem makes_action (action : Action) : Makes action.code action.instruction.tokens := by
  rcases action with ⟨side, guarded⟩ | ⟨side, guarded⟩ <;>
    cases side <;> cases guarded <;> decide

/-- Tokens of lines, one line after the other. -/
def linesTokens (lines : List String) : List Token :=
  lines.flatMap fun line => lineTokens line.toList

@[simp]
theorem linesTokens_nil : linesTokens [] = [] := rfl

@[simp]
theorem linesTokens_cons
    (line : String)
    (rest : List String) :
    linesTokens (line :: rest) = lineTokens line.toList ++ linesTokens rest :=
  rfl

theorem linesTokens_append (first second : List String) :
    linesTokens (first ++ second) = linesTokens first ++ linesTokens second :=
  List.flatMap_append

/-- Indentation makes no tokens. -/
theorem lineTokens_indentation (line : String) :
    lineTokens (indentation ++ line).toList = lineTokens line.toList := by
  have spaces : indentation.toList = [' ', ' ', ' '] := by decide
  rw [String.toList_append, spaces]
  simp [lineTokens_space]

/-- Indenting lines changes no token. -/
theorem linesTokens_indent (lines : List String) :
    linesTokens (indent lines) = linesTokens lines := by
  rw [linesTokens, indent, List.flatMap_map, linesTokens]
  refine List.flatMap_congr fun line _ => ?_
  split
  case isTrue empty => rw [beq_iff_eq.mp empty]
  case isFalse => exact lineTokens_indentation line

/-- Braces around lines make the tokens of a block. -/
theorem linesTokens_braced
    (header : String)
    (lines : List String) :
    linesTokens (braced header lines) =
      lineTokens header.toList ++
        .mark .openBrace :: (linesTokens lines ++ [.mark .closeBrace]) := by
  have opening : lineTokens "\x7b".toList = [.mark .openBrace] := by decide
  have closing : lineTokens "\x7d".toList = [.mark .closeBrace] := by decide
  rw [braced, List.cons_append, List.cons_append, linesTokens_cons, linesTokens_cons,
    linesTokens_append, linesTokens_cons, linesTokens_nil, linesTokens_indent, opening, closing]
  rfl

theorem linesTokens_actions (actions : List Action) :
    linesTokens (actions.map Action.code) = bodyTokens (actions.map Action.instruction) := by
  induction actions with
  | nil => rw [List.map_nil, List.map_nil, linesTokens_nil, bodyTokens]
  | cons action rest inductionHypothesis =>
      rw [List.map_cons, List.map_cons, linesTokens_cons, bodyTokens, inductionHypothesis,
        (makes_action action).lineTokens_eq]

/-- The tokens of a reaction's header and block. -/
def Reaction.tokens (reaction : Reaction) : List Token :=
  branchTokens (flagCondition reaction.signal.variableName) ++ reaction.block.tokens

/-- The lines of a reaction make its tokens, behind an alternative too. -/
theorem linesTokens_reaction (reaction : Reaction) :
    linesTokens (reaction.lines "") = reaction.tokens ∧
      linesTokens (reaction.lines "else ") = .keyword .elseWord :: reaction.tokens := by
  have header :
      lineTokens ("" ++ "if(" ++ reaction.signal.variableName ++ ")").toList =
          branchTokens (flagCondition reaction.signal.variableName) ∧
        lineTokens ("else " ++ "if(" ++ reaction.signal.variableName ++ ")").toList =
          .keyword .elseWord :: branchTokens (flagCondition reaction.signal.variableName) := by
    cases reaction.signal <;> decide
  simp only [Reaction.lines, linesTokens_braced, header, linesTokens_actions, Reaction.tokens,
    Reaction.block, Instruction.tokens, List.cons_append, true_and]

/-- Reactions as alternatives, written one after the other. -/
theorem linesTokens_chain
    (first : Reaction)
    (rest : List Reaction) :
    linesTokens (Reaction.chain (first :: rest)) = (first.instruction rest).tokens := by
  have shift (reaction : Reaction) (others : List Reaction) :
      reaction.tokens ++ linesTokens (others.flatMap (Reaction.lines "else ")) =
        (reaction.instruction others).tokens := by
    induction others generalizing reaction with
    | nil => simp [linesTokens, Reaction.instruction, Reaction.tokens, Instruction.tokens]
    | cons next more inductionHypothesis =>
        rw [List.flatMap_cons, linesTokens_append, (linesTokens_reaction next).2,
          Reaction.instruction, Instruction.tokens, ← inductionHypothesis next]
        simp [Reaction.tokens]
  rw [Reaction.chain, linesTokens_append, (linesTokens_reaction first).1, shift]

/-- The reading of a number makes the tokens of a declaration. -/
theorem makes_reading
    (name : Series)
    (buffer shift : Nat) :
    Makes
      ("double " ++ name.variableName ++ " = GetIndicatorValue(" ++ naturalText buffer ++ ", " ++
        naturalText shift ++ ");")
      (Instruction.tokens (.declare .double name.variableName
        [[.plain (.call "GetIndicatorValue" [.integer buffer, .integer shift])]])) := by
  have type : Makes "double " [.keyword .doubleType] := by decide
  have call : Makes " = GetIndicatorValue("
      [.mark .assign, .name "GetIndicatorValue", .mark .openParenthesis] := by decide
  have comma : Makes ", " [.comma] := by decide
  have ending : Makes ");" [.mark .closeParenthesis, .mark .semicolon] := by decide
  have named := type.append (makes_variableName name) (.inl (by decide))
  have called := named.append_separator call (by decide) (by decide) (.naturalText buffer)
  have shifted := called.append_separator comma (by decide) (by decide) (.naturalText shift)
  have notNegative (number : Nat) : ¬ (number : Int) < 0 := by omega
  simpa [Instruction.tokens, ValueType.keyword, conditionTokens, separated, Test.tokens,
    Atom.tokens, callTokens, Term.tokens, notNegative] using
    shifted.append ending (.inr (by decide))

/-- Leaving where a number is missing makes the tokens of a branch. -/
theorem makes_leaving (names : List Series) :
    Makes
      ("if(" ++ " || ".intercalate (names.map fun name => name.variableName ++ " == EMPTY_VALUE") ++
        ") return;")
      (Instruction.tokens (.choose (names.map fun name => [name.emptyTest]) .leave)) := by
  have opening : Makes "if(" [.keyword .ifWord, .mark .openParenthesis] := by decide
  have disjunction : Makes " || " [.disjunction] := by decide
  have ending : Makes ") return;"
      [.mark .closeParenthesis, .keyword .returnWord, .mark .semicolon] := by decide
  have tests := disjunction.intercalate (by decide) (by decide)
    (fun name (_ : name ∈ names) => makes_emptyTest name)
  have opened := opening.append tests (.inl (by decide))
  have condition :
      conditionTokens (names.map fun name => [name.emptyTest]) =
        separated .disjunction (fun name : Series => name.emptyTest.tokens) names :=
    separated_map _ _ _ names
  simpa [Instruction.tokens, branchTokens, condition] using opened.append ending (.inr (by decide))

/-- The definition of a signal makes the tokens of a declaration. -/
theorem makes_definition
    (signal : Signal)
    (conditions : List Comparison) :
    Makes
      ("bool " ++ signal.variableName ++ " = " ++
        " && ".intercalate (conditions.map Comparison.code) ++ ";")
      (Instruction.tokens
        (.declare .bool signal.variableName [conditions.map Comparison.test])) := by
  have type : Makes ("bool " ++ signal.variableName ++ " = ")
      [.keyword .boolType, .name signal.variableName, .mark .assign] := by
    cases signal <;> decide
  have conjunction : Makes " && " [.conjunction] := by decide
  have ending : Makes ";" [.mark .semicolon] := by decide
  have tests := conjunction.intercalate (by decide) (by decide)
    (fun comparison (_ : comparison ∈ conditions) => makes_comparison comparison)
  have defined := type.append tests (.inl (by cases signal <;> decide))
  have condition :
      conditionTokens [conditions.map Comparison.test] =
        separated .conjunction (fun comparison => comparison.test.tokens) conditions :=
    separated_map _ _ _ conditions
  simpa [Instruction.tokens, ValueType.keyword, condition] using
    defined.append ending (.inr (by decide))

/-- The lines of a statement have the tokens of its instructions. -/
theorem Statement.linesTokens_lines (statement : Statement Nat) :
    linesTokens (statement.lines naturalText) = bodyTokens statement.instructions := by
  cases statement with
  | readSeries name buffer shift =>
      simp only [lines, linesTokens_cons, linesTokens_nil, instructions, bodyTokens,
        (makes_reading name buffer shift).lineTokens_eq]
  | leaveIfEmpty names =>
      simp only [lines, linesTokens_cons, linesTokens_nil, instructions, bodyTokens,
        (makes_leaving names).lineTokens_eq]
  | noteHeld side => cases side <;> decide
  | define signal conditions =>
      simp only [lines, linesTokens_cons, linesTokens_nil, instructions, bodyTokens,
        (makes_definition signal conditions).lineTokens_eq]
  | react reactions =>
      cases reactions with
      | nil => rfl
      | cons first rest =>
          rw [lines, linesTokens_chain, instructions, bodyTokens, bodyTokens, List.append_nil]
  | remark text =>
      have begins : ("// " ++ text).toList = '/' :: '/' :: ' ' :: text.toList := by
        rw [String.toList_append]
        rfl
      rw [lines, linesTokens_cons, begins]
      rfl
  | gap => rfl

/-! Instructions of statements are read back. -/

theorem Action.isLegible_instruction (action : Action) : action.instruction.isLegible = true := by
  rcases action with ⟨side, guarded⟩ | ⟨side, guarded⟩ <;> cases guarded <;> rfl

theorem Reaction.isLegible_block (reaction : Reaction) : reaction.block.isLegible = true := by
  have actions (all : List Action) : areLegible (all.map Action.instruction) = true := by
    induction all with
    | nil => rw [List.map_nil, areLegible]
    | cons action rest inductionHypothesis =>
        rw [List.map_cons, areLegible, action.isLegible_instruction, inductionHypothesis]
        rfl
  rw [Reaction.block, Instruction.isLegible]
  exact actions reaction.actions

/-- The chain of reactions can be read back. -/
theorem Reaction.isLegible_instruction
    (reaction : Reaction)
    (others : List Reaction) :
    (reaction.instruction others).isLegible = true := by
  have condition : isFilled (flagCondition reaction.signal.variableName) = true := rfl
  have closed : reaction.block.isClosed = true := rfl
  have legible := reaction.isLegible_block
  induction others generalizing reaction with
  | nil => simp [Reaction.instruction, Instruction.isLegible, condition, legible]
  | cons next more inductionHypothesis =>
      have goesOn := inductionHypothesis next rfl rfl next.isLegible_block
      simp [Reaction.instruction, Instruction.isLegible, condition, closed, legible, goesOn]

/-- The instructions of a filled statement can be read back. -/
theorem Statement.areLegible_instructions
    {statement : Statement Nat}
    (filled : statement.IsFilled) :
    areLegible statement.instructions = true := by
  cases statement with
  | readSeries name buffer shift => rfl
  | leaveIfEmpty names =>
      have someNames : names ≠ [] := filled
      simp [instructions, areLegible, Instruction.isLegible, isFilled, Series.emptyTest,
        Test.isFilled, Atom.isFilled, someNames]
  | noteHeld side => rfl
  | define signal conditions =>
      have someConditions : conditions ≠ [] := filled
      simp [instructions, areLegible, Instruction.isLegible, isFilled, Comparison.test,
        Operand.atom, Test.isFilled, Atom.isFilled, someConditions]
  | react reactions =>
      cases reactions with
      | nil => rfl
      | cons first rest =>
          simp [instructions, areLegible, first.isLegible_instruction rest]
  | remark text => rfl
  | gap => rfl

/-- The body of a tick is read as the instructions of its statements. -/
theorem Statement.read?_body
    {statements : List (Statement Nat)}
    (filled : ∀ statement ∈ statements, statement.IsFilled)
    (remarksPlain : ∀ statement ∈ statements, statement.RemarkPlain) :
    read? (body naturalText statements) = some (statements.flatMap instructions) := by
  have bufferPlain (buffer : Nat) : PlainCode (naturalText buffer) :=
    (within_naturalText buffer).mono isCodeCharacter_of_isNumeralCharacter
  have unbroken : ∀ line ∈ indent (statements.flatMap (lines naturalText)),
      '\n' ∉ line.toList := by
    intro line member
    refine (quiet_indent (fun line member => ?_) line member).oneLine
    obtain ⟨statement, isStatement, inStatement⟩ := List.mem_flatMap.mp member
    exact quiet_lines bufferPlain (remarksPlain statement isStatement) line inStatement
  have written :
      linesTokens (statements.flatMap (lines naturalText)) =
        bodyTokens (statements.flatMap instructions) := by
    clear filled remarksPlain unbroken
    induction statements with
    | nil => rw [List.flatMap_nil, List.flatMap_nil, linesTokens_nil, bodyTokens]
    | cons statement rest inductionHypothesis =>
        rw [List.flatMap_cons, List.flatMap_cons, linesTokens_append, bodyTokens_append,
          statement.linesTokens_lines, inductionHypothesis]
  have legible : areLegible (statements.flatMap instructions) = true := by
    clear remarksPlain unbroken written
    induction statements with
    | nil => rw [List.flatMap_nil, areLegible]
    | cons statement rest inductionHypothesis =>
        obtain ⟨statementFilled, restFilled⟩ := List.forall_mem_cons.mp filled
        rw [List.flatMap_cons, areLegible_append, inductionHypothesis restFilled,
          areLegible_instructions statementFilled]
        rfl
  refine read?_eq_some ?_ legible
  rw [body]
  by_cases someLines : indent (statements.flatMap (lines naturalText)) = []
  · have none : statements.flatMap (lines naturalText) = [] := List.map_eq_nil_iff.mp someLines
    rw [← written, none]
    decide
  · rw [tokens_joinLines someLines unbroken, ← written, ← linesTokens_indent]
    rfl

end Advisor

/-- The tick of a crossover strategy is filled. -/
theorem CrossoverStrategy.filled_tick
    (strategy : CrossoverStrategy) :
    ∀ statement ∈ strategy.tick, statement.IsFilled := by
  rw [CrossoverStrategy.tick]
  cases strategy.stacking <;> cases strategy.reversed <;>
    simp [Tick.crossover, Tick.noteHeldSides, Tick.bullishConditions, Tick.bearishConditions,
      Statement.IsFilled]

/-- The tick of a threshold strategy is filled. -/
theorem ThresholdStrategy.filled_tick
    (strategy : ThresholdStrategy) :
    ∀ statement ∈ strategy.tick, statement.IsFilled := by
  have conditions (side : Side) : Tick.breachConditions side ≠ [] := by
    cases side <;> exact List.cons_ne_nil _ _
  rw [ThresholdStrategy.tick, Tick.threshold]
  cases strategy.stacking <;> split <;>
    simp [Tick.noteHeldSides, Statement.IsFilled, conditions, or_imp, forall_and]

end ExpertAdvisor

import ExpertAdvisor.Proofs.Advisor.CodeText

namespace ExpertAdvisor

open Text Indicator Advisor Number

/-!
# Lines of the tick function

The statements of a tick are written in characters that neither break a line nor
open a comment, and none of their lines begins like a declaration.  So a tick
declares nothing, whatever it does.
-/

/-- A quiet line stays quiet when it is indented. -/
theorem Indicator.Quiet.indented
    {line : String}
    (quiet : Quiet line.toList) :
    Quiet (indentation ++ line).toList := by
  have spaces : indentation.toList = [' ', ' ', ' '] := by decide
  have spacesPlain : '\n' ∉ indentation.toList ∧ Uncommented indentation.toList := by decide
  rw [String.toList_append]
  refine ⟨?_, spacesPlain.2.append quiet.uncommented ?_, ?_⟩
  · rw [List.mem_append, not_or]
    exact ⟨spacesPlain.1, quiet.oneLine⟩
  · intro meets
    exact absurd meets.1 (by decide)
  · rw [spaces]
    exact quiet.ruledOut

theorem quiet_indent
    {lines : List String}
    (quiet : ∀ line ∈ lines, Quiet line.toList) :
    ∀ line ∈ indent lines, Quiet line.toList := by
  intro line member
  obtain ⟨original, isOriginal, rfl⟩ := List.mem_map.mp member
  split
  · decide
  · exact (quiet original isOriginal).indented

theorem quiet_braced
    {header : String}
    {lines : List String}
    (headerQuiet : Quiet header.toList)
    (quiet : ∀ line ∈ lines, Quiet line.toList) :
    ∀ line ∈ braced header lines, Quiet line.toList := by
  intro line member
  simp only [braced, List.cons_append, List.mem_cons, List.mem_append, List.not_mem_nil,
    or_false] at member
  rcases member with rfl | rfl | inside | rfl
  · exact headerQuiet
  · decide
  · exact quiet_indent quiet line inside
  · decide

namespace Advisor

theorem plainCode_comparison (comparison : Comparison) : PlainCode comparison.code := by
  have operand (side : Operand) : PlainCode side.code := by
    rcases side with name | name <;> cases name <;> decide
  have symbol : PlainCode comparison.relation.symbol := by
    cases comparison.relation <;> decide
  rw [Comparison.code]
  exact ((((operand _).append (by decide)).append symbol).append (by decide)).append (operand _)

/-- The lines of a reaction are quiet, also where it is an alternative. -/
theorem quiet_reaction
    {lead : String}
    (leads : lead = "" ∨ lead = "else ")
    (reaction : Reaction) :
    ∀ line ∈ reaction.lines lead, Quiet line.toList := by
  refine quiet_braced ?_ fun line member => ?_
  · rcases leads with rfl | rfl <;> cases reaction.signal <;> decide
  · obtain ⟨action, _, rfl⟩ := List.mem_map.mp member
    rcases action with ⟨side, guarded⟩ | ⟨side, guarded⟩ <;>
      cases side <;> cases guarded <;> decide

theorem plainCode_series (name : Series) : PlainCode name.variableName := by
  cases name <;> decide

namespace Statement

variable {bufferText : Buffer → String}

theorem quiet_readSeries
    (bufferPlain : ∀ buffer, PlainCode (bufferText buffer))
    (name : Series)
    (buffer : Buffer)
    (shift : Nat) :
    ∀ line ∈ (readSeries name buffer shift).lines bufferText, Quiet line.toList := by
  have shiftPlain : PlainCode (naturalText shift) :=
    (within_naturalText shift).mono isCodeCharacter_of_isNumeralCharacter
  refine List.forall_mem_singleton.mpr ?_
  simp only [String.append_assoc]
  refine PlainCode.quiet (by decide) ((plainCode_series name).append ?_) (by decide)
  exact PlainCode.append (by decide) ((bufferPlain buffer).append
    (PlainCode.append (by decide) (shiftPlain.append (by decide))))

theorem quiet_leaveIfEmpty (names : List Series) :
    ∀ line ∈ (leaveIfEmpty names).lines bufferText, Quiet line.toList := by
  have testsPlain : ∀ test ∈ names.map fun name => name.variableName ++ " == EMPTY_VALUE",
      PlainCode test :=
    List.forall_mem_map.mpr fun name _ => (plainCode_series name).append (by decide)
  refine List.forall_mem_singleton.mpr ?_
  simp only [String.append_assoc]
  exact PlainCode.quiet (by decide)
    ((PlainCode.intercalate (by decide) testsPlain).append (by decide)) (by decide)

theorem quiet_define
    (signal : Signal)
    (conditions : List Comparison) :
    ∀ line ∈ (define signal conditions).lines bufferText, Quiet line.toList := by
  have signalPlain : PlainCode signal.variableName := by
    cases signal <;> decide
  have conditionsPlain : ∀ code ∈ conditions.map Comparison.code, PlainCode code :=
    List.forall_mem_map.mpr fun comparison _ => plainCode_comparison comparison
  refine List.forall_mem_singleton.mpr ?_
  simp only [String.append_assoc]
  refine PlainCode.quiet (by decide) (signalPlain.append ?_) (by decide)
  exact PlainCode.append (by decide)
    ((PlainCode.intercalate (by decide) conditionsPlain).append (by decide))

theorem quiet_react (reactions : List Reaction) :
    ∀ line ∈ (react reactions).lines bufferText, Quiet line.toList := by
  cases reactions with
  | nil => exact List.forall_mem_nil _
  | cons first rest =>
      refine List.forall_mem_append.mpr ⟨quiet_reaction (.inl rfl) first, fun line inRest => ?_⟩
      obtain ⟨reaction, _, inReaction⟩ := List.mem_flatMap.mp inRest
      exact quiet_reaction (.inr rfl) reaction line inReaction

/-- A remark is plain code; other statements have none. -/
def RemarkPlain : Statement Buffer → Prop
  | .remark text => PlainCode text
  | _ => True

/-- The lines of a statement are quiet. -/
theorem quiet_lines
    (bufferPlain : ∀ buffer, PlainCode (bufferText buffer))
    {statement : Statement Buffer}
    (remarkPlain : statement.RemarkPlain) :
    ∀ line ∈ statement.lines bufferText, Quiet line.toList := by
  cases statement with
  | readSeries name buffer shift => exact quiet_readSeries bufferPlain name buffer shift
  | leaveIfEmpty names => exact quiet_leaveIfEmpty names
  | noteHeld side =>
      refine List.forall_mem_singleton.mpr ?_
      cases side <;> decide
  | define signal conditions => exact quiet_define signal conditions
  | react reactions => exact quiet_react reactions
  | remark text =>
      exact List.forall_mem_singleton.mpr (PlainCode.quiet (by decide) remarkPlain (by decide))
  | gap => exact List.forall_mem_singleton.mpr (by decide)

/-- The body of a tick declares nothing. -/
theorem linesDeclare_body
    (bufferPlain : ∀ buffer, PlainCode (bufferText buffer))
    {statements : List (Statement Buffer)}
    (remarksPlain : ∀ statement ∈ statements, statement.RemarkPlain) :
    LinesDeclare [body bufferText statements] [] := by
  have quiet : ∀ line ∈ indent (statements.flatMap (lines bufferText)), Quiet line.toList :=
    quiet_indent fun line member => by
      obtain ⟨statement, isStatement, inStatement⟩ := List.mem_flatMap.mp member
      exact quiet_lines bufferPlain (remarksPlain statement isStatement) line inStatement
  rw [body]
  cases shape : indent (statements.flatMap (lines bufferText)) with
  | nil => exact LinesDeclare.of_quiet (by decide)
  | cons line rest =>
      rw [shape] at quiet
      exact (LinesDeclare.of_quiet quiet).joined (List.cons_ne_nil line rest)

end Statement

end Advisor

/-- No remark in a crossover tick has quotes or comments of its own. -/
theorem CrossoverStrategy.remarksPlain_tick
    (strategy : CrossoverStrategy) :
    ∀ statement ∈ strategy.tick, statement.RemarkPlain := by
  have reversal : PlainCode Tick.reversalRemark := by decide
  rw [CrossoverStrategy.tick]
  cases strategy.stacking <;> cases strategy.reversed <;>
    simp [Tick.crossover, Tick.noteHeldSides, Statement.RemarkPlain, reversal]

/-- No remark in a threshold tick has quotes or comments of its own. -/
theorem ThresholdStrategy.remarksPlain_tick
    (strategy : ThresholdStrategy) :
    ∀ statement ∈ strategy.tick, statement.RemarkPlain := by
  have idle : PlainCode (Tick.idleRemark strategy.direction.name) := by
    cases strategy.direction <;> decide
  rw [ThresholdStrategy.tick, Tick.threshold]
  cases strategy.stacking <;> split <;>
    simp [Tick.noteHeldSides, Statement.RemarkPlain, idle, or_imp, forall_and]

/-- The body of the tick function declares nothing, unless a snippet of the user's stands there. -/
theorem Strategy.linesDeclare_body
    {strategy : Strategy}
    (notCustom : strategy.kind ≠ .custom) :
    LinesDeclare [strategy.fragment.body] [] := by
  have bufferPlain (buffer : Nat) : PlainCode (naturalText buffer) :=
    (within_naturalText buffer).mono isCodeCharacter_of_isNumeralCharacter
  cases strategy with
  | crossover settings =>
      simp only [Strategy.fragment]
      exact Statement.linesDeclare_body bufferPlain settings.remarksPlain_tick
  | threshold settings =>
      simp only [Strategy.fragment]
      exact Statement.linesDeclare_body bufferPlain settings.remarksPlain_tick
  | custom snippet => exact absurd rfl notCustom

end ExpertAdvisor

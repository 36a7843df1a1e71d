import ExpertAdvisor.Advisor.Composition
import ExpertAdvisor.Proofs.Indicator.WrittenLines
import ExpertAdvisor.Proofs.Number.Characters

namespace ExpertAdvisor

open Text Indicator Advisor Number

/-!
# Input lines

The line of an input is a declaration again.  It declares the input's own name,
type and value, provided that type and name are identifiers and the value is
trimmed and neither ends the declaration nor its line.
-/

namespace Indicator

/-- Whether a word is an identifier can be decided. -/
instance (word : List Char) : Decidable (IsIdentifier word) :=
  decidable_of_iff
    (Within isWord word ∧ word.head?.any isIdentifierStart = true)
    ⟨fun both => ⟨both.1, by simpa [Option.any_eq_true] using both.2⟩,
      fun isIdentifier =>
        ⟨isIdentifier.within, by simpa [Option.any_eq_true] using isIdentifier.starts⟩⟩

end Indicator

namespace Advisor.Input

/-- The parameter that the line of an input declares. -/
def parameter (input : Input) : Parameter :=
  ⟨input.name, input.value, some input.type⟩

/-- An input whose line can be read back. -/
structure Readable (input : Input) : Prop where
  type_identifier : IsIdentifier input.type.toList
  name_identifier : IsIdentifier input.name.toList
  value_within : Within isValueCharacter input.value.toList
  value_trimmed : trimBlanks input.value.toList = input.value.toList
  value_uncommented : Uncommented input.value.toList
  note_oneLine : '\n' ∉ input.note.toList
  note_uncommented : Uncommented input.note.toList

/-- An input whose type, name and value each end where its line says. -/
structure Delimited (input : Input) : Prop where
  type_identifier : IsIdentifier input.type.toList
  name_identifier : IsIdentifier input.name.toList
  value_within : Within isValueCharacter input.value.toList
  note_oneLine : '\n' ∉ input.note.toList

theorem Readable.delimited
    {input : Input}
    (readable : input.Readable) :
    input.Delimited :=
  ⟨readable.type_identifier, readable.name_identifier, readable.value_within,
    readable.note_oneLine⟩

namespace Readable

variable {input : Input}

theorem space_within : Within isBlank [' '] := by
  decide

theorem space_blank : IsGap [' '] :=
  ⟨space_within, List.cons_ne_nil _ _⟩

theorem inputQualifier_known :
    inputQualifier = inputQualifier ∨ inputQualifier = externQualifier :=
  .inl rfl

theorem noGap_blank : ∀ blanks ∈ (none : Option (List Char)), IsGap blanks :=
  fun blanks absent => absurd absent (Option.not_mem_none blanks)

/-- The declaration on the line of an input. -/
def form (readable : input.Readable) : DeclarationForm where
  indent := []
  qualifier := inputQualifier
  gap := [' ']
  constGap := none
  type := input.type.toList
  typeGap := [' ']
  name := input.name.toList
  nameGap := [' ']
  value := ' ' :: input.value.toList
  indent_within := Within.nil
  qualifier_known := inputQualifier_known
  gap_blank := space_blank
  constGap_blank := noGap_blank
  type_identifier := readable.type_identifier
  typeGap_blank := space_blank
  name_identifier := readable.name_identifier
  nameGap_blank := space_within
  value_within := Within.cons_iff.mpr ⟨by decide, readable.value_within⟩

/-- The line of an input is its declaration with the note behind it. -/
theorem toList_line (readable : input.Readable) :
    input.line.toList = readable.form.text ++ input.note.toList := by
  have qualifier : "input ".toList = inputQualifier ++ [' '] := by decide
  have equals : " = ".toList = [' ', '=', ' '] := by decide
  simp only [line, String.toList_append, qualifier, equals, DeclarationForm.text, form,
    modifierText, List.nil_append, List.append_assoc]
  rfl

theorem parameter_form (readable : input.Readable) :
    readable.form.parameter = input.parameter := by
  have trimmed : trimBlanks (' ' :: input.value.toList) = input.value.toList :=
    (@trimWhere_append_left isBlank [' '] _ (by decide)).trans readable.value_trimmed
  simp only [DeclarationForm.parameter, form, trimmed, String.ofList_toList, parameter]

/-- The part of an input's line in front of the value. -/
def lead (input : Input) : List Char :=
  inputQualifier ++ [' '] ++ input.type.toList ++ [' '] ++ input.name.toList ++ [' ', '=', ' ']

/-- Whether a character may stand in front of the value. -/
def isLeadCharacter (character : Char) : Bool :=
  isWord character || character == ' ' || character == '='

theorem within_lead (readable : input.Readable) :
    Within isLeadCharacter (lead input) := by
  have ofWord {character : Char} (word : isWord character = true) :
      isLeadCharacter character = true := by
    rw [isLeadCharacter, word, Bool.true_or, Bool.true_or]
  simp only [lead, Within.append_iff]
  exact ⟨⟨⟨⟨⟨by decide, by decide⟩, readable.type_identifier.within.mono ofWord⟩, by decide⟩,
    readable.name_identifier.within.mono ofWord⟩, by decide⟩

/-- The line of an input declares its parameter and nothing else. -/
theorem linesDeclare (readable : input.Readable) :
    LinesDeclare [input.line] [input.parameter] := by
  have shape :
      input.line.toList = lead input ++ (input.value.toList ++ ';' :: input.note.toList) := by
    rw [readable.toList_line]
    simp [DeclarationForm.text, form, modifierText, lead]
  have within := readable.within_lead
  rw [← readable.parameter_form]
  refine LinesDeclare.of_form ?_ ?_ ⟨_, readable.toList_line.symm⟩
  · rw [shape, List.mem_append, List.mem_append, List.mem_cons, not_or, not_or, not_or]
    exact ⟨within.not_mem (by decide), readable.value_within.not_mem (by decide), by decide,
      readable.note_oneLine⟩
  · rw [shape]
    have noteUncommented : Uncommented (';' :: input.note.toList) :=
      Uncommented.cons_iff.mpr ⟨by simp, readable.note_uncommented⟩
    have leadUncommented : Uncommented (lead input) := .of_not_mem (within.not_mem (by decide))
    refine leadUncommented.append
      (readable.value_uncommented.append noteUncommented fun meets => ?_) fun meets => ?_
    · exact absurd meets.2 (by simp)
    · exact within.not_mem (by decide) (List.mem_of_getLast? meets.1)

/-- The lines of readable inputs declare their parameters. -/
theorem linesDeclare_map
    {inputs : List Input}
    (readable : ∀ input ∈ inputs, input.Readable) :
    LinesDeclare (inputs.map Input.line) (inputs.map Input.parameter) := by
  induction inputs with
  | nil => exact LinesDeclare.nil
  | cons input rest inductionHypothesis =>
      obtain ⟨inputReadable, restReadable⟩ := List.forall_mem_cons.mp readable
      exact inputReadable.linesDeclare.append (inductionHypothesis restReadable)

end Readable

end Advisor.Input

/-! The inputs that expert advisors have. -/

theorem isValueCharacter_of_isNumeralCharacter
    {character : Char}
    (isNumeral : isNumeralCharacter character = true) :
    isValueCharacter character = true := by
  rw [isValueCharacter, Bool.not_eq_true', ← Bool.not_eq_true]
  intro ends
  simp only [Bool.or_eq_true, beq_iff_eq] at ends
  rcases ends with (rfl | rfl) | rfl <;> exact absurd isNumeral (by decide)

theorem trimBlanks_of_noBlank
    {text : List Char}
    (noBlank : ∀ character ∈ text, isBlank character = false) :
    trimBlanks text = text :=
  trimWhere_of_leaves
    (fun character atHead => noBlank character (List.mem_of_mem_head? atHead))
    (fun character atHead =>
      noBlank character (List.mem_reverse.mp (List.mem_of_mem_head? atHead)))

/-- An input whose value is a number can be read back. -/
theorem Advisor.Input.Readable.of_numeral
    {type name value note : String}
    (type_identifier : IsIdentifier type.toList)
    (name_identifier : IsIdentifier name.toList)
    (numeral : Within isNumeralCharacter value.toList)
    (note_oneLine : '\n' ∉ note.toList)
    (note_uncommented : Uncommented note.toList) :
    Input.Readable ⟨type, name, value, note⟩ where
  type_identifier := type_identifier
  name_identifier := name_identifier
  value_within := numeral.mono isValueCharacter_of_isNumeralCharacter
  value_trimmed := trimBlanks_of_noBlank fun character member =>
    isBlank_eq_false_of_isNumeralCharacter (numeral character member)
  value_uncommented := .of_not_mem (numeral.not_mem (by decide))
  note_oneLine := note_oneLine
  note_uncommented := note_uncommented

/-- The literal of a finite number has numeral characters only. -/
theorem Advisor.within_finiteLiteral (number : FiniteBinary64) :
    Within isNumeralCharacter (finiteLiteral number).toList := by
  have within : Within isNumeralCharacter (Binary64.text (.finite number)).toList :=
    number.within_text
  rw [finiteLiteral, doubleLiteral]
  split
  · exact within
  · rw [String.toList_append, Within.append_iff]
    exact ⟨within, by decide⟩

theorem Payload.readable_risk
    (payload : Payload) :
    ∀ input ∈ payload.risk, input.Readable := by
  simp only [Payload.risk, riskInputs, Input.plain, List.forall_mem_cons]
  refine ⟨.of_numeral (by decide) (by decide) (within_finiteLiteral _) (by decide) (by decide),
    .of_numeral (by decide) (by decide) (within_integerText _) (by decide) (by decide),
    .of_numeral (by decide) (by decide) (within_naturalText _) (by decide) (by decide),
    .of_numeral (by decide) (by decide) (within_naturalText _) (by decide) (by decide),
    .of_numeral (by decide) (by decide) (within_integerText _) (by decide) (by decide), ?_,
    by simp⟩
  exact ⟨by decide, by decide, by decide, by decide, by decide, by decide, by decide⟩

theorem ThresholdStrategy.readable_inputs
    (strategy : ThresholdStrategy) :
    ∀ input ∈ strategy.inputs, input.Readable := by
  have boundReadable (bound : Bound) (level : FiniteBinary64) :
      (Tick.boundInput bound (finiteLiteral level)).Readable :=
    .of_numeral (by decide) (by cases bound <;> decide) (within_finiteLiteral level)
      (by decide) (by decide)
  intro input member
  simp only [inputs, List.mem_append, Option.mem_toList,
    Option.map_eq_some_iff] at member
  rcases member with ⟨level, _, rfl⟩ | ⟨level, _, rfl⟩ <;> exact boundReadable _ level

theorem Strategy.readable_inputs (strategy : Strategy) :
    ∀ input ∈ strategy.fragment.inputs, input.Readable := by
  cases strategy with
  | threshold settings => exact settings.readable_inputs
  | crossover _ => exact List.forall_mem_nil _
  | custom _ => exact List.forall_mem_nil _

end ExpertAdvisor

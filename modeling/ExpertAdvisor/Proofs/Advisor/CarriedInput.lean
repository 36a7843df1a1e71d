import ExpertAdvisor.Proofs.Advisor.InputLine

namespace ExpertAdvisor

open Text Indicator Advisor

/-!
# The indicator's inputs

The name of the indicator becomes a string literal, and only a semicolon in the
name cuts the declaration of the literal short.  A parameter that was read off
an indicator is declared again with its name and default as they are, and with
a type that is an identifier in any case.
-/

namespace Advisor

/-- A character stands for itself in a literal, or is written as a mark behind a backslash. -/
theorem escapeLiteral_cases (character : Char) :
    (escapeLiteral character = [character] ∧ character ≠ '\n' ∧ character ≠ '\r') ∨
      ∃ mark ∈ ['\\', '"', 'n', 'r', 't'], escapeLiteral character = ['\\', mark] := by
  unfold escapeLiteral
  repeat' split
  all_goals simp_all

/-- An escaped character neither ends a value nor its line, unless it is a semicolon. -/
theorem within_escapeLiteral
    {character : Char}
    (notEnd : character ≠ ';') :
    Within isValueCharacter (escapeLiteral character) := by
  have marksWithin : Within isValueCharacter ['\\', '"', 'n', 'r', 't'] := by decide
  rcases escapeLiteral_cases character with ⟨itself, notBreak, notReturn⟩ | ⟨mark, known, marked⟩
  · rw [itself]
    simp [isValueCharacter, notEnd, notBreak, notReturn]
  · rw [marked]
    exact Within.cons_iff.mpr
      ⟨by decide, Within.cons_iff.mpr ⟨marksWithin mark known, Within.nil⟩⟩

/-- Escaping opens no comment. -/
theorem uncommented_escaped
    {text : List Char}
    (uncommented : Uncommented text) :
    Uncommented (text.flatMap escapeLiteral) := by
  have noSlash : '/' ∉ ['\\', '"', 'n', 'r', 't'] := by decide
  -- An asterisk in front of the escaped text is in front of the text itself.
  have asteriskFirst (later : List Char)
      (isFirst : (later.flatMap escapeLiteral).head? = some '*') :
      later.head? = some '*' := by
    cases later with
    | nil => exact absurd isFirst nofun
    | cons next more =>
        rw [List.flatMap_cons] at isFirst
        rcases escapeLiteral_cases next with ⟨itself, _⟩ | ⟨mark, _, marked⟩
        · rw [itself] at isFirst
          exact isFirst
        · rw [marked] at isFirst
          exact absurd isFirst (by simp)
  induction text with
  | nil => exact uncommented
  | cons character rest inductionHypothesis =>
      obtain ⟨notOpened, restUncommented⟩ := Uncommented.cons_iff.mp uncommented
      have goesOn := inductionHypothesis restUncommented
      rw [List.flatMap_cons]
      rcases escapeLiteral_cases character with ⟨itself, _⟩ | ⟨mark, known, marked⟩
      · rw [itself]
        exact Uncommented.cons_iff.mpr
          ⟨fun opened => notOpened ⟨opened.1, asteriskFirst rest opened.2⟩, goesOn⟩
      · rw [marked]
        refine Uncommented.cons_iff.mpr ⟨by simp, Uncommented.cons_iff.mpr ⟨?_, goesOn⟩⟩
        exact fun opened => noSlash (opened.1 ▸ known)

/-- The input that holds a name can be read back when the name has no semicolon and no comment. -/
theorem readable_nameInput
    {name : String}
    (closed : ';' ∉ name.toList)
    (uncommented : Uncommented name.toList) :
    (nameInput name).Readable where
  type_identifier := by
    simp only [nameInput, Input.plain]
    decide
  name_identifier := by
    simp only [nameInput, Input.plain]
    decide
  value_within := by
    simp only [nameInput, Input.plain, stringLiteral, String.toList_ofList, Within.cons_iff,
      Within.append_iff]
    refine ⟨by decide, fun character member => ?_, by decide, Within.nil⟩
    obtain ⟨source, isSource, escaped⟩ := List.mem_flatMap.mp member
    exact within_escapeLiteral (fun isEnd => closed (isEnd ▸ isSource)) character escaped
  value_trimmed := by
    simp only [nameInput, Input.plain, stringLiteral, String.toList_ofList]
    exact trimWhere_of_leaves (Leaves.cons_iff.mpr (by decide))
      (by simpa using (by decide : isBlank '"' = false))
  value_uncommented := by
    simp only [nameInput, Input.plain, stringLiteral, String.toList_ofList]
    exact Uncommented.cons_iff.mpr ⟨by simp,
      (uncommented_escaped uncommented).append (by decide) fun meets =>
        absurd meets.2 (by decide)⟩
  note_oneLine := by
    simp only [nameInput, Input.plain]
    decide
  note_uncommented := by
    simp only [nameInput, Input.plain]
    decide

end Advisor

namespace Indicator

/-- The types that the shape of a default suggests are built in. -/
theorem inferredType_mem_builtInTypes (default : String) :
    inferredType default ∈ builtInTypes := by
  unfold inferredType
  simp only
  repeat' split
  all_goals decide

theorem isIdentifier_of_mem_builtInTypes :
    ∀ type ∈ builtInTypes, IsIdentifier type.toList := by
  decide

/-- A parameter is declared again with an identifier as its type when its own type is one. -/
theorem isIdentifier_carriedType
    {parameter : Parameter}
    (declared : ∀ type ∈ parameter.declaredType, IsIdentifier type.toList) :
    IsIdentifier (carriedType parameter).toList := by
  have inferred :=
    isIdentifier_of_mem_builtInTypes _ (inferredType_mem_builtInTypes parameter.default)
  unfold carriedType
  split
  · split
    · exact declared _ ‹_›
    · exact inferred
  · exact inferred

/-- Every parameter of an indicator was declared in it. -/
theorem exists_form_of_mem_parameters
    {source : String}
    {parameter : Parameter}
    (member : parameter ∈ parameters source) :
    ∃ form : DeclarationForm, parameter = form.parameter := by
  obtain ⟨_, form, _, parameterOf⟩ := exists_declaredAt_of_mem_parameters member
  exact ⟨form, parameterOf⟩

end Indicator

namespace Parameter

variable {source : String} {parameter : Parameter}

/-- The default of a parameter that was read off an indicator is trimmed, and stays on its line. -/
theorem default_within
    (member : parameter ∈ Indicator.parameters source) :
    Within isValueCharacter parameter.default.toList ∧
      trimBlanks parameter.default.toList = parameter.default.toList := by
  obtain ⟨form, rfl⟩ := exists_form_of_mem_parameters member
  have value : form.parameter.default.toList = trimBlanks form.value := String.toList_ofList
  rw [value]
  exact ⟨within_trimWhere form.value_within, trimWhere_trimWhere _⟩

/-- A parameter that was read off an indicator is declared again on one line. -/
theorem delimited_carriedInput
    (member : parameter ∈ Indicator.parameters source) :
    parameter.carriedInput.Delimited := by
  have value := (default_within member).1
  obtain ⟨form, rfl⟩ := exists_form_of_mem_parameters member
  have typeIdentifier : IsIdentifier (carriedType form.parameter).toList :=
    isIdentifier_carriedType fun type isType => by
      rw [← Option.some.inj isType, String.toList_ofList]
      exact form.type_identifier
  have nameIdentifier : IsIdentifier form.parameter.name.toList := by
    simpa [DeclarationForm.parameter] using form.name_identifier
  exact ⟨typeIdentifier, nameIdentifier, value, List.not_mem_nil⟩

/-- A parameter that was read off an indicator can be read back when its default has no comment. -/
theorem readable_carriedInput
    (member : parameter ∈ Indicator.parameters source)
    (uncommented : Uncommented parameter.default.toList) :
    parameter.carriedInput.Readable := by
  have delimited := delimited_carriedInput member
  exact {
    type_identifier := delimited.type_identifier
    name_identifier := delimited.name_identifier
    value_within := delimited.value_within
    value_trimmed := (default_within member).2
    value_uncommented := uncommented
    note_oneLine := delimited.note_oneLine
    note_uncommented := by
      simp only [carriedInput, Input.plain]
      decide }

end Parameter

end ExpertAdvisor

import ExpertAdvisor.Proofs.Advisor.OwnEnumerations
import ExpertAdvisor.Proofs.Indicator.KeptStretches

namespace ExpertAdvisor

open Text Indicator Advisor Code

/-!
# Written defaults

A default is read off a declaration from which the comments are gone.  It stood
in one piece of the source, behind the equals sign and in front of the
semicolon, and an expert advisor repeats it on the line of its input.  It is the
piece as it was written unless a comment stands within that piece; whatever
looks like a comment counts as one, also in a string.
-/

namespace Indicator

/-- What a declaration begins with, up to its equals sign. -/
def DeclarationForm.opening (form : DeclarationForm) : List Char :=
  form.indent ++ form.qualifier ++ form.gap ++ modifierText form.constGap ++
    form.type ++ form.typeGap ++ form.name ++ form.nameGap ++ ['=']

/-- A declaration is its opening, its value and the mark at its end. -/
theorem DeclarationForm.text_eq_opening (form : DeclarationForm) :
    form.text = form.opening ++ (form.value ++ [';']) :=
  List.append_assoc _ _ _

/-- The place of a source at which the default of a parameter is written. -/
structure DefaultPlace (source : String) (parameter : Parameter) where
  offset : Nat
  form : DeclarationForm
  leading : List Char
  trailing : List Char
  declaredAt : DeclaredAt (blankComments source.toList) offset form
  parameter_eq : parameter = form.parameter
  leading_blank : Within isBlank leading
  trailing_blank : Within isBlank trailing
  stretch :
    Stretch source.toList
      ((blankComments source.toList).take offset ++ (form.opening ++ leading))
      parameter.default.toList
      (trailing ++ ';' :: (blankComments source.toList).drop (offset + form.text.length))

/-- The piece of the source that a default is read off. -/
def DefaultPlace.written
    {source : String}
    {parameter : Parameter}
    (place : DefaultPlace source parameter) : List Char :=
  place.stretch.written

variable {source : String} {parameter : Parameter}

/-- Every default was written in one piece, with blanks around it. -/
theorem nonempty_defaultPlace (member : parameter ∈ parameters source) :
    Nonempty (DefaultPlace source parameter) := by
  obtain ⟨offset, form, declared, rfl⟩ := exists_declaredAt_of_mem_parameters member
  obtain ⟨leading, trailing, leadingBlank, trailingBlank, valueShape⟩ :=
    @exists_trimmed isBlank form.value
  obtain ⟨behind, onward⟩ := declared.isPrefix
  have default : form.parameter.default.toList = trimBlanks form.value := String.toList_ofList
  have behindForm : (blankComments source.toList).drop (offset + form.text.length) = behind := by
    rw [← List.drop_drop, ← onward, List.drop_left]
  have blanked : blankComments source.toList =
      ((blankComments source.toList).take offset ++ (form.opening ++ leading)) ++
        (form.parameter.default.toList ++ (trailing ++ ';' :: behind)) :=
    calc blankComments source.toList
      _ = (blankComments source.toList).take offset ++ (form.text ++ behind) := by
        rw [onward, List.take_append_drop]
      _ = _ := by
        rw [form.text_eq_opening, valueShape, default, trimBlanks]
        simp only [List.append_assoc, List.singleton_append]
  have valueUnbroken : '\n' ∉ form.value := form.value_within.not_mem (by decide)
  have defaultUnbroken : '\n' ∉ form.parameter.default.toList :=
    (Parameter.default_within member).1.not_mem (by decide)
  have followed : ∃ following ∈ (trailing ++ ';' :: behind).head?, following ≠ '\n' := by
    cases trailing with
    | nil => exact ⟨';', rfl, by decide⟩
    | cons following _ =>
        have inValue : following ∈ form.value := by
          rw [valueShape]
          simp
        exact ⟨following, rfl, fun isBreak => valueUnbroken (isBreak ▸ inValue)⟩
  obtain ⟨stretch⟩ := nonempty_stretch blanked defaultUnbroken followed
  exact ⟨{
    offset := offset
    form := form
    leading := leading
    trailing := trailing
    declaredAt := declared
    parameter_eq := rfl
    leading_blank := leadingBlank
    trailing_blank := trailingBlank
    stretch := behindForm ▸ stretch }⟩

/-- A default in which no comment was written is a piece of the source. -/
theorem DefaultPlace.default_isInfix
    (place : DefaultPlace source parameter)
    (noComment : ¬ HoldsComment place.written) :
    parameter.default.toList <:+: source.toList := by
  rw [← place.stretch.written_eq_iff.mpr noComment]
  exact place.stretch.isInfix

end Indicator

/-- The text of the line on which an expert advisor declares a carried input. -/
theorem Parameter.carriedInput_line (parameter : Parameter) :
    parameter.carriedInput.line =
      "input " ++ carriedType parameter ++ " " ++ parameter.name ++ " = " ++
        parameter.default ++ ";" := by
  rw [carriedInput, Input.plain, Input.line, String.append_empty]

/--
The default of a parameter neither begins nor ends with a blank.  It was written
in one piece of the source, behind the equals sign of its declaration, and it is
that piece exactly when no comment stands within the piece.  An expert advisor
composed for the indicator declares the input with this default.
-/
theorem defaults_carried_as_read (source : String) :
    (∀ parameter ∈ parameters source,
      Leaves isBlank parameter.default.toList ∧
        Leaves isBlank parameter.default.toList.reverse ∧
        ∃ place : DefaultPlace source parameter,
          (place.written = parameter.default.toList ↔ ¬ HoldsComment place.written) ∧
          (¬ HoldsComment place.written → parameter.default.toList <:+: source.toList)) ∧
    ∀ payload : Payload, payload.indicatorCode = source →
      ∀ code, payload.compose none = .ok code →
        ∀ parameter ∈ parameters source,
          declaringLine? code.toList parameter.name =
            some ("input " ++ carriedType parameter ++ " " ++ parameter.name ++ " = " ++
              parameter.default ++ ";").toList := by
  refine ⟨fun parameter member => ?_, ?_⟩
  · have trimmed := (Parameter.default_within member).2
    obtain ⟨leavesFront, leavesBack⟩ := @leaves_trimWhere isBlank parameter.default.toList
    rw [trimBlanks] at trimmed
    rw [trimmed] at leavesFront leavesBack
    obtain ⟨place⟩ := nonempty_defaultPlace member
    exact ⟨leavesFront, leavesBack, place, place.stretch.written_eq_iff, place.default_isInfix⟩
  · rintro payload rfl code composed parameter member
    rw [← parameter.carriedInput_line]
    exact (Payload.declares_of_composed composed).2 parameter member

/-! Comments beside a default and within one. -/

/-- A declaration with a comment in front of its default. -/
def remarkedSource : String := "input int Period = /* bars */ 14;\n"

/-- A declaration with a string in which a comment seems to stand. -/
def quotedSource : String := "input string Path = \"a/*b*/c\";\n"

theorem parameters_remarkedSource :
    parameters remarkedSource = [⟨"Period", "14", some "int"⟩] := by
  have shape : remarkedSource.toList =
      "input int Period = ".toList ++ '/' :: '*' :: (" bars ".toList ++
        '*' :: '/' :: " 14;\n".toList) := by
    decide
  rw [parameters, extraction, shape, blankComments_around (by decide) (by decide) (by decide)]
  decide

theorem parameters_quotedSource :
    parameters quotedSource = [⟨"Path", "\"ac\"", some "string"⟩] := by
  have shape : quotedSource.toList =
      "input string Path = \"a".toList ++ '/' :: '*' :: ("b".toList ++
        '*' :: '/' :: "c\";\n".toList) := by
    decide
  rw [parameters, extraction, shape, blankComments_around (by decide) (by decide) (by decide)]
  decide

/-- A comment in front of a default does not stand within it. -/
theorem defaults_carried_as_read_remarkedSource :
    parameters remarkedSource = [⟨"Period", "14", some "int"⟩] ∧
      "14".toList <:+: remarkedSource.toList ∧
      ∃ code, (periodPayload.withSource remarkedSource).compose none = .ok code ∧
        declaringLine? code.toList "Period" = some "input int Period = 14;".toList := by
  obtain ⟨read, declared⟩ := defaults_carried_as_read remarkedSource
  obtain ⟨code, composed⟩ := exists_composed_withSource parameters_remarkedSource (by decide)
  have declaredPeriod := declared (periodPayload.withSource remarkedSource) rfl code composed
  rw [parameters_remarkedSource, List.forall_mem_singleton] at read declaredPeriod
  obtain ⟨_, _, place, _, isPiece⟩ := read
  refine ⟨parameters_remarkedSource, isPiece ?_, code, composed, declaredPeriod⟩
  -- The piece begins with the only `1` of the source, and so behind the comment.
  have headed : place.written.head? = some '1' := place.stretch.starts.1
  obtain ⟨more, shape⟩ := List.head?_eq_some_iff.mp headed
  have pieces : "input int Period = /* bars */ ".toList ++ "14;\n".toList =
      place.stretch.before ++ '1' :: (more ++ place.stretch.after) :=
    calc remarkedSource.toList
      _ = place.stretch.before ++ (place.written ++ place.stretch.after) :=
        place.stretch.source_eq
      _ = _ := by rw [shape, List.cons_append]
  obtain ⟨past, _, behind⟩ := occurs_behind pieces (by decide)
  have isPart : place.written <:+: "14;\n".toList :=
    ⟨past, place.stretch.after, by rw [behind, shape, List.append_assoc, List.cons_append]⟩
  exact fun holds => HoldsComment.not_of_uncommented (by decide) (holds.of_infix isPart)

/-- A string is changed where a comment seems to stand in it, and carried like that. -/
theorem default_changed_quotedSource :
    parameters quotedSource = [⟨"Path", "\"ac\"", some "string"⟩] ∧
      ¬ "\"ac\"".toList <:+: quotedSource.toList ∧
      ∃ code, (periodPayload.withSource quotedSource).compose none = .ok code ∧
        declaringLine? code.toList "Path" = some "input string Path = \"ac\";".toList := by
  obtain ⟨code, composed⟩ := exists_composed_withSource parameters_quotedSource (by decide)
  have declared := (Payload.declares_of_composed composed).2
  rw [show (periodPayload.withSource quotedSource).indicatorCode = quotedSource from rfl,
    parameters_quotedSource, List.forall_mem_singleton] at declared
  refine ⟨parameters_quotedSource, by decide, code, composed, declared.trans ?_⟩
  decide

end ExpertAdvisor

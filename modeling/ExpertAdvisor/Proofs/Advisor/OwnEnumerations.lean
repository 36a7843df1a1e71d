import ExpertAdvisor.Proofs.Advisor.PassedArguments
import ExpertAdvisor.Proofs.Code.Token

namespace ExpertAdvisor

open Text Indicator Advisor Code

/-!
# Enumerations of an indicator's own

An indicator may define enumerations, which an expert advisor does not know.  An
expert advisor takes a declared type over by its name alone, so an enumeration
of the indicator's own is taken over where its name looks like that of a type
that exists everywhere.  In all other cases the default decides about the type.
-/

namespace Indicator

/-- A name of a built-in type, or one that begins like the standard enumerations' names. -/
def LooksStandard (type : String) : Prop :=
  type ∈ builtInTypes ∨ enumerationMark <+: type.toList

/-- A type can be carried exactly when it looks standard. -/
theorem isCarriable_iff (type : String) : isCarriable type = true ↔ LooksStandard type := by
  have marked : beginsWith enumerationMark type.toList = true ↔
      enumerationMark <+: type.toList := by
    rw [beginsWith, Option.isSome_iff_exists]
    exact exists_congr fun rest => (afterPrefix?_eq_some_iff _ _ rest).trans eq_comm
  rw [isCarriable, Bool.or_eq_true, List.contains_iff_mem, marked, LooksStandard]

section CarriedType

variable {parameter : Parameter} {type : String}

/-- A type that looks standard is carried as it was declared. -/
theorem carriedType_of_looksStandard
    (declared : parameter.declaredType = some type)
    (standard : LooksStandard type) :
    carriedType parameter = type := by
  rw [carriedType, declared]
  exact if_pos ((isCarriable_iff type).mpr standard)

/-- A type that is not taken over gives way to the one that the default suggests. -/
theorem carriedType_of_not_looksStandard
    (declared : parameter.declaredType = some type)
    (ownName : ¬ LooksStandard type) :
    carriedType parameter = inferredType parameter.default := by
  rw [carriedType, declared]
  exact if_neg (mt (isCarriable_iff type).mp ownName)

/-- A declared type is declared again exactly when its name looks standard. -/
theorem carriedType_eq_iff (declared : parameter.declaredType = some type) :
    carriedType parameter = type ↔ LooksStandard type := by
  refine ⟨fun same => ?_, carriedType_of_looksStandard declared⟩
  by_contra ownName
  -- What the default suggests is built in, and so it cannot be the declared type.
  have suggested := carriedType_of_not_looksStandard declared ownName
  have builtIn := inferredType_mem_builtInTypes parameter.default
  rw [← suggested, same] at builtIn
  exact ownName (.inl builtIn)

end CarriedType

/-! Definitions of enumerations. -/

/-- The source text without block comments, and without what stands behind two slashes. -/
def withoutComments (source : String) : List Char :=
  ['\n'].intercalate (((blankComments source.toList).splitOn '\n').map withoutRemark)

/-- The word that begins the definition of an enumeration. -/
def enumWord : List Char := "enum".toList

/-- Outside comments stand the word `enum`, a name and an opening brace. -/
def DefinesEnumeration (source name : String) : Prop :=
  ∃ before gap closeGap after,
    withoutComments source =
        before ++ enumWord ++ gap ++ name.toList ++ closeGap ++ '\x7b' :: after ∧
      (∀ last ∈ before.getLast?, isWord last = false) ∧
      IsGap gap ∧ IsIdentifier name.toList ∧ Within isBlank closeGap

/-- An enumeration of the indicator's own is the type with which a parameter is declared again. -/
def TakesOver (source type : String) : Prop :=
  DefinesEnumeration source type ∧
    ∃ parameter ∈ parameters source,
      parameter.declaredType = some type ∧ carriedType parameter = type

end Indicator

/-! Types in an expert advisor. -/

/-- The type of an input: the word behind `input` on the line that declares it. -/
def Code.inputType?
    (code : List Char)
    (name : String) : Option String :=
  (declaringLine? code name).bind fun line =>
    (afterPrefix? "input ".toList line).map fun typed => String.ofList (typed.takeWhile isWord)

/-- An expert advisor declares each carried input with its carried type. -/
theorem Payload.inputType?_of_composed
    {payload : Payload}
    {code : String}
    (composed : payload.compose none = .ok code)
    {parameter : Parameter}
    (member : parameter ∈ parameters payload.indicatorCode) :
    inputType? code.toList parameter.name = some (carriedType parameter) := by
  have declared := (declares_of_composed composed).2 parameter member
  have typeWord : Within isWord (carriedType parameter).toList :=
    (parameter.delimited_carriedInput member).type_identifier.within
  rw [inputType?, declared, Option.bind_some, Input.toList_line,
    (afterPrefix?_eq_some_iff _ _ _).mpr rfl, Option.map_some]
  have noWord : isWord ' ' = false := by decide
  have whole (rest : List Char) :
      ((carriedType parameter).toList ++ ' ' :: rest).takeWhile isWord =
        (carriedType parameter).toList := by
    rw [List.takeWhile_append_of_pos typeWord, List.takeWhile_cons_of_neg (by simp [noWord]),
      List.append_nil]
  rw [Parameter.carriedInput, Input.plain, whole, String.ofList_toList]

/--
An enumeration of the indicator's own is taken over exactly when a parameter has
it as its type and its name looks standard.  A parameter of any other type that
does not look standard is declared again with the built-in type that its default
suggests.  An expert advisor composed for the indicator declares its inputs with
these types.
-/
theorem Indicator.takesOver_iff (source : String) :
    (∀ type, TakesOver source type ↔
      DefinesEnumeration source type ∧ LooksStandard type ∧
        ∃ parameter ∈ parameters source, parameter.declaredType = some type) ∧
    (∀ parameter ∈ parameters source, ∀ type, parameter.declaredType = some type →
      ¬ LooksStandard type →
        carriedType parameter = inferredType parameter.default ∧
          carriedType parameter ∈ builtInTypes) ∧
    ∀ payload : Payload, payload.indicatorCode = source →
      ∀ code, payload.compose none = .ok code →
        ∀ parameter ∈ parameters source,
          inputType? code.toList parameter.name = some (carriedType parameter) := by
  refine ⟨fun type => ⟨?_, ?_⟩, fun parameter _ type declared ownName => ?_, ?_⟩
  · rintro ⟨defined, parameter, member, declared, same⟩
    exact ⟨defined, (carriedType_eq_iff declared).mp same, parameter, member, declared⟩
  · rintro ⟨defined, standard, parameter, member, declared⟩
    exact ⟨defined, parameter, member, declared, carriedType_of_looksStandard declared standard⟩
  · have suggested := carriedType_of_not_looksStandard declared ownName
    refine ⟨suggested, ?_⟩
    rw [suggested]
    exact inferredType_mem_builtInTypes parameter.default
  · rintro payload rfl code composed parameter member
    exact Payload.inputType?_of_composed composed member

/-! Indicators with an enumeration of their own. -/

/-- An enumeration with a name of its own kind. -/
def pacedSource : String :=
  "enum Pace \x7b SLOW, FAST \x7d;\ninput Pace Speed = SLOW;\n"

/-- The same enumeration under a name that begins like those of the standard ones. -/
def markedSource : String :=
  "enum ENUM_PACE \x7b SLOW, FAST \x7d;\ninput ENUM_PACE Speed = SLOW;\n"

theorem parameters_pacedSource :
    parameters pacedSource = [⟨"Speed", "SLOW", some "Pace"⟩] := by
  rw [parameters, extraction, blankComments_of_uncommented (by decide)]
  decide

theorem parameters_markedSource :
    parameters markedSource = [⟨"Speed", "SLOW", some "ENUM_PACE"⟩] := by
  rw [parameters, extraction, blankComments_of_uncommented (by decide)]
  decide

/-- The same payload for another indicator. -/
def Payload.withSource
    (payload : Payload)
    (source : String) : Payload :=
  { payload with indicatorCode := source }

/-- A payload for an indicator whose names are all free can be composed. -/
theorem exists_composed_withSource
    {source : String}
    {found : List Parameter}
    (isFound : parameters source = found)
    (noneReserved : Parameter.clashes found = []) :
    ∃ code, (periodPayload.withSource source).compose none = .ok code := by
  subst isFound
  exact ⟨_, Payload.composeWith_eq_ok_iff.mpr ⟨noneReserved, rfl⟩⟩

/-- A source that begins with an enumeration defines it. -/
theorem Indicator.definesEnumeration_of_start
    {source name : String}
    {rest : List Char}
    (starts : withoutComments source =
      enumWord ++ ' ' :: (name.toList ++ ' ' :: '\x7b' :: rest))
    (identifier : IsIdentifier name.toList) :
    DefinesEnumeration source name := by
  have space : Within isBlank [' '] := by decide
  refine ⟨[], [' '], [' '], rest, ?_, nofun, ⟨space, List.cons_ne_nil _ _⟩, identifier, space⟩
  rw [starts]
  simp

theorem definesEnumeration_pacedSource : DefinesEnumeration pacedSource "Pace" := by
  refine @definesEnumeration_of_start _ _ " SLOW, FAST \x7d;\ninput Pace Speed = SLOW;\n".toList ?_
    (by decide)
  rw [withoutComments, blankComments_of_uncommented (by decide)]
  decide +kernel

/--
An enumeration of the indicator's own is not taken over, and its input falls
back to an integer.
-/
theorem takesOver_iff_pacedSource :
    DefinesEnumeration pacedSource "Pace" ∧ ¬ TakesOver pacedSource "Pace" ∧
      (∀ parameter ∈ parameters pacedSource,
        carriedType parameter = inferredType parameter.default) ∧
      ∃ code, (periodPayload.withSource pacedSource).compose none = .ok code ∧
        inputType? code.toList "Speed" = some "int" := by
  have ownName : ¬ LooksStandard "Pace" := by
    rw [LooksStandard]
    decide
  have carried : carriedType ⟨"Speed", "SLOW", some "Pace"⟩ = "int" := by decide
  obtain ⟨code, composed⟩ := exists_composed_withSource parameters_pacedSource (by decide)
  obtain ⟨takesOver, suggested, typed⟩ := Indicator.takesOver_iff pacedSource
  have typedSpeed := typed (periodPayload.withSource pacedSource) rfl code composed
  rw [parameters_pacedSource, List.forall_mem_singleton] at suggested typedSpeed
  refine ⟨definesEnumeration_pacedSource, fun taken => ownName ((takesOver "Pace").mp taken).2.1,
    ?_, code, composed, carried ▸ typedSpeed⟩
  rw [parameters_pacedSource, List.forall_mem_singleton]
  exact (suggested "Pace" rfl ownName).1

theorem definesEnumeration_markedSource : DefinesEnumeration markedSource "ENUM_PACE" := by
  refine @definesEnumeration_of_start _ _
    " SLOW, FAST \x7d;\ninput ENUM_PACE Speed = SLOW;\n".toList ?_ (by decide)
  rw [withoutComments, blankComments_of_uncommented (by decide)]
  decide +kernel

/-- An expert advisor takes over an enumeration that only the indicator knows. -/
theorem takesOver_markedSource :
    TakesOver markedSource "ENUM_PACE" ∧
      ∃ code, (periodPayload.withSource markedSource).compose none = .ok code ∧
        inputType? code.toList "Speed" = some "ENUM_PACE" := by
  have member : ⟨"Speed", "SLOW", some "ENUM_PACE"⟩ ∈ parameters markedSource := by
    rw [parameters_markedSource]
    exact List.mem_singleton_self _
  have carried : carriedType ⟨"Speed", "SLOW", some "ENUM_PACE"⟩ = "ENUM_PACE" := by decide
  obtain ⟨code, composed⟩ := exists_composed_withSource parameters_markedSource (by decide)
  exact ⟨⟨definesEnumeration_markedSource, _, member, rfl, carried⟩, code, composed,
    carried ▸ Payload.inputType?_of_composed composed member⟩

end ExpertAdvisor

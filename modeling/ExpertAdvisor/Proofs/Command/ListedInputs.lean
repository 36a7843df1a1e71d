import ExpertAdvisor.Proofs.Command.ConfiguredRun
import ExpertAdvisor.Proofs.Json.RoundTrip
import ExpertAdvisor.Proofs.Payload.Restoration
import ExpertAdvisor.Proofs.Service.Generation
import ExpertAdvisor.Proofs.Text.SourceEncodings

namespace ExpertAdvisor

/-!
# One listing on both surfaces

The program and the service list the parameters of an indicator alike.  The
program reads bytes in any of the encodings and prints JSON, the service is sent
the text and answers with a document; what the JSON says is a part of that
document.
-/

/-- The list that is written for parameters has no numbers. -/
theorem Parameter.textual_listToValue
    (spelling : Spelling)
    (parameters : List Parameter) :
    (listToValue spelling parameters).Textual := by
  refine .list fun item member => ?_
  obtain ⟨parameter, _, rfl⟩ := List.mem_map.mp member
  have distinct : (toRecord spelling parameter).names.Nodup := by
    have names : (toRecord spelling parameter).names =
        [Field.name.spelled spelling, Field.defaultValue.spelled spelling] := rfl
    rw [names]
    cases spelling <;> decide
  refine .record distinct fun field isField => ?_
  simp only [toRecord, FieldName.write, List.map_cons, List.map_nil, List.mem_cons,
    List.not_mem_nil, or_false] at isField
  rcases isField with rfl | rfl <;> exact .text _

namespace Service

/-- The body that asks for the parameters of an indicator, as JSON. -/
def inputsBody (source : String) : String :=
  Json.print .compact (.record (InputsRequest.toRecord .camel ⟨source⟩))

/-- The body is read as the request that it was written for. -/
theorem read_inputsBody (source : String) :
    Json.read (inputsBody source) = .ok (.record (InputsRequest.toRecord .camel ⟨source⟩)) := by
  have textual : (Value.record (InputsRequest.toRecord .camel ⟨source⟩)).Textual := by
    refine .record (List.nodup_singleton _) fun field isField => ?_
    rw [List.mem_singleton.mp isField]
    exact .text source
  have noGap : Text.Within Json.isGap "".toList := Text.Within.nil
  have isRead := Json.read_print textual .compact noGap
  rwa [String.append_empty] at isRead

/-- A record that is printed begins with its first name. -/
theorem exists_rest_of_record
    (name : String)
    (value : Value)
    (fields : Record) :
    ∃ rest, (Json.print .compact (.record ((name, value) :: fields))).toList =
      '\x7b' :: ((Json.quotedText name).toList ++ rest) := by
  rw [Json.print, Json.printFields_eq_map, List.map_cons, Json.Layout.enclose, Json.printedField]
  cases fields.map (Json.printedField Json.Layout.compact.deeper) with
  | nil => exact ⟨_, by simp [Json.Layout.deeper]; rfl⟩
  | cons second others => exact ⟨_, by simp [Json.Layout.deeper, String.intercalate_cons_cons]; rfl⟩

/-- The body begins with the name of its field. -/
theorem exists_rest_of_inputsBody (source : String) :
    ∃ rest, (inputsBody source).toList = '\x7b' :: '"' :: 'i' :: 'n' :: rest := by
  obtain ⟨rest, begins⟩ := exists_rest_of_record "indicatorCode" (.text source) []
  exact ⟨_, begins⟩

/-- What begins like the body of such a request is taken for UTF-8. -/
theorem decode?_encodeText
    {text : String}
    {rest : List Char}
    (begins : text.toList = '\x7b' :: '"' :: 'i' :: 'n' :: rest) :
    Json.decode? (Text.encodeText text) = some (Text.codePoints text.toList) := by
  have bytes : Text.encodeText text = 0x7B :: 0x22 :: 0x69 :: 0x6E :: Text.Utf8.encode rest := by
    rw [Text.encodeText, begins]
    rfl
  have found : Json.detect (Text.encodeText text) = (.utf8, Text.encodeText text) := by
    rw [bytes]
    rfl
  simp only [Json.decode?, found]
  rw [Text.Utf8.decodePassing?, Text.encodeText, Text.Utf8.decode_encode]

/-- A body that begins like that, and is read as a value without halves, is its document. -/
theorem ofRequest_of_json
    {text : String}
    {rest : List Char}
    {value : Value}
    (begins : text.toList = '\x7b' :: '"' :: 'i' :: 'n' :: rest)
    (isRead : Json.read text = .ok value)
    (paired : value.isPaired = true)
    (method path : String) :
    Body.ofRequest ⟨method, path, none, [], Text.encodeText text⟩ = .document value := by
  rw [Json.read, if_neg (by simp [begins])] at isRead
  have isJson : Body.ofJson (Text.encodeText text) = .document value := by
    rw [Body.ofJson, decode?_encodeText begins]
    simp only [isRead, paired, if_true]
  rw [Text.encodeText, begins] at isJson
  rw [Body.ofRequest, Text.encodeText, begins]
  exact isJson

/-- Every indicator can be asked about. -/
theorem asksForInputs_inputsBody (source : String) :
    AsksForInputs (inputsRequest (inputsBody source)) source where
  posted := rfl
  path := rfl
  body := by
    obtain ⟨rest, begins⟩ := exists_rest_of_inputsBody source
    exact ⟨_, ofRequest_of_json begins (read_inputsBody source) rfl _ _,
      InputsRequest.ofValue_toRecord ⟨source⟩ .camel⟩

end Service

namespace Command

variable {words : List String} {source text : String}

/-- Words that ask for the parameters of a source as JSON. -/
def ListsAsJson (words : List String) (source : String) : Prop :=
  ∃ logLevel, Invocation.ofWords? words = some (.run logLevel source (.inputs true))

/-- The words that do not ask for anything else. -/
def listingWords (source : String) : List String :=
  ["inputs", source, "--json"]

/-- The words ask for a listing as JSON. -/
theorem listsAsJson_listingWords (operand : isOption source = false) :
    ListsAsJson (listingWords source) source := by
  have arguments : Arguments.read inputsForms [source, "--json"] =
      some ⟨[("json", "")], [source]⟩ := by
    rw [Arguments.read, readFrom_operand operand]
    rfl
  refine ⟨_, ofWords?_of_task rfl ?_⟩
  rw [listingWords, Task.ofCommand?, Task.ofWords?, arguments]
  rfl

/-- A source is read as the text that was saved, whatever the encoding. -/
theorem sourceText_of_saved
    {surroundings : Surroundings}
    {encoding : Text.SourceEncoding}
    (saved : surroundings.sourceBytes source = .ok (encoding.save text.toList))
    (unmarked : encoding = .plain → text.toList.head? ≠ some '\uFEFF') :
    surroundings.sourceText source = .ok text := by
  rw [Surroundings.sourceText, saved, Outcome.ok_bind, Text.decodeSourceText_save unmarked]
  rfl

/-- A listing prints the parameters as JSON, and nothing else happens. -/
theorem run_listsAsJson
    (workspace : Workspace)
    (settings : Settings)
    (standardInput : List UInt8)
    (asks : ListsAsJson words source)
    (read : (workspace.surroundings standardInput).sourceText source = .ok text) :
    ∃ outcome, workspace.run settings standardInput words = (outcome, workspace) ∧
      outcome.exit = 0 ∧ outcome.output = parameterJson (Indicator.parameters text) := by
  obtain ⟨logLevel, asked⟩ := asks
  rw [Workspace.run, asked]
  simp only [start, runInputs, read]
  exact ⟨_, rfl, rfl, rfl⟩

/-- The JSON that lists parameters is read as their list. -/
theorem read_parameterJson (parameters : List Parameter) :
    Json.read (parameterJson parameters) = .ok (Parameter.listToValue .camel parameters) :=
  Json.read_print (Parameter.textual_listToValue .camel parameters) (.indented 0) (by decide)

/-- A parameter as it is listed: its name, and its default text. -/
def listedParameter (parameter : Parameter) : Value :=
  .record [("name", .text parameter.name), ("defaultValue", .text parameter.default)]

/--
The JSON that the program prints for a source says what the service answers for
its text, in whatever encoding the source was saved.  It is the list of the
parameters in their order, and the service counts them besides.
-/
theorem Workspace.listed_on_both_surfaces
    (workspace : Workspace)
    (settings : Settings)
    (file : VersionFile)
    (standardInput : List UInt8)
    {encoding : Text.SourceEncoding}
    (asks : ListsAsJson words source)
    (saved : (workspace.surroundings standardInput).sourceBytes source =
      .ok (encoding.save text.toList))
    (unmarked : text.toList.head? ≠ some '\uFEFF')
    (fits : ¬ Service.TooLarge settings text) :
    let listed := (Indicator.parameters text).map listedParameter
    let service := (Service.Application.create settings file (.standard settings)).result
    (∃ outcome, workspace.run settings standardInput words = (outcome, workspace) ∧
        outcome.exit = 0 ∧ Json.read outcome.output = .ok (.list listed)) ∧
      (∃ asking, Service.AsksForInputs asking text) ∧
      ∀ asking, Service.AsksForInputs asking text →
        (service.run asking).result.status = 200 ∧
          (service.run asking).result.content =
            .json (.record [("parameters", .list listed), ("count", .integer listed.length)]) := by
  intro listed service
  have sameList : Parameter.listToValue .camel (Indicator.parameters text) = .list listed := rfl
  refine ⟨?_, ⟨_, Service.asksForInputs_inputsBody text⟩, fun asking isAsked => ?_⟩
  · obtain ⟨outcome, ran, exits, output⟩ := run_listsAsJson workspace settings standardInput asks
      (sourceText_of_saved saved fun _ => unmarked)
    refine ⟨outcome, ran, exits, ?_⟩
    rw [output, read_parameterJson, sameList]
  · have answered := isAsked.answersLike service
    have response := Service.listInputs_of_fitting fits asking.path
    have content : Service.listingContent text =
        .json (.record [("parameters", .list listed), ("count", .integer listed.length)]) := by
      rw [Service.listingContent, sameList, List.length_map]
    exact ⟨answered.status.trans (congrArg Service.Response.status response),
      (answered.content.trans (congrArg Service.Response.content response)).trans content⟩

/-! The period's indicator, saved in marked UTF-16. -/

/-- A workspace with the period's indicator as an editor saves it. -/
def wideWorkspace : Workspace where
  files := [(["RSI.mq4"], Text.SourceEncoding.save (.utf16 .littleEndian) periodSource.toList)]
  directories := []

theorem sourceBytes_wideWorkspace :
    (wideWorkspace.surroundings []).sourceBytes "RSI.mq4" =
      .ok (Text.SourceEncoding.save (.utf16 .littleEndian) periodSource.toList) := by
  decide +kernel

/-- An indicator in UTF-16 is listed alike on both surfaces. -/
theorem listed_on_both_surfaces_wide :
    let listed := [Value.record [("name", .text "Period"), ("defaultValue", .text "14")]]
    (∃ outcome, wideWorkspace.run .standard [] (listingWords "RSI.mq4") =
        (outcome, wideWorkspace) ∧ outcome.exit = 0 ∧
          Json.read outcome.output = .ok (.list listed)) ∧
      (Service.standardApplication.run
        (Service.inputsRequest (Service.inputsBody periodSource))).result.content =
        .json (.record [("parameters", .list listed), ("count", .integer 1)]) := by
  have fits : ¬ Service.TooLarge .standard periodSource := by
    rw [Service.TooLarge]
    decide +kernel
  have carried : (Indicator.parameters periodSource).map listedParameter = _ :=
    congrArg (List.map listedParameter) parameters_periodSource
  have both := wideWorkspace.listed_on_both_surfaces .standard .shipped []
    (listsAsJson_listingWords (by decide)) sourceBytes_wideWorkspace (by decide +kernel) fits
  rw [carried] at both
  exact ⟨both.1, (both.2.2 _ (Service.asksForInputs_inputsBody periodSource)).2⟩

end Command

end ExpertAdvisor

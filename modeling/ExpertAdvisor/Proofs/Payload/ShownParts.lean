import ExpertAdvisor.Payload.Document
import ExpertAdvisor.Proofs.Json.Parts

namespace ExpertAdvisor

/-!
# What faults show

A fault shows the value that is wrong with its document, and that value is a
part of the document.  So a document without bytes, without numbers that are not
finite, or without halves of surrogate pairs has no fault that shows any.
-/

namespace Checked

/-- Every fault of a check shows a part of the value. -/
def ShowsParts (checked : Checked α) (value : Value) : Prop :=
  ∀ fault ∈ checked.faults, fault.input.IsPart value

/-- A change of what is accepted changes no fault. -/
theorem faults_map
    (change : α → β)
    (checked : Checked α) :
    (checked.map change).faults = checked.faults := by
  cases checked <;> rfl

theorem faults_under
    (step : Step)
    (checked : Checked α) :
    (checked.under step).faults = checked.faults.map (Fault.under step) := by
  cases checked <;> rfl

namespace ShowsParts

variable {value part : Value} {first : Checked α}

theorem accepted (content : α) : (Checked.accepted content).ShowsParts value :=
  List.forall_mem_nil _

theorem fail (problem : Problem) : (Checked.fail problem value : Checked α).ShowsParts value :=
  List.forall_mem_singleton.mpr .whole

theorem map
    {change : α → β}
    (shows : first.ShowsParts value) :
    (first.map change).ShowsParts value := by
  rw [ShowsParts, faults_map]
  exact shows

/-- Checks put together show parts when each of them does. -/
theorem and
    {change : Checked (α → β)}
    (changeShows : change.ShowsParts value)
    (shows : first.ShowsParts value) :
    (change.and first).ShowsParts value := by
  rw [ShowsParts, faults_and]
  exact List.forall_mem_append.mpr ⟨changeShows, shows⟩

theorem andThen
    {next : α → Checked β}
    (shows : first.ShowsParts value)
    (nextShows : ∀ content, (next content).ShowsParts value) :
    (first.andThen next).ShowsParts value := by
  cases first with
  | accepted content => exact nextShows content
  | refused fault more => exact shows

theorem withFaults
    {further : List Fault}
    (shows : first.ShowsParts value)
    (furtherShow : ∀ fault ∈ further, fault.input.IsPart value) :
    (first.withFaults further).ShowsParts value := by
  rw [ShowsParts, faults_withFaults]
  exact List.forall_mem_append.mpr ⟨shows, furtherShow⟩

/-- What shows parts of a part shows parts of the whole. -/
theorem under
    {step : Step}
    (shows : first.ShowsParts part)
    (isPart : part.IsPart value) :
    (first.under step).ShowsParts value := by
  rw [ShowsParts, faults_under]
  exact List.forall_mem_map.mpr fun fault member => (shows fault member).trans isPart

end ShowsParts

end Checked

open Checked

/-! Single values. -/

namespace Scalar

variable (value : Value)

theorem showsParts_text : (text value).ShowsParts value := by
  unfold text
  repeat' split
  all_goals first
    | exact .accepted _
    | exact .fail _

theorem showsParts_pairedText : (pairedText value).ShowsParts value := by
  unfold pairedText
  split
  · exact .fail _
  · exact showsParts_text value

theorem showsParts_filledText : (filledText value).ShowsParts value := by
  refine (showsParts_pairedText value).andThen fun content => ?_
  split
  · exact .fail _
  · exact .accepted _

theorem showsParts_integer : (integer value).ShowsParts value := by
  unfold integer integerOfReal integerOfWords
  repeat' split
  all_goals first
    | exact .accepted _
    | exact .fail _

theorem showsParts_natural : (natural value).ShowsParts value := by
  refine (showsParts_integer value).andThen fun number => ?_
  split
  · exact .fail _
  · exact .accepted _

theorem showsParts_real : (real value).ShowsParts value := by
  unfold real
  repeat' split
  all_goals first
    | exact .accepted _
    | exact .fail _

theorem showsParts_finiteNumber : (finiteNumber value).ShowsParts value := by
  refine (showsParts_real value).andThen fun number => ?_
  split
  · exact .accepted _
  · exact .fail _

theorem showsParts_positiveNumber : (positiveNumber value).ShowsParts value := by
  refine (showsParts_finiteNumber value).andThen fun number => ?_
  split
  · exact .accepted _
  · exact .fail _

theorem showsParts_flag : (flag value).ShowsParts value := by
  unfold flag
  repeat' split
  all_goals first
    | exact .accepted _
    | exact .fail _

theorem showsParts_optional
    {read : Value → Checked α}
    (shows : ∀ value, (read value).ShowsParts value) :
    (optional read value).ShowsParts value := by
  unfold optional
  split
  · exact .accepted _
  · exact (shows value).map

theorem showsParts_direction : (direction value).ShowsParts value := by
  unfold direction
  repeat' split
  all_goals first
    | exact .accepted _
    | exact .fail _

theorem showsParts_kindOf (expected : StrategyKind) : (kindOf expected value).ShowsParts value := by
  unfold kindOf
  repeat' split
  all_goals first
    | exact .accepted _
    | exact .fail _

end Scalar

/-! Fields. -/

namespace FieldName

/-- What a document gives under a name is a part of the document. -/
theorem isPart_of_get?
    {document : Value}
    {record : Record}
    {key : String}
    {value : Value}
    (named : document.namedFields? = some record)
    (given : Record.get? record key = some value) :
    value.IsPart document := by
  obtain ⟨⟨name, found⟩, isFound, rfl⟩ := Option.map_eq_some_iff.mp given
  have member : (name, found) ∈ record := List.mem_of_find?_eq_some isFound
  cases document with
  | record fields =>
      cases named
      exact .field member .whole
  | misnamed names values =>
      cases named
      obtain ⟨⟨points, content⟩, inZip, isField⟩ := List.mem_filterMap.mp member
      obtain ⟨_, _, same⟩ := Option.map_eq_some_iff.mp isField
      cases same
      exact .misnamedField (List.of_mem_zip inZip).2 .whole
  | _ => cases named

/-- What is found of a field is a part of the document. -/
theorem isPart_of_found?
    {document : Value}
    {name : FieldName}
    {record : Record}
    {key : String}
    {value : Value}
    (named : document.namedFields? = some record)
    (found : name.found? record = some (key, value)) :
    value.IsPart document := by
  rw [found?] at found
  split at found
  case h_1 given =>
    cases found
    exact isPart_of_get? named given
  case h_2 =>
    obtain ⟨_, given, same⟩ := Option.map_eq_some_iff.mp found
    cases same
    exact isPart_of_get? named given

variable (name : FieldName) {check : Value → Checked α} (record : Record)

/-- A field that is required of a document shows parts of it. -/
theorem showsParts_requiredOf
    {document : Value}
    (named : document.namedFields? = some record)
    (shows : ∀ value, (check value).ShowsParts value) :
    (requiredOf document name check record).ShowsParts document := by
  rw [requiredOf]
  split
  case h_1 found => exact (shows _).under (isPart_of_found? named found)
  case h_2 => exact List.forall_mem_singleton.mpr .whole

theorem showsParts_required
    (shows : ∀ value, (check value).ShowsParts value) :
    (name.required check record).ShowsParts (.record record) :=
  name.showsParts_requiredOf record rfl shows

theorem showsParts_optional
    {absent : α}
    (shows : ∀ value, (check value).ShowsParts value) :
    (name.optional check absent record).ShowsParts (.record record) := by
  rw [optional]
  split
  case h_1 found => exact (shows _).under (isPart_of_found? rfl found)
  case h_2 => exact .accepted _

/-- A fault for a stray entry shows the entry. -/
theorem isPart_of_mem_strayFaults
    (names : List FieldName) :
    ∀ fault ∈ strayFaults names record, fault.input.IsPart (.record record) :=
  List.forall_mem_map.mpr fun _ member => .field ((List.mem_filter.mp member).1) .whole

end FieldName

/-! Documents. -/

open FieldName Scalar

/-- A model shows parts of any value, if it shows parts of records. -/
theorem Checked.showsParts_model
    {check : Record → Checked α}
    (shows : ∀ record, (check record).ShowsParts (.record record))
    (model : String)
    (value : Value) :
    (Checked.model model check value).ShowsParts value := by
  unfold Checked.model
  split
  · exact shows _
  · exact List.forall_mem_singleton.mpr (.misname .whole)
  · exact .fail _

theorem CrossoverStrategy.showsParts_ofRecord (record : Record) :
    (CrossoverStrategy.ofRecord record).ShowsParts (.record record) :=
  .withFaults
    (.and (.and (.and (.and
      (.map (Field.kind.showsParts_optional record fun value => showsParts_kindOf value _))
      (Field.fastBuffer.showsParts_optional record showsParts_natural))
      (Field.slowBuffer.showsParts_optional record showsParts_natural))
      (Field.allowMultiplePositions.showsParts_optional record showsParts_flag))
      (Field.reverseSignal.showsParts_optional record showsParts_flag))
    (isPart_of_mem_strayFaults record _)

theorem ThresholdStrategy.showsParts_ofRecord (record : Record) :
    (ThresholdStrategy.ofRecord record).ShowsParts (.record record) := by
  have level (value : Value) := Scalar.showsParts_optional value showsParts_finiteNumber
  exact .withFaults
    (.and (.and (.and (.and (.and
      (.map (Field.kind.showsParts_optional record fun value => showsParts_kindOf value _))
      (Field.buffer.showsParts_optional record showsParts_natural))
      (Field.upper.showsParts_optional record level))
      (Field.lower.showsParts_optional record level))
      (Field.direction.showsParts_optional record showsParts_direction))
      (Field.allowMultiplePositions.showsParts_optional record showsParts_flag))
    (isPart_of_mem_strayFaults record _)

theorem Strategy.showsParts_ofRecord (kind : StrategyKind) (record : Record) :
    (Strategy.ofRecord kind record).ShowsParts (.record record) := by
  cases kind with
  | crossover => exact (CrossoverStrategy.showsParts_ofRecord record).map
  | threshold => exact (ThresholdStrategy.showsParts_ofRecord record).map
  | custom =>
      refine .map (.withFaults (.and
        (.map (Field.kind.showsParts_optional record fun value => showsParts_kindOf value _))
        (Field.snippet.showsParts_required record showsParts_text))
        (isPart_of_mem_strayFaults record _))

/-- A check for a strategy shows parts of its value. -/
theorem Strategy.showsParts_ofValue (value : Value) :
    (Strategy.ofValue value).ShowsParts value := by
  unfold Strategy.ofValue
  repeat' split
  all_goals first
    | exact .fail _
    | exact (showsParts_model (showsParts_ofRecord _) _ value).under .whole

theorem Payload.showsParts_indicatorNameOf (value : Value) :
    (indicatorNameOf value).ShowsParts value := by
  refine (showsParts_filledText value).andThen fun content => ?_
  repeat' split
  all_goals first
    | exact .accepted _
    | exact .fail _

theorem Payload.showsParts_timeframeOf (value : Value) :
    (timeframeOf value).ShowsParts value := by
  refine (showsParts_filledText value).andThen fun content => ?_
  split
  · exact .fail _
  · exact .accepted _

/-- Every fault of a payload shows a part of the payload. -/
theorem Payload.showsParts_ofRecord (record : Record) :
    (Payload.ofRecord record).ShowsParts (.record record) :=
  .withFaults
    (.and (.and (.and (.and (.and (.and (.and (.and
      (.map (Field.indicatorName.showsParts_required record showsParts_indicatorNameOf))
      (Field.indicatorCode.showsParts_optional record showsParts_text))
      (Field.timeframeExpression.showsParts_optional record showsParts_timeframeOf))
      (Field.lots.showsParts_optional record showsParts_positiveNumber))
      (Field.slippage.showsParts_optional record showsParts_integer))
      (Field.stopLoss.showsParts_optional record showsParts_natural))
      (Field.takeProfit.showsParts_optional record showsParts_natural))
      (Field.magicNumber.showsParts_optional record showsParts_integer))
      (Field.logicConfig.showsParts_required record Strategy.showsParts_ofValue))
    (isPart_of_mem_strayFaults record _)

/-- A check for a payload shows parts of its document. -/
theorem Payload.showsParts_ofValue (value : Value) : (Payload.ofValue value).ShowsParts value :=
  showsParts_model showsParts_ofRecord _ value

/-- Every fault of a request shows a part of the request. -/
theorem InputsRequest.showsParts_ofValue (value : Value) :
    (InputsRequest.ofValue value).ShowsParts value := by
  unfold InputsRequest.ofValue Checked.openModel
  split
  case h_1 fields named =>
    exact .map (Field.indicatorCode.showsParts_requiredOf fields named showsParts_text)
  case h_2 => exact .fail _

end ExpertAdvisor

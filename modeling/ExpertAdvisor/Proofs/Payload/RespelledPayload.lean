import ExpertAdvisor.Proofs.Payload.Respelling

namespace ExpertAdvisor

/-!
# Respelled payloads

A payload may spell each of its keys in camel case or in snake case, and so may
the strategy in it.  As long as no field is given twice, the spelling of any of
the keys can be exchanged: the payload means the same, or it has the same faults
in the same places, and it is composed with the same outcome.
-/

/-! Faults in respelled documents. -/

/-- Two steps to the same value, whose key may be respelled. -/
inductive Step.Respelled (names : List FieldName) : Step → Step → Prop where
  | key {key other : String} (respells : FieldName.Respells names key other) :
      Respelled names (.key key) (.key other)
  | index (position : Nat) : Respelled names (.index position) (.index position)

/-- Two faults with one problem, and so of one class and with one message, in the same place. -/
structure Fault.Respelled
    (names : List FieldName)
    (fault other : Fault) : Prop where
  problem : fault.problem = other.problem
  path : List.Forall₂ (Step.Respelled names) fault.path other.path

variable {names : List FieldName}

theorem Step.Respelled.refl (step : Step) : step.Respelled names step := by
  cases step with
  | key name => exact .key (.inl rfl)
  | index position => exact .index position

theorem Fault.Respelled.refl (fault : Fault) : fault.Respelled names fault :=
  ⟨rfl, List.forall₂_same.mpr fun step _ => .refl step⟩

/-- Respelled faults stay respelled under respelled steps. -/
theorem Fault.Respelled.under
    {step otherStep : Step}
    {fault other : Fault}
    (steps : step.Respelled names otherStep)
    (faults : fault.Respelled names other) :
    (fault.under step).Respelled names (other.under otherStep) :=
  ⟨faults.problem, .cons steps faults.path⟩

namespace Checked

/-- Two checks that accept the same value or refuse with the same faults, one by one. -/
inductive Alike (names : List FieldName) : Checked α → Checked α → Prop where
  | accepted (value : α) : Alike names (.accepted value) (.accepted value)
  | refused
      {fault other : Fault}
      {more others : List Fault}
      (faults : List.Forall₂ (Fault.Respelled names) (fault :: more) (other :: others)) :
      Alike names (.refused fault more) (.refused other others)

namespace Alike

variable {first second : Checked α}

theorem refl (checked : Checked α) : Alike names checked checked := by
  cases checked with
  | accepted value => exact .accepted value
  | refused fault more => exact .refused (List.forall₂_same.mpr fun fault _ => .refl fault)

/-- Checks that are alike accept the same. -/
theorem eq_accepted_iff
    (alike : Alike names first second)
    {value : α} :
    first = .accepted value ↔ second = .accepted value := by
  cases alike with
  | accepted value => rfl
  | refused faults => exact iff_of_false nofun nofun

/-- Checks that are alike refuse for respelled faults. -/
theorem exists_refused
    (alike : Alike names first second)
    {fault : Fault}
    {more : List Fault}
    (refused : first = .refused fault more) :
    ∃ other others, second = .refused other others ∧
      List.Forall₂ (Fault.Respelled names) (fault :: more) (other :: others) := by
  cases alike with
  | accepted value => exact absurd refused nofun
  | refused faults =>
      cases refused
      exact ⟨_, _, rfl, faults⟩

/-- Checks that are alike have respelled faults. -/
theorem faults (alike : Alike names first second) :
    List.Forall₂ (Fault.Respelled names) first.faults second.faults := by
  cases alike with
  | accepted value => exact .nil
  | refused faults => exact faults

theorem fail
    (problem : Problem)
    (value other : Value) :
    Alike names (Checked.fail problem value : Checked α) (Checked.fail problem other) :=
  .refused (.cons ⟨rfl, .nil⟩ .nil)

theorem map
    {change : α → β}
    (alike : Alike names first second) :
    Alike names (first.map change) (second.map change) := by
  cases alike with
  | accepted value => exact .accepted (change value)
  | refused faults => exact .refused faults

theorem and
    {change otherChange : Checked (α → β)}
    (changes : Alike names change otherChange)
    (alike : Alike names first second) :
    Alike names (change.and first) (otherChange.and second) := by
  cases changes with
  | accepted change =>
      cases alike with
      | accepted value => exact .accepted (change value)
      | refused faults => exact .refused faults
  | refused faults => exact .refused (List.rel_append faults alike.faults)

theorem withFaults
    {further otherFurther : List Fault}
    (alike : Alike names first second)
    (furtherAlike : List.Forall₂ (Fault.Respelled names) further otherFurther) :
    Alike names (first.withFaults further) (second.withFaults otherFurther) := by
  cases alike with
  | accepted value =>
      cases furtherAlike with
      | nil => exact .accepted value
      | cons fault more => exact .refused (.cons fault more)
  | refused faults => exact .refused (List.rel_append faults furtherAlike)

theorem under
    {step otherStep : Step}
    (steps : step.Respelled names otherStep)
    (alike : Alike names first second) :
    Alike names (first.under step) (second.under otherStep) := by
  cases alike with
  | accepted value => exact .accepted value
  | refused faults =>
      exact .refused (List.rel_map (fun _ _ alike => Fault.Respelled.under steps alike) faults)

end Alike

end Checked

open Checked

namespace FieldName

open Record

variable {related : String → Value → Value → Prop} {first second : Record} {name : FieldName}

/-- Two records give a field the same value, under keys that may be respelled, or not at all. -/
def GivenAlike
    (names : List FieldName)
    (name : FieldName)
    (first second : Record) : Prop :=
  Option.Rel (EntryRespelled names fun _ => Eq) (name.found? first) (name.found? second)

/-- A required field is checked alike when its values are. -/
theorem alike_required
    {check : Value → Checked α}
    (given : Option.Rel (EntryRespelled names related) (name.found? first) (name.found? second))
    (checks : ∀ key value other, name.found? first = some (key, value) →
      related key value other → Alike names (check value) (check other)) :
    Alike names (name.required check first) (name.required check second) := by
  rw [required, requiredOf, required, requiredOf]
  generalize name.found? first = found at given checks
  generalize name.found? second = otherFound at given
  cases given with
  | none => exact .refused (.cons ⟨rfl, .cons (.refl _) .nil⟩ .nil)
  | some entries => exact (checks _ _ _ rfl entries.value).under (.key entries.key)

namespace GivenAlike

/-- A required field that is given alike is checked alike. -/
theorem required
    {check : Value → Checked α}
    (given : name.GivenAlike names first second) :
    Alike names (name.required check first) (name.required check second) := by
  refine alike_required given fun key value other _ same => ?_
  rw [same]
  exact .refl _

theorem optional
    {check : Value → Checked α}
    {absent : α}
    (given : name.GivenAlike names first second) :
    Alike names (name.optional check absent first) (name.optional check absent second) := by
  rw [FieldName.optional, FieldName.optional]
  rw [GivenAlike] at given
  generalize name.found? first = found at given
  generalize name.found? second = otherFound at given
  cases given with
  | none => exact .accepted absent
  | @some entry other entries =>
      obtain ⟨key, value⟩ := entry
      obtain ⟨keys, same⟩ := entries
      cases same
      exact (Alike.refl _).under (.key keys)

end GivenAlike

/-- Entries that are stray in both records are reported alike. -/
theorem strayFaults_respelled
    {known : List FieldName}
    (strays : Respelled names related (strayEntries known first) (strayEntries known second)) :
    List.Forall₂ (Fault.Respelled names)
      (strayFaults known first) (strayFaults known second) :=
  List.rel_map (fun _ _ entries => ⟨rfl, .cons (.key entries.key) .nil⟩) strays

end FieldName

/-! Strategies. -/

namespace Strategy

/-- The fields of a strategy of some kind. -/
def fieldNames : StrategyKind → List FieldName
  | .crossover => CrossoverStrategy.fieldNames
  | .threshold => ThresholdStrategy.fieldNames
  | .custom => customFieldNames

end Strategy

/-- The fields of payloads and of the strategies in them. -/
def Payload.nestedFieldNames : List FieldName :=
  Payload.fieldNames ++ StrategyKind.all.flatMap Strategy.fieldNames

open FieldName

namespace Payload

theorem areDistinct_nestedFieldNames : AreDistinct nestedFieldNames := by
  decide +kernel

theorem fieldNames_subset : fieldNames ⊆ nestedFieldNames :=
  List.subset_append_left _ _

end Payload

open Payload

namespace Strategy

theorem fieldNames_subset (kind : StrategyKind) :
    fieldNames kind ⊆ nestedFieldNames := by
  intro name member
  refine List.mem_append_right _ (List.mem_flatMap.mpr ⟨kind, ?_, member⟩)
  cases kind <;> decide

/-- A strategy and the same one with some of its keys respelled. -/
inductive Respelled : Value → Value → Prop where
  | same (value : Value) : Respelled value value
  | record {first second : Record}
      (respelled : Record.Respelled nestedFieldNames (fun _ => Eq) first second) :
      Respelled (.record first) (.record second)

end Strategy

/-- Two records give the fields alike, and have the same stray entries under respelled keys. -/
structure Record.FieldsAlike
    (known : List FieldName)
    (first second : Record) : Prop where
  given : ∀ name ∈ known, name.GivenAlike nestedFieldNames first second
  strays : Record.Respelled nestedFieldNames (fun _ => Eq)
    (strayEntries known first) (strayEntries known second)

/-- A crossover strategy is checked alike when its fields are given alike. -/
theorem CrossoverStrategy.alike_ofRecord
    {first second : Record}
    (fields : Record.FieldsAlike fieldNames first second) :
    Alike nestedFieldNames (ofRecord first) (ofRecord second) := by
  have given := fields.given
  exact .withFaults
    (.and (.and (.and (.and
      (.map (given Field.kind (by decide)).optional)
      (given Field.fastBuffer (by decide)).optional)
      (given Field.slowBuffer (by decide)).optional)
      (given Field.allowMultiplePositions (by decide)).optional)
      (given Field.reverseSignal (by decide)).optional)
    (strayFaults_respelled fields.strays)

theorem ThresholdStrategy.alike_ofRecord
    {first second : Record}
    (fields : Record.FieldsAlike fieldNames first second) :
    Alike nestedFieldNames (ofRecord first) (ofRecord second) := by
  have given := fields.given
  exact .withFaults
    (.and (.and (.and (.and (.and
      (.map (given Field.kind (by decide)).optional)
      (given Field.buffer (by decide)).optional)
      (given Field.upper (by decide)).optional)
      (given Field.lower (by decide)).optional)
      (given Field.direction (by decide)).optional)
      (given Field.allowMultiplePositions (by decide)).optional)
    (strayFaults_respelled fields.strays)

namespace Strategy

variable {first second : Record}

theorem alike_snippetOfRecord (fields : Record.FieldsAlike customFieldNames first second) :
    Alike nestedFieldNames (snippetOfRecord first) (snippetOfRecord second) := by
  have given := fields.given
  exact .withFaults
    (.and
      (.map (given Field.kind (by decide)).optional)
      (given Field.snippet (by decide)).required)
    (strayFaults_respelled fields.strays)

/-- A strategy of any kind is checked alike when its fields are given alike. -/
theorem alike_ofRecord
    (kind : StrategyKind)
    (fields : Record.FieldsAlike (fieldNames kind) first second) :
    Alike nestedFieldNames (ofRecord kind first) (ofRecord kind second) := by
  cases kind with
  | crossover => exact (CrossoverStrategy.alike_ofRecord fields).map
  | threshold => exact (ThresholdStrategy.alike_ofRecord fields).map
  | custom => exact (alike_snippetOfRecord fields).map

/-- Each field of the strategy that a value describes is given at most once. -/
def SpelledOnce (value : Value) : Prop :=
  ∀ fields kind, value = .record fields →
    Record.get? fields "kind" = some (.text (StrategyKind.name kind)) →
      ∀ name ∈ fieldNames kind, name.SpelledOnce fields

/-- The fields of respelled records are given alike. -/
theorem fieldsAlike_of_respelled
    {known : List FieldName}
    (subset : known ⊆ nestedFieldNames)
    (respelled : Record.Respelled nestedFieldNames (fun _ => Eq) first second)
    (once : ∀ name ∈ known, name.SpelledOnce first) :
    Record.FieldsAlike known first second where
  given := fun name member =>
    found?_respelled areDistinct_nestedFieldNames (subset member) respelled (once name member)
  strays := strayEntries_respelled areDistinct_nestedFieldNames subset respelled once

/-- Respelling its keys leaves a strategy the same, also where it has faults. -/
theorem alike_ofValue
    {value other : Value}
    (respelled : Respelled value other)
    (once : SpelledOnce value) :
    Alike nestedFieldNames (ofValue value) (ofValue other) := by
  cases respelled with
  | same => exact .refl _
  | @record first second respelled =>
      have kindMember : FieldName.plain "kind" ∈ nestedFieldNames := by decide
      have sameKind := get?_respelled "kind" areDistinct_nestedFieldNames kindMember respelled
      rw [ofValue_record, ofValue_record, ← sameKind]
      cases named : Record.get? first "kind" with
      | none => exact .fail _ _ _
      | some given =>
          dsimp only
          cases selected : selectedKind? given with
          | none => exact .fail _ _ _
          | some kind =>
              rw [selectedKind?_eq_some_iff.mp selected] at named
              have fields := fieldsAlike_of_respelled (fieldNames_subset kind) respelled
                (once first kind rfl named)
              exact (alike_ofRecord kind fields).under (.refl _)

end Strategy

namespace Payload

/-- A value of a payload may have been respelled itself only where it is the strategy. -/
def ValueRespelled
    (key : String)
    (value other : Value) : Prop :=
  if Field.logicConfig.spells key then Strategy.Respelled value other else value = other

/-- A payload's record and the same one with some of its keys, outside and inside, respelled. -/
def Respelled : Record → Record → Prop :=
  Record.Respelled nestedFieldNames ValueRespelled

/-- Each field of a payload and of the strategy in it is given at most once. -/
structure SpelledOnce (record : Record) : Prop where
  outside : ∀ name ∈ fieldNames, name.SpelledOnce record
  inside : ∀ value, Composition.givenStrategy? record = some value → Strategy.SpelledOnce value

variable {first second : Record}

/-- What gives a field gives it in the respelled payload, and only a strategy may differ. -/
theorem found?_respelled
    (respelled : Respelled first second)
    (once : SpelledOnce first)
    (name : FieldName)
    (member : name ∈ fieldNames) :
    Option.Rel
      (Record.EntryRespelled nestedFieldNames fun _ =>
        if name = Field.logicConfig then Strategy.Respelled else Eq)
      (name.found? first) (name.found? second) := by
  have distinct := areDistinct_nestedFieldNames
  have isField := fieldNames_subset member
  have given := FieldName.found?_respelled distinct isField respelled (once.outside name member)
  generalize isFound : name.found? first = found at given
  generalize name.found? second = otherFound at given
  cases given with
  | none => exact .none
  | @some entry other entries =>
      have value := entries.value
      have spells : name.spells entry.1 = true := spells_iff.mpr (key_of_found? isFound)
      refine .some ⟨entries.key, ?_⟩
      by_cases isStrategy : name = Field.logicConfig
      · rw [ValueRespelled, ← isStrategy, if_pos spells] at value
        rw [if_pos isStrategy]
        exact value
      · have notSpelled : ¬ Field.logicConfig.spells entry.1 = true := fun strategySpells =>
          isStrategy (distinct.eq_of_spells isField (by decide) spells strategySpells)
        rw [ValueRespelled, if_neg notSpelled] at value
        rw [if_neg isStrategy]
        exact value

/-- Respelled payloads are checked alike. -/
theorem alike_ofRecord
    (respelled : Respelled first second)
    (once : SpelledOnce first) :
    Alike nestedFieldNames (ofRecord first) (ofRecord second) := by
  have given
      (name : FieldName)
      (member : name ∈ fieldNames)
      (notStrategy : name ≠ Field.logicConfig) :
      name.GivenAlike nestedFieldNames first second := by
    have found := found?_respelled respelled once name member
    rw [if_neg notStrategy] at found
    exact found
  have strategy : Alike nestedFieldNames
      (Field.logicConfig.required Strategy.ofValue first)
      (Field.logicConfig.required Strategy.ofValue second) := by
    refine alike_required (found?_respelled respelled once _ (by decide)) ?_
    intro key value other found values
    rw [if_pos rfl] at values
    refine Strategy.alike_ofValue values (once.inside value ?_)
    rw [Composition.givenStrategy?_eq_found?, found]
    rfl
  exact .withFaults
    (.and (.and (.and (.and (.and (.and (.and (.and
      (.map (given Field.indicatorName (by decide) (by decide)).required)
      (given Field.indicatorCode (by decide) (by decide)).optional)
      (given Field.timeframeExpression (by decide) (by decide)).optional)
      (given Field.lots (by decide) (by decide)).optional)
      (given Field.slippage (by decide) (by decide)).optional)
      (given Field.stopLoss (by decide) (by decide)).optional)
      (given Field.takeProfit (by decide) (by decide)).optional)
      (given Field.magicNumber (by decide) (by decide)).optional)
      strategy)
    (strayFaults_respelled (strayEntries_respelled areDistinct_nestedFieldNames
      fieldNames_subset respelled once.outside))

/-- The check of the kind, which looks the strategy up on its own, treats spellings alike. -/
theorem kindUnknown_respelled
    (respelled : Respelled first second)
    (once : SpelledOnce first) :
    Composition.KindUnknown first ↔ Composition.KindUnknown second := by
  have given := found?_respelled respelled once Field.logicConfig (by decide)
  rw [if_pos rfl] at given
  rw [Composition.KindUnknown, Composition.KindUnknown, Composition.givenStrategy?_eq_found?,
    Composition.givenStrategy?_eq_found?]
  generalize Field.logicConfig.found? first = found at given
  generalize Field.logicConfig.found? second = otherFound at given
  cases given with
  | none => rfl
  | @some entry other entries =>
      obtain ⟨key, value⟩ := entry
      obtain ⟨otherKey, otherValue⟩ := other
      obtain ⟨_, values⟩ := entries
      cases values with
      | same => rfl
      | @record strategy otherStrategy strategies =>
          have sameKind :=
            get?_respelled "kind" areDistinct_nestedFieldNames (by decide) strategies
          simp [Value.namedFields?, sameKind]

/--
Whatever keys of a payload and of the strategy in it are respelled, it is
accepted as before, as the same payload and with the same outcome of its
composition, or it is refused as before: with the same faults, one by one, and
with a failure of the same class.
-/
theorem respelled_agrees
    (respelled : Respelled first second)
    (once : SpelledOnce first)
    (given : Option (List Parameter)) :
    (∀ payload, ofRecord first = .accepted payload ↔ ofRecord second = .accepted payload) ∧
    (∀ payload, ofRecord first = .accepted payload →
      Composition.ofValue (.record first) given = Composition.ofValue (.record second) given) ∧
    (∀ fault more, ofRecord first = .refused fault more →
      ∃ other others, ofRecord second = .refused other others ∧
        List.Forall₂ (Fault.Respelled nestedFieldNames) (fault :: more) (other :: others) ∧
        ∃ refusal otherRefusal,
          Composition.ofValue (.record first) given = .error refusal ∧
          Composition.ofValue (.record second) given = .error otherRefusal ∧
          refusal.className = otherRefusal.className) := by
  have alike := alike_ofRecord respelled once
  have kinds := kindUnknown_respelled respelled once
  refine ⟨fun payload => alike.eq_accepted_iff, fun payload accepted => ?_,
    fun fault more refused => ?_⟩
  · rw [Composition.ofValue_of_accepted accepted,
      Composition.ofValue_of_accepted (alike.eq_accepted_iff.mp accepted)]
  · obtain ⟨other, others, otherRefused, faults⟩ := alike.exists_refused refused
    refine ⟨other, others, otherRefused, faults, ?_⟩
    have failure := Composition.ofValue_of_refused refused given
    have otherFailure := Composition.ofValue_of_refused otherRefused given
    rcases failure with ⟨unknown, _, failed⟩ | ⟨known, failed⟩
    · obtain ⟨_, _, otherFailed⟩ :=
        otherFailure.resolve_right fun named => named.1 (kinds.mp unknown)
      exact ⟨_, _, failed, otherFailed, rfl⟩
    · obtain ⟨_, otherFailed⟩ :=
        otherFailure.resolve_left fun unnamed => known (kinds.mpr unnamed.1)
      exact ⟨_, _, failed, otherFailed, rfl⟩

/-- A payload that is spelled partly in one way and partly in the other. -/
def mixedRecord : Record :=
  [("indicatorName", .text "Trend"), ("stop_loss", .text "70"),
    ("logic_config", .record
      [("kind", .text "crossover"), ("fastBuffer", .integer 2), ("reverse_signal", .boolean true)])]

/-- The same payload with every key that has two spellings respelled. -/
def exchangedRecord : Record :=
  [("indicator_name", .text "Trend"), ("stopLoss", .text "70"),
    ("logicConfig", .record
      [("kind", .text "crossover"), ("fast_buffer", .integer 2), ("reverseSignal", .boolean true)])]

/-- The payload that both records describe. -/
def mixedPayload : Payload where
  indicatorName := ⟨"Trend", by decide, by decide⟩
  indicatorCode := ""
  timeframe := chartTimeframe
  lots := tenthOfLot
  slippage := standardSlippage
  stopLoss := 70
  takeProfit := 0
  magicNumber := standardMagicNumber
  strategy := .crossover ⟨2, 1, false, true⟩

/-- A payload spelled in both ways is composed as with all its spellings exchanged. -/
theorem respelled_agrees_mixedRecord :
    Respelled mixedRecord exchangedRecord ∧ SpelledOnce mixedRecord ∧
      ofRecord exchangedRecord = .accepted mixedPayload ∧
      Composition.ofValue (.record mixedRecord) none =
        Composition.ofValue (.record exchangedRecord) none := by
  have inside : Record.Respelled nestedFieldNames (fun _ => Eq)
      [("kind", .text "crossover"), ("fastBuffer", .integer 2), ("reverse_signal", .boolean true)]
      [("kind", .text "crossover"), ("fast_buffer", .integer 2),
        ("reverseSignal", .boolean true)] :=
    .cons ⟨.inl rfl, rfl⟩
      (.cons ⟨.inr ⟨Field.fastBuffer, by decide, by decide, by decide⟩, rfl⟩
        (.cons ⟨.inr ⟨Field.reverseSignal, by decide, by decide, by decide⟩, rfl⟩ .nil))
  have respelled : Respelled mixedRecord exchangedRecord :=
    .cons ⟨.inr ⟨Field.indicatorName, by decide, by decide, by decide⟩, rfl⟩
      (.cons ⟨.inr ⟨Field.stopLoss, by decide, by decide, by decide⟩, rfl⟩
        (.cons ⟨.inr ⟨Field.logicConfig, by decide, by decide, by decide⟩, .record inside⟩
          .nil))
  have once : SpelledOnce mixedRecord := by
    refine ⟨by decide, ?_⟩
    rintro _ given fields kind rfl named
    cases given
    cases kind with
    | crossover => decide
    | threshold => exact absurd named (by decide)
    | custom => exact absurd named (by decide)
  have accepted : ofRecord mixedRecord = .accepted mixedPayload := by
    decide +kernel
  obtain ⟨same, outcomes, _⟩ := respelled_agrees respelled once none
  exact ⟨respelled, once, (same _).mp accepted, outcomes _ accepted⟩

end Payload

end ExpertAdvisor

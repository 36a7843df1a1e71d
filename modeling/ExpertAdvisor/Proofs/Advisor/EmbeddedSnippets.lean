import ExpertAdvisor.Proofs.Payload.FittingPayloads
import ExpertAdvisor.Proofs.Payload.GivenFields

namespace ExpertAdvisor

open Advisor

/-!
# Embedded snippets

A snippet is the body of the tick function as it is.  Every text is accepted as
a snippet, and nothing in front of the tick function depends on it.
-/

/-- The tick function around a snippet. -/
def tickFunction (snippet : String) : String :=
  "void OnTick()\n\x7b\n" ++ snippet ++ "\n\x7d\n"

namespace Advisor.Scaffold

/-- The text in front of the tick function: all other sections. -/
def front (scaffold : Scaffold) : String :=
  "\n\n".intercalate (scaffold.sections.dropLast.map Text.joinLines) ++ "\n\n"

/-- An expert advisor ends with its tick function. -/
theorem text_eq (scaffold : Scaffold) :
    scaffold.text = scaffold.front ++ Text.joinLines scaffold.tickLines ++ "\n" := by
  rw [text, front, sections]
  split <;> simp [String.intercalate_cons_cons, String.append_assoc]

end Advisor.Scaffold

namespace Payload

/-- The payload with a strategy of the user's own, which is the given snippet. -/
def withSnippet
    (payload : Payload)
    (snippet : String) : Payload :=
  { payload with strategy := .custom snippet }

variable {payload : Payload} {parameters : List Parameter} {snippet : String}

/-- A payload's tick function is the function around its snippet. -/
theorem tickLines_withSnippet :
    Text.joinLines ((payload.withSnippet snippet).scaffold parameters).tickLines ++ "\n" =
      tickFunction snippet := by
  have opening : "void OnTick()\n\x7b\n" = "void OnTick()\n" ++ "\x7b\n" := by decide
  have shape : tickFunction snippet = "void OnTick()\n" ++ "\x7b\n" ++ snippet ++ "\n\x7d\n" :=
    congrArg (fun start => start ++ snippet ++ "\n\x7d\n") opening
  rw [shape]
  simp [-String.reduceAppend, Text.joinLines, Scaffold.tickLines, scaffold, withSnippet,
    Strategy.fragment, String.intercalate_cons_cons, String.append_assoc]
  rfl

/-- The text in front of the tick function is the same for every snippet. -/
theorem text_withSnippet
    (payload : Payload)
    (parameters : List Parameter)
    (snippet : String) :
    ((payload.withSnippet snippet).scaffold parameters).text =
      ((payload.withSnippet "").scaffold parameters).front ++ tickFunction snippet := by
  let own := (payload.withSnippet snippet).scaffold parameters
  calc own.text
    _ = own.front ++ Text.joinLines own.tickLines ++ "\n" := own.text_eq
    _ = own.front ++ (Text.joinLines own.tickLines ++ "\n") := String.append_assoc
    _ = own.front ++ tickFunction snippet := congrArg (own.front ++ ·) tickLines_withSnippet

/-- What is composed for a snippet is the same front for every snippet, and the tick function. -/
theorem compose_withSnippet
    {payload : Payload}
    {given : Option (List Parameter)}
    (noClashes : Parameter.clashes (payload.effectiveParameters given) = [])
    (snippet : String) :
    (payload.withSnippet snippet).compose given =
      .ok (((payload.withSnippet "").scaffold (payload.effectiveParameters given)).front ++
        tickFunction snippet) :=
  composeWith_eq_ok_iff.mpr ⟨noClashes, text_withSnippet payload _ snippet⟩

end Payload

/-! Records with another snippet. -/

/-- A strategy with the given snippet in place of its own. -/
def Value.withSnippet (snippet : String) : Value → Value
  | .record fields => .record (Record.insert fields Field.snippet.camel (.text snippet))
  | other => other

namespace Record

/-- A payload's record with the given snippet in its strategy, under whichever spelling. -/
def withSnippet
    (snippet : String)
    (record : Record) : Record :=
  record.map fun entry =>
    (entry.1, if Field.logicConfig.spells entry.1 then entry.2.withSnippet snippet else entry.2)

variable {record other : Record} {key snippet : String} {name : FieldName}
  {known : List FieldName}

/-- Only the strategy of a record changes with its snippet. -/
theorem get?_withSnippet
    (snippet : String)
    (record : Record)
    (key : String) :
    get? (record.withSnippet snippet) key =
      (get? record key).map fun value =>
        if Field.logicConfig.spells key then value.withSnippet snippet else value :=
  get?_map_values
    (fun key value => if Field.logicConfig.spells key then value.withSnippet snippet else value)
    record key

theorem names_withSnippet : (record.withSnippet snippet).names = record.names := by
  rw [names, names, withSnippet, List.map_map]
  rfl

theorem has_iff_mem_names : has record key = true ↔ key ∈ record.names := by
  simp [has, names]

theorem names_insert_of_has
    (isKnown : has record key = true)
    (value : Value) :
    names (insert record key value) = record.names := by
  rw [insert, if_pos isKnown, names, names, List.map_map]
  refine List.map_congr_left fun entry _ => ?_
  by_cases here : entry.1 = key
  · simp [here]
  · simp [here]

/-- The key under which a field is found depends on the keys alone. -/
theorem key_found? (name : FieldName) (record : Record) :
    (name.found? record).map Prod.fst =
      if has record name.camel then some name.camel
      else if has record name.snake then some name.snake
      else none := by
  rw [FieldName.found?, has_eq_isSome_get?, has_eq_isSome_get?]
  cases get? record name.camel <;> cases get? record name.snake <;> rfl

/-- Which entries are stray depends on the keys alone. -/
theorem noStrays_of_names
    (sameNames : other.names = record.names)
    (noStrays : FieldName.strayEntries known record = []) :
    FieldName.strayEntries known other = [] := by
  have sameHas (key : String) : has other key = has record key := by
    rw [Bool.eq_iff_iff, has_iff_mem_names, has_iff_mem_names, sameNames]
  have sameKeys : FieldName.foundKeys known other = FieldName.foundKeys known record := by
    simp only [FieldName.foundKeys, key_found?, sameHas]
  rw [FieldName.strayEntries, List.filter_eq_nil_iff] at noStrays ⊢
  intro entry member
  have isName : entry.1 ∈ record.names := by
    rw [← sameNames]
    exact List.mem_map_of_mem member
  obtain ⟨same, isEntry, sameName⟩ := List.mem_map.mp isName
  rw [sameKeys, ← sameName]
  exact noStrays same isEntry

/-- Other fields are found as before. -/
theorem found?_withSnippet_of_other
    (camel : Field.logicConfig.spells name.camel = false)
    (snake : Field.logicConfig.spells name.snake = false) :
    name.found? (record.withSnippet snippet) = name.found? record := by
  rw [FieldName.found?, FieldName.found?, get?_withSnippet, get?_withSnippet, camel, snake]
  simp

theorem found?_withSnippet_logicConfig :
    Field.logicConfig.found? (record.withSnippet snippet) =
      (Field.logicConfig.found? record).map fun found =>
        (found.1, found.2.withSnippet snippet) := by
  rw [FieldName.found?, FieldName.found?, get?_withSnippet, get?_withSnippet,
    FieldName.spells_camel, FieldName.spells_snake]
  cases get? record Field.logicConfig.camel <;> cases get? record Field.logicConfig.snake <;> rfl

end Record

section Acceptance

variable {record : Record} {payload : Payload} {name : FieldName} {check : Value → Checked α}

/-- Whether a required field is accepted depends on what is found of it. -/
theorem FieldName.required_congr
    {other : Record}
    {value : α}
    (sameFound : name.found? other = name.found? record)
    (accepted : name.required check record = .accepted value) :
    name.required check other = .accepted value := by
  obtain ⟨key, given, found, valueAccepted⟩ := found?_of_required accepted
  exact (required_eq_accepted_iff (sameFound.trans found)).mpr valueAccepted

/-- What an optional field is read as depends on what is found of it. -/
theorem FieldName.optional_congr
    {other : Record}
    {absent : α}
    (sameFound : name.found? other = name.found? record) :
    name.optional check absent other = name.optional check absent record := by
  rw [optional, optional, sameFound]

/-- A custom strategy is accepted with every text as its snippet. -/
theorem Strategy.ofValue_withSnippet
    {value : Value}
    {strategy : Strategy}
    (accepted : ofValue value = .accepted strategy)
    (isCustom : strategy.kind = .custom)
    (snippet : String) :
    ofValue (value.withSnippet snippet) = .accepted (.custom snippet) := by
  obtain ⟨fields, rfl, named⟩ := named_of_accepted accepted
  rw [isCustom] at named
  rw [ofValue_of_named named, Checked.under_eq_accepted_iff] at accepted
  obtain ⟨old, oldAccepted, rfl⟩ := Checked.map_eq_accepted_iff.mp accepted
  obtain ⟨kind, isSnippet, noStrays⟩ := snippetOfRecord_eq_accepted_iff.mp oldAccepted
  let changed := Record.insert fields Field.snippet.camel (.text snippet)
  have get?_changed (key : String) : Record.get? changed key =
      if Field.snippet.camel = key then some (.text snippet) else Record.get? fields key :=
    Record.get?_insert fields _ key _
  have stillNamed : Record.get? changed "kind" = some (.text StrategyKind.custom.name) := by
    rw [get?_changed, if_neg (by decide), named]
  have hasSnippet : Record.has fields Field.snippet.camel = true := by
    obtain ⟨key, given, found, _⟩ := FieldName.found?_of_required isSnippet
    rw [Record.has_eq_isSome_get?]
    cases missing : Record.get? fields Field.snippet.camel with
    | none =>
        have oneSpelling : Field.snippet.snake = Field.snippet.camel := rfl
        rw [FieldName.found?, oneSpelling, missing] at found
        contradiction
    | some value => rfl
  rw [Value.withSnippet, ofValue_of_named stillNamed, Checked.under_eq_accepted_iff]
  refine Checked.map_eq_accepted_iff.mpr ⟨snippet, ?_, rfl⟩
  refine snippetOfRecord_eq_accepted_iff.mpr ⟨?_, ?_, ?_⟩
  · have sameKind : Field.kind.found? changed = Field.kind.found? fields := by
      rw [FieldName.found?, FieldName.found?, get?_changed, get?_changed, if_neg (by decide),
        if_neg (by decide)]
    rw [FieldName.optional_congr sameKind, kind]
  · have found : Field.snippet.found? changed = some (Field.snippet.camel, .text snippet) := by
      rw [FieldName.found?, get?_changed, if_pos rfl]
    exact (FieldName.required_eq_accepted_iff found).mpr rfl
  · exact Record.noStrays_of_names (Record.names_insert_of_has hasSnippet _) noStrays

/-- A payload with a custom strategy is accepted with every text as its snippet. -/
theorem Payload.ofRecord_withSnippet
    (accepted : Payload.ofRecord record = .accepted payload)
    (isCustom : payload.strategy.kind = .custom)
    (snippet : String) :
    Payload.ofRecord (record.withSnippet snippet) = .accepted (payload.withSnippet snippet) := by
  obtain ⟨indicatorName, code, timeframe, lots, slippage, stopLoss, takeProfit, magicNumber,
    strategy, noStrays⟩ := ofRecord_eq_accepted_iff.mp accepted
  have same (name : FieldName) (camel : Field.logicConfig.spells name.camel = false)
      (snake : Field.logicConfig.spells name.snake = false) :
      name.found? (record.withSnippet snippet) = name.found? record :=
    Record.found?_withSnippet_of_other camel snake
  obtain ⟨key, value, found, valueAccepted⟩ := FieldName.found?_of_required strategy
  have refound : Field.logicConfig.found? (record.withSnippet snippet) =
      some (key, value.withSnippet snippet) := by
    rw [Record.found?_withSnippet_logicConfig, found]
    rfl
  refine ofRecord_eq_accepted_iff.mpr ⟨?_, ?_, ?_, ?_, ?_, ?_, ?_, ?_, ?_, ?_⟩
  · exact FieldName.required_congr (same _ (by decide) (by decide)) indicatorName
  · exact (FieldName.optional_congr (same _ (by decide) (by decide))).trans code
  · exact (FieldName.optional_congr (same _ (by decide) (by decide))).trans timeframe
  · exact (FieldName.optional_congr (same _ (by decide) (by decide))).trans lots
  · exact (FieldName.optional_congr (same _ (by decide) (by decide))).trans slippage
  · exact (FieldName.optional_congr (same _ (by decide) (by decide))).trans stopLoss
  · exact (FieldName.optional_congr (same _ (by decide) (by decide))).trans takeProfit
  · exact (FieldName.optional_congr (same _ (by decide) (by decide))).trans magicNumber
  · exact (FieldName.required_eq_accepted_iff refound).mpr
      (Strategy.ofValue_withSnippet valueAccepted isCustom snippet)
  · exact Record.noStrays_of_names Record.names_withSnippet noStrays

/-- A record from which an expert advisor of the user's own strategy is composed. -/
structure Record.ComposesCustom
    (record : Record)
    (payload : Payload)
    (given : Option (List Parameter)) : Prop where
  accepted : Payload.ofRecord record = .accepted payload
  custom : payload.strategy.kind = .custom
  noClashes : Parameter.clashes (payload.effectiveParameters given) = []

/-- A record from which a text is composed gives the same text in front of every snippet. -/
theorem Record.ComposesCustom.exists_front
    {given : Option (List Parameter)}
    (composes : record.ComposesCustom payload given) :
    ∃ front, ∀ snippet,
      Composition.ofValue (.record (record.withSnippet snippet)) given =
        .ok (front ++ tickFunction snippet) := by
  obtain ⟨accepted, isCustom, noClashes⟩ := composes
  refine ⟨((payload.withSnippet "").scaffold (payload.effectiveParameters given)).front,
    fun snippet => ?_⟩
  rw [Composition.ofValue_of_accepted (Payload.ofRecord_withSnippet accepted isCustom snippet)]
  exact Payload.compose_withSnippet noClashes snippet

end Acceptance

end ExpertAdvisor

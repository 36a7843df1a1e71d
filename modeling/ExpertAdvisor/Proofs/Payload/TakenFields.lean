import Mathlib.Data.List.Nodup
import ExpertAdvisor.Proofs.Payload.FittingPayloads

namespace ExpertAdvisor

/-!
# Fields that are taken over

A document that gives a field once may have faults in other fields.  The field
itself has none when its value is admitted, and what is accepted in the end
holds the content of that value.
-/

/-- The path of a fault begins with a spelling of a field. -/
def Fault.Concerns
    (fault : Fault)
    (name : FieldName) : Prop :=
  ∃ key rest, fault.path = .key key :: rest ∧ name.spells key = true

/--
However a document gives a field this value, if it does so once, no fault concerns
the field, and whatever is accepted stores the content.
-/
def FieldName.TakenOver
    (name : FieldName)
    (value : Value)
    (check : Record → Checked α)
    (stored : α → β)
    (content : β) : Prop :=
  ∀ document, name.SpelledOnce document → name.Gives document value →
    (∀ fault ∈ (check document).faults, ¬ fault.Concerns name) ∧
      ∀ model, check document = .accepted model → stored model = content

/-- What is read off a stored content is stored as well. -/
theorem FieldName.TakenOver.map
    {name : FieldName}
    {value : Value}
    {check : Record → Checked α}
    {stored : α → β}
    {content : β}
    (taken : name.TakenOver value check stored content)
    (read : β → γ) :
    name.TakenOver value check (fun model => read (stored model)) (read content) := by
  intro document once gives
  obtain ⟨noFaults, stores⟩ := taken document once gives
  exact ⟨noFaults, fun model accepted => congrArg read (stores model accepted)⟩

variable {names : List FieldName} {name : FieldName} {record : Record} {value : Value}
  {rules : List FieldRule} {rule : FieldRule} {fault : Fault}

namespace FieldName

/-- A field that is given once is found. -/
theorem exists_found?_of_once
    (once : name.SpelledOnce record)
    (gives : name.Gives record value) :
    ∃ key, name.found? record = some (key, value) := by
  have fromKey (key : String) (spells : name.spells key = true)
      (given : Record.get? record key = some value) :
      ∃ key, name.found? record = some (key, value) := by
    obtain ⟨entry, found, isValue⟩ := Option.map_eq_some_iff.mp given
    have isKey : entry.1 = key := by simpa using List.find?_some found
    have member := List.mem_of_find?_eq_some found
    rw [← isKey] at spells
    refine ⟨entry.1, ?_⟩
    rw [found?_eq_find? once, once.find?_eq_some member spells, ← isValue]
  rcases gives with camelGiven | snakeGiven
  · exact fromKey _ spells_camel camelGiven
  · exact fromKey _ spells_snake snakeGiven

/-- No key of a field that is given once is surplus. -/
theorem not_isSurplus_of_once
    {entry : String × Value}
    (distinct : AreDistinct names)
    (nameMember : name ∈ names)
    (once : name.SpelledOnce record)
    (member : entry ∈ record)
    (spells : name.spells entry.1 = true) :
    ¬ IsSurplus names record entry.1 := by
  rintro (unknown | ⟨other, otherMember, isSnake, notCamel, camelGiven⟩)
  · exact Bool.false_ne_true ((unknown name nameMember).symm.trans spells)
  · obtain rfl :=
      distinct.eq_of_spells nameMember otherMember spells (spells_iff.mpr (.inr isSnake))
    -- The entry in camel case would be a second one that spells the field.
    obtain ⟨second, secondMember, isCamel⟩ := List.any_eq_true.mp camelGiven
    have secondSpells : name.spells second.1 = true := by
      rw [beq_iff_eq.mp isCamel]
      exact spells_camel
    have same := (once.find?_eq_some member spells).symm.trans
      (once.find?_eq_some secondMember secondSpells)
    rw [Option.some.inj same] at notCamel
    exact notCamel (beq_iff_eq.mp isCamel)

end FieldName

/-- What a rule reports concerns the rule's own field. -/
theorem FieldRule.concerns_of_mem_faultsIn (reported : fault ∈ rule.faultsIn record) :
    fault.Concerns rule.name := by
  rw [faultsIn, FieldName.faultsIn] at reported
  cases found : rule.name.found? record with
  | some entry =>
      rw [found] at reported
      obtain ⟨inner, _, rfl⟩ := List.mem_map.mp reported
      exact ⟨entry.1, inner.path, rfl, FieldName.spells_iff.mpr (FieldName.key_of_found? found)⟩
  | none =>
      rw [found] at reported
      dsimp only at reported
      split at reported
      · obtain rfl := List.mem_singleton.mp reported
        exact ⟨rule.name.camel, [], rfl, FieldName.spells_camel⟩
      · exact absurd reported List.not_mem_nil

/-- A fault concerns at most one of distinct fields. -/
theorem Fault.Concerns.eq_of_distinct
    {other : FieldName}
    (concerns : fault.Concerns name)
    (concernsOther : fault.Concerns other)
    (distinct : FieldName.AreDistinct names)
    (member : name ∈ names)
    (otherMember : other ∈ names) :
    name = other := by
  obtain ⟨key, rest, isPath, spells⟩ := concerns
  obtain ⟨otherKey, otherRest, isOtherPath, otherSpells⟩ := concernsOther
  obtain ⟨sameStep, _⟩ := List.cons.inj (isPath.symm.trans isOtherPath)
  rw [← Step.key.inj sameStep] at otherSpells
  exact distinct.eq_of_spells member otherMember spells otherSpells

/-- Nothing that rules report concerns a field whose value is admitted and given once. -/
theorem Record.not_concerns_of_admitted
    (distinct : FieldName.AreDistinct (rules.map FieldRule.name))
    (eachOnce : (rules.map FieldRule.name).Nodup)
    (member : rule ∈ rules)
    (once : rule.name.SpelledOnce record)
    (gives : rule.name.Gives record value)
    (admitted : rule.Admits value) :
    ∀ fault ∈ Record.faults rules record, ¬ fault.Concerns rule.name := by
  intro fault reported concerns
  have nameMember : rule.name ∈ rules.map FieldRule.name := List.mem_map_of_mem member
  rcases List.mem_append.mp reported with ofField | ofKey
  · obtain ⟨other, otherMember, ofOther⟩ := List.mem_flatMap.mp ofField
    have sameName := concerns.eq_of_distinct (FieldRule.concerns_of_mem_faultsIn ofOther) distinct
      nameMember (List.mem_map_of_mem otherMember)
    obtain rfl := List.inj_on_of_nodup_map eachOnce member otherMember sameName
    obtain ⟨key, found⟩ := FieldName.exists_found?_of_once once gives
    have noFaults : rule.faultsIn record = [] := by
      rw [FieldRule.faultsIn_eq_nil_iff, found]
      refine ⟨fun _ => ⟨key, value, rfl⟩, fun _ _ same => ?_⟩
      obtain ⟨_, rfl⟩ := Prod.mk.inj (Option.some.inj same)
      exact admitted
    rw [noFaults] at ofOther
    exact List.not_mem_nil ofOther
  · obtain ⟨entry, surplus, rfl⟩ := List.mem_map.mp ofKey
    obtain ⟨entryMember, isSurplus⟩ := List.mem_filter.mp surplus
    obtain ⟨key, rest, isPath, spells⟩ := concerns
    obtain ⟨sameStep, _⟩ := List.cons.inj isPath
    rw [← Step.key.inj sameStep] at spells
    exact FieldName.not_isSurplus_of_once distinct nameMember once entryMember spells
      (of_decide_eq_true isSurplus)

/-- An optional field whose value passes its check is taken over. -/
theorem FieldName.takenOver_of_check
    {Admits : Value → Prop}
    {single : Value → Checked β}
    {accepted_iff : ∀ value, (∃ content, single value = .accepted content) ↔ Admits value}
    {check : Record → Checked α}
    {stored : α → β}
    {content absent : β}
    (distinct : AreDistinct (rules.map FieldRule.name))
    (eachOnce : (rules.map FieldRule.name).Nodup)
    (faults_check : ∀ document, (check document).faults = Record.faults rules document)
    (member : FieldRule.ofCheck name false single Admits accepted_iff ∈ rules)
    (part : ∀ document model, check document = .accepted model →
      name.optional single absent document = .accepted (stored model))
    (passes : single value = .accepted content) :
    name.TakenOver value check stored content := by
  intro document once gives
  constructor
  · rw [faults_check]
    exact Record.not_concerns_of_admitted distinct eachOnce member once gives
      ((accepted_iff value).mp ⟨content, passes⟩)
  · intro model accepted
    obtain ⟨key, found⟩ := exists_found?_of_once once gives
    have storedAccepted := (optional_eq_accepted_iff found).mp (part document model accepted)
    exact Checked.accepted.inj (storedAccepted.symm.trans passes)

end ExpertAdvisor

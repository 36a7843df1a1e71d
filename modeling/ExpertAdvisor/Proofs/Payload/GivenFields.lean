import ExpertAdvisor.Command.Configuration
import ExpertAdvisor.Proofs.Payload.Acceptance

namespace ExpertAdvisor

open Command

/-!
# Given fields

A document may give a field under either spelling.  Where no entry of it is
stray, the two ways to look a field up, camel case first and snake case first,
find the same value.
-/

namespace Record

/-- A record gives the value of its first field, and those of the rest under other names. -/
theorem get?_cons
    (field : String × Value)
    (rest : Record)
    (name : String) :
    get? (field :: rest) name = if field.1 = name then some field.2 else get? rest name := by
  rw [get?, List.find?_cons]
  by_cases here : field.1 = name
  · simp [here]
  · simp [beq_false_of_ne here, here, get?]

/-- The first of two records that gives a name counts. -/
theorem get?_append
    (first second : Record)
    (name : String) :
    get? (first ++ second) name = (get? first name).or (get? second name) := by
  rw [get?, List.find?_append, Option.map_or]
  rfl

theorem has_eq_isSome_get?
    (record : Record)
    (name : String) :
    has record name = (get? record name).isSome := by
  rw [has, get?, Option.isSome_map, List.isSome_find?]

/-- Replacing values changes what a record gives under their name. -/
theorem get?_replaced
    (record : Record)
    (name other : String)
    (value : Value) :
    get? (record.map fun field => if field.1 == name then (name, value) else field) other =
      if name = other then (get? record other).map fun _ => value else get? record other := by
  induction record with
  | nil => simp [get?]
  | cons field rest inductionHypothesis =>
      rw [List.map_cons, get?_cons, get?_cons, inductionHypothesis]
      by_cases same : name = other
      · subst same
        by_cases here : field.1 = name <;> simp [here]
      · by_cases isField : field.1 = name <;> simp [isField, same]

/-- Values that are replaced key by key are found under the same keys. -/
theorem get?_map_values
    (change : String → Value → Value)
    (record : Record)
    (key : String) :
    get? (record.map fun entry => (entry.1, change entry.1 entry.2)) key =
      (get? record key).map (change key) := by
  induction record with
  | nil => rfl
  | cons entry rest inductionHypothesis =>
      rw [List.map_cons, get?_cons, get?_cons, inductionHypothesis]
      by_cases here : entry.1 = key
      · rw [if_pos here, if_pos here, Option.map_some, here]
      · rw [if_neg here, if_neg here]

/-- A record in which a field is given a value has that value there, and the others as before. -/
theorem get?_insert
    (record : Record)
    (name other : String)
    (value : Value) :
    get? (insert record name value) other =
      if name = other then some value else get? record other := by
  rw [insert, has_eq_isSome_get?]
  cases known : get? record name with
  | some old =>
      rw [Option.isSome_some, if_pos rfl, get?_replaced]
      split
      case isTrue same => rw [← same, known, Option.map_some]
      case isFalse => rfl
  | none =>
      rw [Option.isSome_none, if_neg Bool.false_ne_true, get?_append, get?_cons]
      split
      case isTrue same => rw [← same, known, Option.none_or]
      case isFalse => exact Option.or_none

end Record

namespace FieldName

/-- A record gives a field a value under one of the field's spellings. -/
def Gives
    (name : FieldName)
    (record : Record)
    (value : Value) : Prop :=
  Record.get? record name.camel = some value ∨ Record.get? record name.snake = some value

/-- No two of the fields share a spelling. -/
def AreApart (names : List FieldName) : Prop :=
  ∀ name ∈ names, ∀ other ∈ names,
    name.snake = other.camel ∨ name.snake = other.snake → name = other

/-- Whether names are apart can be decided. -/
instance (names : List FieldName) : Decidable (AreApart names) :=
  inferInstanceAs (Decidable (∀ name ∈ names, ∀ other ∈ names, _))

variable {names : List FieldName} {name : FieldName} {record : Record} {value : Value}

/-- A field is found under one of its spellings. -/
theorem key_of_found?
    {key : String}
    (found : name.found? record = some (key, value)) :
    key = name.camel ∨ key = name.snake := by
  rw [found?] at found
  split at found
  · exact .inl (Prod.mk.inj (Option.some.inj found)).1.symm
  · obtain ⟨_, _, same⟩ := Option.map_eq_some_iff.mp found
    exact .inr (Prod.mk.inj same).1.symm

/-- Without stray entries a field that is given under both spellings is spelled in one way. -/
theorem snake_eq_camel_of_both
    (apart : AreApart names)
    (member : name ∈ names)
    (noStrays : strayEntries names record = [])
    {camelValue snakeValue : Value}
    (camelGiven : Record.get? record name.camel = some camelValue)
    (snakeGiven : Record.get? record name.snake = some snakeValue) :
    name.snake = name.camel := by
  obtain ⟨entry, found, _⟩ := Option.map_eq_some_iff.mp snakeGiven
  have isSnake : entry.1 = name.snake := by simpa using List.find?_some found
  have known := List.filter_eq_nil_iff.mp noStrays entry (List.mem_of_find?_eq_some found)
  rw [isSnake, Bool.not_eq_true', Bool.not_eq_false, List.contains_iff_mem, foundKeys,
    List.mem_filterMap] at known
  obtain ⟨other, isOther, keyed⟩ := known
  obtain ⟨⟨key, given⟩, otherFound, isKey⟩ := Option.map_eq_some_iff.mp keyed
  -- The entry in snake case counts as known only if it gives the field that was looked for.
  obtain rfl : name = other := by
    refine apart name member other isOther ?_
    rw [← isKey]
    exact key_of_found? otherFound
  rw [found?, camelGiven] at otherFound
  rw [← isKey, ← (Prod.mk.inj (Option.some.inj otherFound)).1]

/-- Without stray entries a given field is found, whichever spelling counts first. -/
theorem found_of_gives
    (apart : AreApart names)
    (member : name ∈ names)
    (noStrays : strayEntries names record = [])
    (gives : name.Gives record value) :
    (∃ key, name.found? record = some (key, value)) ∧ configured record name = value := by
  rw [found?, configured]
  cases camelGiven : Record.get? record name.camel with
  | none =>
      have snakeGiven := gives.resolve_left (by simp [camelGiven])
      simp [snakeGiven]
  | some camelValue =>
      cases snakeGiven : Record.get? record name.snake with
      | none =>
          have same := camelGiven.symm.trans (gives.resolve_right (by simp [snakeGiven]))
          simp [Option.some.inj same]
      | some snakeValue =>
          have oneSpelling := snake_eq_camel_of_both apart member noStrays camelGiven snakeGiven
          rw [Gives, oneSpelling, or_self, camelGiven] at gives
          rw [oneSpelling, camelGiven] at snakeGiven
          rw [← snakeGiven, gives]
          simp

end FieldName

end ExpertAdvisor

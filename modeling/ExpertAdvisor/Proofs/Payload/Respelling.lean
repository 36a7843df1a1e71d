import Mathlib.Data.List.Forall2
import ExpertAdvisor.Proofs.Payload.GivenFields
import ExpertAdvisor.Proofs.Payload.ShownParts

namespace ExpertAdvisor

/-!
# Respelled records

A record may spell each of its keys in camel case or in snake case.  As long as
no field is given twice, exchanging the spelling of any of the keys changes
neither which entry gives a field nor which entries give none.
-/

namespace FieldName

/-- Whether a key is one of the spellings of a field. -/
def spells
    (name : FieldName)
    (key : String) : Bool :=
  key == name.camel || key == name.snake

/-- At most one entry of a record gives a field. -/
def SpelledOnce
    (name : FieldName)
    (record : Record) : Prop :=
  (record.filter fun entry => name.spells entry.1).length ≤ 1

/-- Whether a field is spelled once can be decided. -/
instance (name : FieldName) (record : Record) : Decidable (name.SpelledOnce record) :=
  inferInstanceAs (Decidable (_ ≤ 1))

/-- No key spells two of the fields. -/
def AreDistinct (names : List FieldName) : Prop :=
  ∀ name ∈ names, ∀ other ∈ names,
    name.spells other.camel = true ∨ name.spells other.snake = true → name = other

/-- Whether names are distinct can be decided. -/
instance (names : List FieldName) : Decidable (AreDistinct names) :=
  inferInstanceAs (Decidable (∀ name ∈ names, ∀ other ∈ names, _))

/-- Two keys are the same, or they spell the same field. -/
def Respells
    (names : List FieldName)
    (key other : String) : Prop :=
  key = other ∨ ∃ name ∈ names, name.spells key = true ∧ name.spells other = true

variable {name : FieldName} {names : List FieldName} {record : Record} {key other : String}

/-- A key spells a field when it is one of its names. -/
theorem spells_iff : name.spells key = true ↔ key = name.camel ∨ key = name.snake := by
  simp [spells]

theorem spells_camel : name.spells name.camel = true :=
  spells_iff.mpr (.inl rfl)

theorem spells_snake : name.spells name.snake = true :=
  spells_iff.mpr (.inr rfl)

/-- A key spells one field at most. -/
theorem AreDistinct.eq_of_spells
    (distinct : AreDistinct names)
    {second : FieldName}
    (member : name ∈ names)
    (secondMember : second ∈ names)
    (spells : name.spells key = true)
    (secondSpells : second.spells key = true) :
    name = second := by
  refine distinct name member second secondMember ?_
  rcases spells_iff.mp secondSpells with rfl | rfl
  · exact .inl spells
  · exact .inr spells

/-- Respelling a key does not make it a key of another field. -/
theorem Respells.spells_eq
    (distinct : AreDistinct names)
    (member : name ∈ names)
    (respells : Respells names key other) :
    name.spells key = name.spells other := by
  rcases respells with rfl | ⟨second, secondMember, spellsKey, spellsOther⟩
  · rfl
  · rw [Bool.eq_iff_iff]
    constructor
    · intro spells
      rw [distinct.eq_of_spells member secondMember spells spellsKey]
      exact spellsOther
    · intro spells
      rw [distinct.eq_of_spells member secondMember spells spellsOther]
      exact spellsKey

/-! Looking up fields that are given at most once. -/

namespace SpelledOnce

/-- A field that is spelled once is spelled no more than once behind the first entry. -/
theorem of_cons
    {entry : String × Value}
    (once : name.SpelledOnce (entry :: record)) :
    name.SpelledOnce record := by
  rw [SpelledOnce, List.filter_cons] at once
  split at once
  · exact Nat.le_of_succ_le once
  · exact once

/-- Behind the entry that gives a field there is none that gives it again. -/
theorem not_spells_behind
    {entry : String × Value}
    (once : name.SpelledOnce (entry :: record))
    (spells : name.spells entry.1 = true) :
    ∀ later ∈ record, name.spells later.1 = false := by
  rw [SpelledOnce, List.filter_cons, if_pos spells, List.length_cons] at once
  have noneBehind := List.length_eq_zero_iff.mp (Nat.le_zero.mp (Nat.le_of_succ_le_succ once))
  intro later member
  exact Bool.eq_false_iff.mpr (List.filter_eq_nil_iff.mp noneBehind later member)

/-- The first entry that gives a field is the only one. -/
theorem find?_eq_some
    {entry : String × Value}
    (once : name.SpelledOnce record)
    (member : entry ∈ record)
    (spells : name.spells entry.1 = true) :
    (record.find? fun entry => name.spells entry.1) = some entry := by
  induction record with
  | nil => exact absurd member List.not_mem_nil
  | cons first rest inductionHypothesis =>
      rcases List.mem_cons.mp member with rfl | later
      · rw [List.find?_cons, spells]
      · have notFirst : name.spells first.1 = false := by
          by_contra isFirst
          have behind := once.not_spells_behind (Bool.not_eq_false _ ▸ isFirst) entry later
          rw [behind] at spells
          exact Bool.noConfusion spells
        rw [List.find?_cons, notFirst]
        exact inductionHypothesis once.of_cons later

end SpelledOnce

/-- A record gives nothing under the spellings of a field that no entry spells. -/
theorem get?_eq_none_of_not_spells
    (nowhere : ∀ entry ∈ record, name.spells entry.1 = false)
    (spells : name.spells key = true) :
    Record.get? record key = none := by
  rw [Record.get?, Option.map_eq_none_iff, List.find?_eq_none]
  intro entry member isKey
  have notSpelled := nowhere entry member
  rw [beq_iff_eq.mp isKey, spells] at notSpelled
  exact Bool.noConfusion notSpelled

/-- A field that is given at most once is found in the entry that spells it. -/
theorem found?_eq_find?
    (once : name.SpelledOnce record) :
    name.found? record = record.find? fun entry => name.spells entry.1 := by
  induction record with
  | nil => rfl
  | cons entry rest inductionHypothesis =>
      by_cases spells : name.spells entry.1 = true
      · have nowhere := once.not_spells_behind spells
        have noCamel := get?_eq_none_of_not_spells nowhere spells_camel
        have noSnake := get?_eq_none_of_not_spells nowhere spells_snake
        rw [found?, Record.get?_cons, Record.get?_cons, noCamel, noSnake, List.find?_cons, spells]
        by_cases isCamel : entry.1 = name.camel
        · rw [if_pos isCamel, ← isCamel]
        · have isSnake := (spells_iff.mp spells).resolve_left isCamel
          rw [if_neg isCamel, if_pos isSnake, Option.map_some, ← isSnake]
      · rw [Bool.not_eq_true] at spells
        have notCamel : entry.1 ≠ name.camel := by
          intro same
          rw [same, spells_camel] at spells
          exact Bool.noConfusion spells
        have notSnake : entry.1 ≠ name.snake := by
          intro same
          rw [same, spells_snake] at spells
          exact Bool.noConfusion spells
        rw [List.find?_cons, spells, ← inductionHypothesis once.of_cons, found?,
          Record.get?_cons, Record.get?_cons, if_neg notCamel, if_neg notSnake]
        rfl

/-- The entries that give none of the fields are those that spell none. -/
theorem strayEntries_eq_filter
    (once : ∀ name ∈ names, name.SpelledOnce record) :
    strayEntries names record =
      record.filter fun entry => !names.any fun name => name.spells entry.1 := by
  refine List.filter_congr fun entry member => congrArg not ?_
  rw [Bool.eq_iff_iff, List.contains_iff_mem, foundKeys, List.mem_filterMap, List.any_eq_true]
  refine exists_congr fun name => and_congr_right fun isName => ?_
  constructor
  · intro keyed
    obtain ⟨⟨key, value⟩, found, rfl⟩ := Option.map_eq_some_iff.mp keyed
    exact spells_iff.mpr (key_of_found? found)
  · intro spells
    rw [found?_eq_find? (once name isName), (once name isName).find?_eq_some member spells]
    rfl

end FieldName

namespace Record

/-- An entry and the same one under a respelled key, with a related value. -/
structure EntryRespelled
    (names : List FieldName)
    (related : String → Value → Value → Prop)
    (entry other : String × Value) : Prop where
  key : FieldName.Respells names entry.1 other.1
  value : related entry.1 entry.2 other.2

/-- A record and the same one with some of its keys respelled, entry by entry. -/
def Respelled
    (names : List FieldName)
    (related : String → Value → Value → Prop) :
    Record → Record → Prop :=
  List.Forall₂ (EntryRespelled names related)

end Record

namespace FieldName

open Record

variable {names known : List FieldName} {related : String → Value → Value → Prop}
  {first second : Record} {name : FieldName}

/-- Respelled entries spell the same fields. -/
theorem spells_eq_of_entryRespelled
    (distinct : AreDistinct names)
    (member : name ∈ names)
    {entry other : String × Value}
    (entries : EntryRespelled names related entry other) :
    name.spells entry.1 = name.spells other.1 :=
  entries.key.spells_eq distinct member

/-- A field that is spelled once in a record is spelled once in a respelled one. -/
theorem SpelledOnce.of_respelled
    (distinct : AreDistinct names)
    (member : name ∈ names)
    (respelled : Respelled names related first second)
    (once : name.SpelledOnce first) :
    name.SpelledOnce second := by
  have filtered :=
    List.rel_filter (fun _ _ entries =>
      Bool.eq_iff_iff.mp (spells_eq_of_entryRespelled distinct member entries)) respelled
  rw [SpelledOnce, ← filtered.length_eq]
  exact once

/-- What is found of a field in respelled records is a respelled entry. -/
theorem find?_respelled
    (distinct : AreDistinct names)
    (member : name ∈ names)
    (respelled : Respelled names related first second) :
    Option.Rel (EntryRespelled names related)
      (first.find? fun entry => name.spells entry.1)
      (second.find? fun entry => name.spells entry.1) := by
  induction respelled with
  | nil => exact .none
  | @cons entry other _ _ entries _ inductionHypothesis =>
      have sameField := spells_eq_of_entryRespelled distinct member entries
      rw [List.find?_cons, List.find?_cons, ← sameField]
      cases name.spells entry.1 with
      | true => exact .some entries
      | false => exact inductionHypothesis

/-- A field that is given is given in the respelled record by the same entry, respelled. -/
theorem found?_respelled
    (distinct : AreDistinct names)
    (member : name ∈ names)
    (respelled : Respelled names related first second)
    (once : name.SpelledOnce first) :
    Option.Rel (EntryRespelled names related) (name.found? first) (name.found? second) := by
  rw [found?_eq_find? once, found?_eq_find? (once.of_respelled distinct member respelled)]
  exact find?_respelled distinct member respelled

theorem values_eq
    {found other : Option (String × Value)}
    (entries : Option.Rel (EntryRespelled names fun _ => Eq) found other) :
    found.map Prod.snd = other.map Prod.snd := by
  cases entries with
  | none => rfl
  | some entries => exact congrArg some entries.value

/-- A field with a single spelling has the same value in the respelled record. -/
theorem get?_respelled
    (word : String)
    (distinct : AreDistinct names)
    (member : plain word ∈ names)
    (respelled : Respelled names (fun _ => Eq) first second) :
    Record.get? first word = Record.get? second word := by
  have get?_eq (record : Record) :
      Record.get? record word =
        (record.find? fun entry => (plain word).spells entry.1).map Prod.snd := by
    simp [Record.get?, spells, plain]
  rw [get?_eq, get?_eq]
  exact values_eq (find?_respelled distinct member respelled)

/-- An entry is stray exactly when the same entry is stray in the respelled record. -/
theorem strayEntries_respelled
    (distinct : AreDistinct names)
    (subset : known ⊆ names)
    (respelled : Respelled names related first second)
    (once : ∀ name ∈ known, name.SpelledOnce first) :
    Respelled names related (strayEntries known first) (strayEntries known second) := by
  have onceSecond : ∀ name ∈ known, name.SpelledOnce second := fun name member =>
    (once name member).of_respelled distinct (subset member) respelled
  rw [strayEntries_eq_filter once, strayEntries_eq_filter onceSecond]
  refine List.rel_filter
    (fun entry other entries => Bool.eq_iff_iff.mp (congrArg not ?_)) respelled
  rw [Bool.eq_iff_iff, List.any_eq_true, List.any_eq_true]
  refine exists_congr fun name => and_congr_right fun member => ?_
  rw [spells_eq_of_entryRespelled distinct (subset member) entries]

end FieldName

end ExpertAdvisor

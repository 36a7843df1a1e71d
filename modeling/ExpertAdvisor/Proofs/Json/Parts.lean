import ExpertAdvisor.Json.Reader
import ExpertAdvisor.Value.Parts

namespace ExpertAdvisor

/-!
# Parts of values

A value is made of parts: itself, and the parts of its items and fields.  A
document that was read as JSON has no bytes among its parts.
-/

/-- A value within a value, at any depth; so is the first misname of a misnamed record. -/
inductive Value.IsPart (part : Value) : Value → Prop where
  | whole : IsPart part part
  | item {items : List Value} {item : Value} :
      item ∈ items → IsPart part item → IsPart part (.list items)
  | field {fields : Record} {name : String} {value : Value} :
      (name, value) ∈ fields → IsPart part value → IsPart part (.record fields)
  | misnamedField {names : List (List Text.CodePoint)} {values : List Value} {value : Value} :
      value ∈ values → IsPart part value → IsPart part (.misnamed names values)
  | misname {names : List (List Text.CodePoint)} {values : List Value} :
      IsPart part (.unpaired (Misnamed.firstMisname names)) → IsPart part (.misnamed names values)

namespace Value

/-- A part of a part is a part. -/
theorem IsPart.trans
    {first second third : Value}
    (inner : first.IsPart second)
    (outer : second.IsPart third) :
    first.IsPart third := by
  induction outer with
  | whole => exact inner
  | item member _ inductionHypothesis => exact .item member inductionHypothesis
  | field member _ inductionHypothesis => exact .field member inductionHypothesis
  | misnamedField member _ inductionHypothesis =>
      exact .misnamedField member inductionHypothesis
  | misname _ inductionHypothesis => exact .misname inductionHypothesis

/-- A value without bytes, at any depth. -/
def ByteFree (value : Value) : Prop :=
  ∀ content, ¬ IsPart (.bytes content) value

theorem ByteFree.list
    {items : List Value}
    (free : ∀ item ∈ items, item.ByteFree) :
    (list items).ByteFree := by
  intro content part
  cases part with
  | item member inItem => exact free _ member content inItem

theorem ByteFree.record
    {fields : Record}
    (free : ∀ field ∈ fields, field.2.ByteFree) :
    (record fields).ByteFree := by
  intro content part
  cases part with
  | field member inField => exact free _ member content inField

theorem ByteFree.misnamed
    (names : List (List Text.CodePoint))
    {values : List Value}
    (free : ∀ value ∈ values, value.ByteFree) :
    (misnamed names values).ByteFree := by
  intro content part
  cases part with
  | misnamedField member inField => exact free _ member content inField
  | misname inName => cases inName

/-- A text has no bytes, whether it is well formed or not. -/
theorem byteFree_ofCodePoints (points : List Text.CodePoint) : (ofCodePoints points).ByteFree := by
  intro content part
  unfold ofCodePoints at part
  split at part <;> cases part

/-- The fields under their names as texts have the same values. -/
theorem map_snd_of_named?
    {fields : List (List Text.CodePoint × Value)}
    {named : Record}
    (isNamed : named? fields = some named) :
    named.map Prod.snd = fields.map Prod.snd := by
  induction fields generalizing named with
  | nil =>
      cases isNamed
      rfl
  | cons field rest inductionHypothesis =>
      rw [named?, List.mapM_cons] at isNamed
      obtain ⟨first, isFirst, isRest⟩ := Option.bind_eq_some_iff.mp isNamed
      obtain ⟨others, areOthers, isWhole⟩ := Option.bind_eq_some_iff.mp isRest
      obtain ⟨name, _, rfl⟩ := Option.map_eq_some_iff.mp isFirst
      cases isWhole
      rw [List.map_cons, List.map_cons, inductionHypothesis areOthers]

end Value

namespace Record

variable {ν : Type} [BEq ν] {record : List (ν × Value)} {field : ν × Value}

/-- A field of a record into which a value was put is an old one, or the one that was put in. -/
theorem mem_insert
    {name : ν}
    {value : Value}
    (member : field ∈ insert record name value) :
    field ∈ record ∨ field = (name, value) := by
  rw [insert] at member
  split at member
  · obtain ⟨old, isOld, rfl⟩ := List.mem_map.mp member
    split
    · exact .inr rfl
    · exact .inl isOld
  · exact (List.mem_append.mp member).imp_right List.mem_singleton.mp

theorem mem_foldl_insert
    {fields : List (ν × Value)}
    (member :
      field ∈ fields.foldl (fun earlier given => insert earlier given.1 given.2) record) :
    field ∈ record ∨ field ∈ fields := by
  induction fields generalizing record with
  | nil => exact .inl member
  | cons first rest inductionHypothesis =>
      rcases inductionHypothesis member with inRecord | inRest
      · rcases mem_insert inRecord with isOld | rfl
        · exact .inl isOld
        · exact .inr List.mem_cons_self
      · exact .inr (List.mem_cons_of_mem _ inRest)

/-- Every field of a record that was put together is one of those given. -/
theorem mem_ofFields
    {fields : List (ν × Value)}
    (member : field ∈ ofFields fields) :
    field ∈ fields :=
  (mem_foldl_insert member).resolve_left List.not_mem_nil

end Record

namespace Value

/-- Distinct fields without bytes make a record without any. -/
theorem byteFree_ofDistinctFields
    {fields : List (List Text.CodePoint × Value)}
    (free : ∀ field ∈ fields, field.2.ByteFree) :
    (ofDistinctFields fields).ByteFree := by
  have values : ∀ value ∈ fields.map Prod.snd, value.ByteFree := List.forall_mem_map.mpr free
  unfold ofDistinctFields
  split
  case h_1 isNamed =>
    rw [← map_snd_of_named? isNamed, List.forall_mem_map] at values
    exact .record values
  case h_2 => exact .misnamed _ values

/-- A record of fields without bytes has none. -/
theorem byteFree_ofFields
    {fields : List (List Text.CodePoint × Value)}
    (free : ∀ field ∈ fields, field.2.ByteFree) :
    (ofFields fields).ByteFree := by
  unfold ofFields
  split
  case h_1 isNamed =>
    have values : ∀ value ∈ fields.map Prod.snd, value.ByteFree := List.forall_mem_map.mpr free
    rw [← map_snd_of_named? isNamed, List.forall_mem_map] at values
    exact .record fun field member => values field (Record.mem_ofFields member)
  case h_2 =>
    exact byteFree_ofDistinctFields fun field member => free field (Record.mem_ofFields member)

end Value

namespace Json

open Value
open Text (CodePoint)

theorem byteFree_of_readNumber
    {points rest : List CodePoint}
    {value : Value}
    (read : readNumber points = .ok (value, rest)) :
    value.ByteFree := by
  have isNumber : (∃ number, value = .integer number) ∨ ∃ number, value = .real number := by
    unfold readNumber at read
    simp only at read
    repeat' split at read
    all_goals cases read
    · exact .inl ⟨_, rfl⟩
    · exact .inr ⟨_, rfl⟩
  rintro content part
  rcases isNumber with ⟨number, rfl⟩ | ⟨number, rfl⟩ <;> cases part

/-- No word stands for bytes or for anything that holds them. -/
theorem byteFree_of_keyword?
    {points rest : List CodePoint}
    {value : Value}
    (isKeyword : keyword? points = some (value, rest)) :
    value.ByteFree := by
  obtain ⟨⟨word, meaning⟩, listed, found⟩ := List.exists_of_findSome?_eq_some isKeyword
  dsimp only at found
  split at found
  case isFalse => cases found
  case isTrue =>
    cases found
    intro content part
    simp only [keywords, List.mem_cons, Prod.mk.injEq, List.not_mem_nil, or_false] at listed
    rcases listed with ⟨_, rfl⟩ | ⟨_, rfl⟩ | ⟨_, rfl⟩ | ⟨_, rfl⟩ | ⟨_, rfl⟩ | ⟨_, rfl⟩
    all_goals cases part

/-- What the reader of a fuel yields has no bytes: for values, for lists and for records. -/
structure ReadsByteFree (fuel : Nat) : Prop where
  value {points rest : List CodePoint} {value : Value} :
    readValue fuel points = .ok (value, rest) → value.ByteFree
  items {read : List Value} {points rest : List CodePoint} {value : Value} :
    (∀ item ∈ read, item.ByteFree) →
      readItems fuel read points = .ok (value, rest) → value.ByteFree
  fields {read : List (List CodePoint × Value)} {points rest : List CodePoint} {value : Value} :
    (∀ field ∈ read, field.2.ByteFree) →
      readFields fuel read points = .ok (value, rest) → value.ByteFree

namespace ReadsByteFree

variable {fuel : Nat} {points rest : List CodePoint} {value : Value}

/-- One more step of fuel: a value is plain, or it is put together from what was read inside. -/
theorem readValue_succ
    (inside : ReadsByteFree fuel)
    (read : readValue (fuel + 1) points = .ok (value, rest)) :
    value.ByteFree := by
  unfold readValue at read
  split at read
  case h_1 =>
    split at read
    · cases read
      exact byteFree_ofCodePoints _
    · cases read
  case h_2 =>
    split at read
    · cases read
      exact .record (List.forall_mem_nil _)
    · exact inside.fields (List.forall_mem_nil _) read
  case h_3 =>
    split at read
    · cases read
      exact .list (List.forall_mem_nil _)
    · exact inside.items (List.forall_mem_nil _) read
  case h_4 =>
    split at read
    case h_1 isKeyword =>
      cases read
      exact byteFree_of_keyword? isKeyword
    case h_2 => exact byteFree_of_readNumber read

theorem readItems_succ
    {read : List Value}
    (inside : ReadsByteFree fuel)
    (free : ∀ item ∈ read, item.ByteFree)
    (items : readItems (fuel + 1) read points = .ok (value, rest)) :
    value.ByteFree := by
  rw [readItems] at items
  split at items
  case h_1 => cases items
  case h_2 item afterItem isItem =>
    have allFree := List.forall_mem_cons.mpr ⟨inside.value isItem, free⟩
    split at items
    · obtain ⟨rfl, _⟩ := Prod.mk.inj (Except.ok.inj items)
      exact .list fun item member => allFree item (List.mem_reverse.mp member)
    · exact inside.items allFree items
    · cases items

theorem readFields_succ
    {read : List (List CodePoint × Value)}
    (inside : ReadsByteFree fuel)
    (free : ∀ field ∈ read, field.2.ByteFree)
    (fields : readFields (fuel + 1) read points = .ok (value, rest)) :
    value.ByteFree := by
  unfold readFields at fields
  split at fields
  case h_2 => cases fields
  split at fields
  case h_1 => cases fields
  split at fields
  case h_2 => cases fields
  split at fields
  case h_1 => cases fields
  case h_2 name _ _ _ _ _ _ item _ isField =>
    have allFree : ∀ field ∈ (name, item) :: read, field.2.ByteFree :=
      List.forall_mem_cons.mpr ⟨inside.value isField, free⟩
    split at fields
    · obtain ⟨rfl, _⟩ := Prod.mk.inj (Except.ok.inj fields)
      exact byteFree_ofFields fun field member => allFree field (List.mem_reverse.mp member)
    · exact inside.fields allFree fields
    · cases fields

end ReadsByteFree

/-- Values, lists and records are read without bytes, whatever the fuel. -/
theorem readsByteFree (fuel : Nat) : ReadsByteFree fuel := by
  induction fuel with
  | zero => exact ⟨nofun, fun _ => nofun, fun _ => nofun⟩
  | succ more inductionHypothesis =>
      exact ⟨inductionHypothesis.readValue_succ, inductionHypothesis.readItems_succ,
        inductionHypothesis.readFields_succ⟩

/-- What is read as a document has no bytes. -/
theorem byteFree_of_readDocument
    {document : List CodePoint}
    {value : Value}
    (read : readDocument document = .ok value) :
    value.ByteFree := by
  unfold readDocument at read
  split at read
  case h_1 => cases read
  case h_2 isValue =>
    split at read
    · cases read
      exact (readsByteFree _).value isValue
    · cases read

/-- A document that was read has no bytes. -/
theorem byteFree_of_readPoints
    {document : List CodePoint}
    {value : Value}
    (isRead : readPoints document = .ok value) :
    value.ByteFree := by
  rw [readPoints] at isRead
  cases isDocument : readDocument document with
  | error objection =>
      rw [isDocument] at isRead
      cases isRead
  | ok document =>
      rw [isDocument] at isRead
      cases isRead
      exact byteFree_of_readDocument isDocument

end Json

end ExpertAdvisor

import ExpertAdvisor.Number.Binary64
import ExpertAdvisor.Text.CodePoint
import ExpertAdvisor.Value.Moment

namespace ExpertAdvisor

/-!
# Dynamic values

Payloads arrive as dynamic values: from a request body, from a configuration
file, or from a form.  A record keeps its fields in the order in which their
names first appeared, and a name occurs in it once.

Texts and names consist of characters.  Only a request body may hold others, in
which halves of surrogate pairs stand alone; a configuration file alone may hold
moments.
-/

/--
A value whose shape is not known beforehand.  An unpaired text has half of a
surrogate pair somewhere, and a misnamed record has it in one of its names,
which are kept apart from the values in the same order.
-/
inductive Value where
  | null
  | boolean (flag : Bool)
  | integer (number : Int)
  | real (number : Binary64)
  | text (content : String)
  | unpaired (content : List Text.CodePoint)
  | bytes (content : List UInt8)
  | moment (content : Moment)
  | list (items : List Value)
  | record (fields : List (String × Value))
  | misnamed (names : List (List Text.CodePoint)) (values : List Value)
  deriving Repr, Inhabited

/-- The fields of a record, in order of first appearance. -/
abbrev Record := List (String × Value)

namespace Record

/-- The value that a record gives under a name. -/
def get?
    (record : Record)
    (name : String) : Option Value :=
  (record.find? fun field => field.1 == name).map Prod.snd

/-- Whether a record gives anything under a name. -/
def has
    [BEq ν]
    (record : List (ν × Value))
    (name : ν) : Bool :=
  record.any fun field => field.1 == name

/-- Gives a field a value: in its old place, or at the end when it is new. -/
def insert
    [BEq ν]
    (record : List (ν × Value))
    (name : ν)
    (value : Value) : List (ν × Value) :=
  if has record name then
    record.map fun field => if field.1 == name then (name, value) else field
  else
    record ++ [(name, value)]

/-- The record in which the last value given to each name counts. -/
def ofFields
    [BEq ν]
    (fields : List (ν × Value)) : List (ν × Value) :=
  fields.foldl (fun record field => insert record field.1 field.2) []

/-- The names of a record's fields, in their order. -/
def names (record : Record) : List String :=
  record.map Prod.fst

end Record

namespace Misnamed

/-- The fields whose names consist of characters, under these names. -/
def namedFields
    (names : List (List Text.CodePoint))
    (values : List Value) : Record :=
  (names.zip values).filterMap fun field =>
    (Text.ofCodePoints? field.1).map fun name => (name, field.2)

/-- The first name with half of a surrogate pair. -/
def firstMisname (names : List (List Text.CodePoint)) : List Text.CodePoint :=
  (names.find? fun name => (Text.ofCodePoints? name).isNone).getD []

end Misnamed

namespace Value

mutual

/-- Values of one kind are equal when their contents are. -/
def decideEqual (first second : Value) : Decidable (first = second) :=
  if sameKind : first.ctorIdx = second.ctorIdx then
    match first, second, sameKind with
    | .null, .null, _ => isTrue rfl
    | .boolean flag, .boolean other, _ => decidable_of_iff (flag = other) (by simp)
    | .integer number, .integer other, _ => decidable_of_iff (number = other) (by simp)
    | .real number, .real other, _ => decidable_of_iff (number = other) (by simp)
    | .text content, .text other, _ => decidable_of_iff (content = other) (by simp)
    | .unpaired content, .unpaired other, _ => decidable_of_iff (content = other) (by simp)
    | .bytes content, .bytes other, _ => decidable_of_iff (content = other) (by simp)
    | .moment content, .moment other, _ => decidable_of_iff (content = other) (by simp)
    | .list items, .list others, _ =>
        have := decideEqualItems items others
        decidable_of_iff (items = others) (by simp)
    | .record fields, .record others, _ =>
        have := decideEqualFields fields others
        decidable_of_iff (fields = others) (by simp)
    | .misnamed names values, .misnamed otherNames others, _ =>
        have := decideEqualItems values others
        decidable_of_iff (names = otherNames ∧ values = others) (by simp)
  else
    isFalse fun equal => sameKind (congrArg Value.ctorIdx equal)

/-- Lists of values are equal when their items are, one by one. -/
def decideEqualItems : (first second : List Value) → Decidable (first = second)
  | [], [] => isTrue rfl
  | item :: rest, other :: others =>
      have := decideEqual item other
      have := decideEqualItems rest others
      decidable_of_iff (item = other ∧ rest = others) (by simp)
  | [], _ :: _ | _ :: _, [] => isFalse nofun

/-- Fields are equal when their names and their values are, one by one. -/
def decideEqualFields : (first second : List (String × Value)) → Decidable (first = second)
  | [], [] => isTrue rfl
  | (name, value) :: rest, (otherName, other) :: others =>
      have := decideEqual value other
      have := decideEqualFields rest others
      decidable_of_iff ((name = otherName ∧ value = other) ∧ rest = others) (by simp)
  | [], _ :: _ | _ :: _, [] => isFalse nofun

end

/-- Equality of values can be decided. -/
instance : DecidableEq Value := decideEqual

/-- The name of a value's kind, as messages give it. -/
def kindName : Value → String
  | .null => "NoneType"
  | .boolean _ => "bool"
  | .integer _ => "int"
  | .real _ => "float"
  | .text _ | .unpaired _ => "str"
  | .bytes _ => "bytes"
  | .moment content => content.kindName
  | .list _ => "list"
  | .record _ | .misnamed _ _ => "dict"

/-- Whether a value counts as true where only truth matters: empty and zero values do not. -/
def isTruthy : Value → Bool
  | .null => false
  | .boolean flag => flag
  | .integer number => number != 0
  | .real (.finite number) => !number.isZero
  | .real _ => true
  | .text content => content != ""
  | .unpaired content => !content.isEmpty
  | .bytes content => !content.isEmpty
  | .moment _ => true
  | .list items => !items.isEmpty
  | .record fields => !fields.isEmpty
  | .misnamed names _ => !names.isEmpty

/-- The text inside a text value. -/
def text? : Value → Option String
  | .text content => some content
  | _ => none

/-- The text inside a text value, with stand-ins for halves of surrogate pairs. -/
def shownText? : Value → Option String
  | .text content => some content
  | .unpaired content => some (Text.standingIn content)
  | _ => none

/-- The fields of a record value. -/
def record? : Value → Option Record
  | .record fields => some fields
  | _ => none

/-- The fields of a record under the names that consist of characters. -/
def namedFields? : Value → Option Record
  | .record fields => some fields
  | .misnamed names values => some (Misnamed.namedFields names values)
  | _ => none

/-- Whether a value is null. -/
def isNull : Value → Bool
  | .null => true
  | _ => false

/-- The value of a text that is given by its code points. -/
def ofCodePoints (points : List Text.CodePoint) : Value :=
  match Text.ofCodePoints? points with
  | some content => .text content
  | none => .unpaired points

/-- The fields with their names as texts, if all names consist of characters. -/
def named? (fields : List (List Text.CodePoint × Value)) : Option Record :=
  fields.mapM fun field => (Text.ofCodePoints? field.1).map fun name => (name, field.2)

/-- The record of fields with different names, which are given by their code points. -/
def ofDistinctFields (fields : List (List Text.CodePoint × Value)) : Value :=
  match named? fields with
  | some named => .record named
  | none => .misnamed (fields.map Prod.fst) (fields.map Prod.snd)

/-- The record of fields whose names are given by their code points; the last of a name counts. -/
def ofFields (fields : List (List Text.CodePoint × Value)) : Value :=
  match named? fields with
  | some named => .record (Record.ofFields named)
  | none => ofDistinctFields (Record.ofFields fields)

@[simp]
theorem ofCodePoints_codePoints (characters : List Char) :
    ofCodePoints (Text.codePoints characters) = .text (String.ofList characters) := by
  rw [ofCodePoints, Text.ofCodePoints?_codePoints]

/-- Fields whose names are given as texts make a record. -/
theorem ofFields_codePoints (fields : List (String × Value)) :
    ofFields (fields.map fun field => (Text.codePoints field.1.toList, field.2)) =
      .record (Record.ofFields fields) := by
  have same : named? (fields.map fun field => (Text.codePoints field.1.toList, field.2)) =
      some fields := by
    induction fields with
    | nil => rfl
    | cons field rest inductionHypothesis =>
        rw [named?] at inductionHypothesis ⊢
        rw [List.map_cons, List.mapM_cons, inductionHypothesis, Text.ofCodePoints?_codePoints,
          String.ofList_toList]
        rfl
  rw [ofFields, same]

/-- An optional value, with null for none. -/
def ofOption
    (wrap : α → Value) :
    Option α → Value
  | none => .null
  | some content => wrap content

end Value

end ExpertAdvisor

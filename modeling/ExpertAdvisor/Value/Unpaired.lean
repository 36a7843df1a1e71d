import ExpertAdvisor.Value.Parts

namespace ExpertAdvisor.Value

/-!
# Values with halves of surrogate pairs

Half of a surrogate pair may stand in a text or in a name, at any depth of a
value.  Marks in the place of the halves make texts of the texts that hold them.
-/

/-- Whether the text that a value is, or the names that it has, consist of characters. -/
def isPairedHere : Value → Bool
  | .unpaired content => content.all Text.CodePoint.isCharacter
  | .misnamed names _ => names.all fun name => name.all Text.CodePoint.isCharacter
  | _ => true

/-- Whether all texts and names in a value consist of characters, at any depth. -/
def isPaired (value : Value) : Bool :=
  value.all isPairedHere

mutual

/-- A value with marks in the place of the halves in its texts. -/
def marked : Value → Value
  | .unpaired content => .text (Text.marked content)
  | .list items => .list (markedItems items)
  | .record fields => .record (markedFields fields)
  | .misnamed names values => .misnamed names (markedItems values)
  | value => value

/-- List items with marks in the place of the halves. -/
def markedItems : List Value → List Value
  | [] => []
  | item :: rest => marked item :: markedItems rest

/-- Record fields with marks in the place of the halves. -/
def markedFields : List (String × Value) → List (String × Value)
  | [] => []
  | (name, value) :: rest => (name, marked value) :: markedFields rest

end

end ExpertAdvisor.Value

import ExpertAdvisor.Value.Literal
import ExpertAdvisor.Yaml.Resolution

namespace ExpertAdvisor.Yaml

/-!
# Nodes and their values

A document is a tree of nodes.  A tag fixes what a node stands for; without one
a plain scalar is resolved by its spelling and a quoted one is a text.  The key
`<<` merges the entries of other mappings into its own.
-/

/-- What a tag says about a node; the lone mark asks for resolution by spelling. -/
inductive Tag where
  | bySpelling
  | text
  | integer
  | real
  | boolean
  | moment
  | null
  | list
  | mapping
  deriving Repr, DecidableEq

namespace Tag

/-- The tags that a document may use, by their names. -/
def names : List (String × Tag) :=
  [("str", .text), ("int", .integer), ("float", .real), ("bool", .boolean),
    ("timestamp", .moment), ("null", .null), ("seq", .list), ("map", .mapping)]

/-- The tag that a word names, in its short or in its long form. -/
def ofWord? (word : String) : Option Tag :=
  if word == "!" then some .bySpelling
  else
    (names.find? fun listed =>
      word == "!!" ++ listed.1 || word == "!<tag:yaml.org,2002:" ++ listed.1 ++ ">").map Prod.snd

end Tag

/-- A node: a scalar, which is plain or quoted, a list, or a mapping in order. -/
inductive Node where
  | scalar (tag : Option Tag) (plain : Bool) (content : String)
  | list (tag : Option Tag) (items : List Node)
  | mapping (tag : Option Tag) (entries : List (Node × Node))
  deriving Repr, Inhabited

namespace Node

/-- The node that stands where nothing is written. -/
def absent : Node :=
  .scalar none true ""

/-- A node under a tag; without one it stays as it is. -/
def tagged :
    Option Tag → Node → Node
  | none, node => node
  | some tag, .scalar _ plain content => .scalar (some tag) plain content
  | some tag, .list _ items => .list (some tag) items
  | some tag, .mapping _ entries => .mapping (some tag) entries

/-- Whether a node is the key that merges other mappings. -/
def isMerge : Node → Bool
  | .scalar none plain content => plain && content == "<<"
  | .scalar (some .bySpelling) _ content => content == "<<"
  | _ => false

/-- Whether a node is the sign for a default, which as a key is an ordinary text. -/
def isDefaultSign : Node → Bool
  | .scalar none plain content => plain && content == "="
  | .scalar (some .bySpelling) _ content => content == "="
  | _ => false

end Node

/-- The value of a scalar: a tag decides what it is, and without one its spelling if it is plain. -/
def scalarValue?
    (tag : Option Tag)
    (plain : Bool)
    (content : String) : Option Value :=
  match tag with
  | none => if plain then plainValue? content else some (.text content)
  | some .bySpelling => plainValue? content
  | some .text => some (.text content)
  | some .null => some .null
  | some .boolean => (flag? (String.ofList (content.toList.map Char.toLower))).map .boolean
  | some .integer => (integer? content.toList).map .integer
  | some .moment => (moment? content.toList).bind momentValue?
  | some .real =>
      ((real? content.toList).or (Number.real? Text.asciiDigit? content.toList)).map .real
  | some .list | some .mapping => none

/-- The text of a value as a key; lists and records are no keys. -/
def keyText? : Value → Option String
  | .list _ | .record _ | .misnamed _ _ => none
  | value => some value.display

/--
The fields that a merge brings in: those of a record, or of several, the first
of which counts most.
-/
def mergedFields? : Value → Option (List (String × Value))
  | .record fields => some fields
  | .list items => (items.reverse.mapM Value.record?).map List.flatten
  | _ => none

mutual

/-- The value that a node stands for. -/
def Node.value? : Node → Option Value
  | .scalar tag plain content => scalarValue? tag plain content
  | .list tag items =>
      if tag.all fun tag => tag == .bySpelling || tag == .list then
        (itemValues? items).map .list
      else
        none
  | .mapping tag entries =>
      if tag.all fun tag => tag == .bySpelling || tag == .mapping then
        (entryFields? entries).map fun found =>
          .record (Record.ofFields (found.1 ++ found.2))
      else
        none

/-- The values of items, if each of them has one. -/
def itemValues? : List Node → Option (List Value)
  | [] => some []
  | item :: rest => do
      let value ← item.value?
      let values ← itemValues? rest
      return value :: values

/-- The fields that a mapping merges in, and its own. -/
def entryFields? :
    List (Node × Node) → Option (List (String × Value) × List (String × Value))
  | [] => some ([], [])
  | (key, content) :: rest => do
      let value ← content.value?
      let (merged, own) ← entryFields? rest
      if key.isMerge then
        let fields ← mergedFields? value
        return (fields ++ merged, own)
      else
        let keyValue ← if key.isDefaultSign then some (.text "=") else key.value?
        let name ← keyText? keyValue
        return (merged, (name, value) :: own)

end

end ExpertAdvisor.Yaml

import ExpertAdvisor.Yaml.BlockScalar
import ExpertAdvisor.Yaml.Node
import ExpertAdvisor.Yaml.QuotedScalar

namespace ExpertAdvisor.Yaml

/-!
# Reading YAML

A document is read by recursive descent.  Among indented lines the column of a
node decides which collection it belongs to; between flow brackets columns do
not matter.  A key and its colon stand on one line.  Reading fails as a whole.
-/

/-- What remains to be read, and the nodes that have been named. -/
structure Remainder where
  here : List Place
  named : List (String × Node)

namespace Remainder

/-- The remainder from another place on. -/
def goTo
    (remainder : Remainder)
    (here : List Place) : Remainder :=
  { remainder with here := here }

/-- Goes on to the next token. -/
def toToken (remainder : Remainder) : Remainder :=
  remainder.goTo (Yaml.toToken remainder.here)

end Remainder

/-! Properties of nodes: a name, by which other nodes may repeat this one, and a tag. -/

/-- The properties that stand before a node. -/
structure Properties where
  name : Option String
  tag : Option Tag

namespace Properties

/-- No properties at all. -/
def none : Properties := ⟨.none, .none⟩

/-- Whether a node has no properties. -/
def isNone (properties : Properties) : Bool :=
  properties.name.isNone && properties.tag.isNone

end Properties

/-- Whether a character may stand in the name of a node. -/
def isNameCharacter (character : Char) : Bool :=
  character.isAlphanum || character == '-' || character == '_'

/-- The characters besides gaps that may follow the name of a node. -/
def afterNameCharacters : List Char :=
  ['?', ':', ',', ']', '\x7d', '%', '@', Char.ofNat 0x60]

/-- The name that an anchor or an alias gives, and what follows it. -/
def nodeName? (here : List Place) : Option (String × List Place) :=
  let (name, rest) := here.span fun place => isNameCharacter place.character
  let ends :=
    atGap rest ||
      match rest with
      | place :: _ => afterNameCharacters.contains place.character
      | [] => true
  if name.isEmpty || !ends then none
  else some (String.ofList (charactersAt name), rest)

/-- The tag that begins here, and what follows it. -/
def tag? (here : List Place) : Option (Tag × List Place) :=
  let (word, rest) := here.span fun place => !isGap place.character
  (Tag.ofWord? (String.ofList (charactersAt word))).map fun tag => (tag, rest)

/-- Reads one more property, where one stands. -/
def property?
    (properties : Properties)
    (here : List Place) : Option (Option (Properties × List Place)) :=
  match here with
  | place :: rest =>
      if place.character == '&' then
        match properties.name, nodeName? rest with
        | none, some (name, following) => some (some ({ properties with name := name }, following))
        | _, _ => none
      else if place.character == '!' then
        match properties.tag, tag? here with
        | none, some (tag, following) => some (some ({ properties with tag := tag }, following))
        | _, _ => none
      else some none
  | [] => some none

/-- Reads the properties that stand on one line, at most one of each kind. -/
def properties? (here : List Place) : Option (Properties × List Place) := do
  match ← property? Properties.none here with
  | none => return (Properties.none, here)
  | some (first, afterFirst) =>
      match ← property? first (afterFirst.dropWhile Place.isSpace) with
      | none => return (first, afterFirst)
      | some (both, afterBoth) => return (both, afterBoth)

/-- Gives a node its properties; a name is given once. -/
def applyProperties
    (properties : Properties)
    (node : Node)
    (remainder : Remainder) : Option (Node × Remainder) :=
  let node := node.tagged properties.tag
  match properties.name with
  | none => some (node, remainder)
  | some name =>
      if remainder.named.any fun known => known.1 == name then none
      else some (node, { remainder with named := (name, node) :: remainder.named })

/-! Tokens that end a node. -/

/-- Whether the line holds nothing more than a comment. -/
def atLineEnd (here : List Place) : Bool :=
  match here.dropWhile Place.isSpace with
  | [] => true
  | place :: _ => place.endsLine || place.character == '#'

/-- The longest distance between the start of a key and its colon. -/
def longestKey : Nat := 1024

/-- Whether a key that starts at one place may have its colon at another. -/
def reaches
    (start colon : Place) : Bool :=
  colon.line == start.line && colon.column - start.column ≤ longestKey

/-- What follows the colon of a key that started at a place. -/
def afterColon?
    (surrounding : Surrounding)
    (start : Place)
    (here : List Place) : Option (List Place) :=
  match toToken here with
  | place :: rest =>
      if place.character == ':' && reaches start place && (surrounding == .flow || atGap rest) then
        some rest
      else
        none
  | [] => none

/-- Whether one of some characters stands here. -/
def atCharacter
    (characters : List Char) :
    List Place → Bool
  | [] => false
  | place :: _ => characters.contains place.character

/-- Where a node may stand among indented lines. -/
structure Position where
  margin : Nat
  mayNest : Bool
  mayBeFlush : Bool

/-- Whether an entry of a list stands in a column, which may be that of the record around it. -/
def atFlushEntry
    (column : Nat)
    (here : List Place) : Bool :=
  match here with
  | place :: _ => place.column == column && atIndicator '-' here
  | [] => false

/-- How a collection goes on after an entry. -/
inductive Continuation where
  | another
  | finished
  | misplaced
  deriving Repr, DecidableEq

/-- How a block collection in a column goes on here. -/
def continuation
    (column : Nat)
    (here : List Place) : Continuation :=
  match here with
  | [] => .finished
  | place :: _ =>
      if atMarker here || place.column < column then .finished
      else if place.column == column then .another
      else .misplaced

mutual

/-- Reads a node without properties: an alias, a scalar on its own or a flow collection. -/
def content?
    (surrounding : Surrounding)
    (properties : Properties) :
    Nat → Remainder → Option (Node × Remainder)
  | 0, _ => none
  | fuel + 1, remainder =>
      match remainder.here with
      | [] => none
      | place :: rest =>
          if atMarker remainder.here then none
          else if place.character == '*' then
            if properties.isNone then
              (nodeName? rest).bind fun found =>
                (remainder.named.lookup found.1).map fun node => (node, remainder.goTo found.2)
            else
              none
          else if place.character == '[' then do
            let (items, following) ← flowItems? fuel [] (remainder.goTo rest)
            applyProperties properties (.list none items) following
          else if place.character == '\x7b' then do
            let (entries, following) ← flowEntries? fuel [] (remainder.goTo rest)
            applyProperties properties (.mapping none entries) following
          else if place.character == '\'' || place.character == '"' then do
            let quote := if place.character == '"' then Quote.double else .single
            let (text, following) ← quotedScalar? quote rest
            applyProperties properties (.scalar none false text) (remainder.goTo following)
          else if beginsPlain surrounding remainder.here then
            let (text, following) := plainScalar surrounding remainder.here
            applyProperties properties (.scalar none true text) (remainder.goTo following)
          else
            none

/-- Reads a node between flow brackets. -/
def flowNode? : Nat → Remainder → Option (Node × Remainder)
  | 0, _ => none
  | fuel + 1, remainder => do
      let (properties, rest) ← properties? remainder.here
      if properties.isNone then
        content? .flow properties fuel remainder
      else
        let following := remainder.goTo (toToken rest)
        if atCharacter [':', ',', ']', '\x7d'] following.here then
          applyProperties properties .absent following
        else
          content? .flow properties fuel following

/-- Reads a node, or nothing where the flow entry ends. -/
def flowNodeOrAbsent? : Nat → Remainder → Option (Node × Remainder)
  | 0, _ => none
  | fuel + 1, remainder =>
      let token := remainder.toToken
      if atCharacter [':', ',', ']', '\x7d'] token.here then some (.absent, token)
      else flowNode? fuel token

/-- Reads the value behind a key's colon, where there is a colon. -/
def flowValue? : Nat → Remainder → Option (Node × Remainder)
  | 0, _ => none
  | fuel + 1, remainder =>
      let token := remainder.toToken
      match token.here with
      | place :: rest =>
          if place.character == ':' then
            let value := (token.goTo rest).toToken
            if atCharacter [',', ']', '\x7d'] value.here then some (.absent, value)
            else flowNode? fuel value
          else
            some (.absent, token)
      | [] => none

/-- Reads an entry of a flow collection: a key, whether a value goes with it, and the value. -/
def flowEntry? : Nat → Remainder → Option (Node × Option Node × Remainder)
  | 0, _ => none
  | fuel + 1, remainder =>
      match remainder.here with
      | [] => none
      | start :: rest =>
          if start.character == '?' then do
            let (key, afterKey) ← flowNodeOrAbsent? fuel (remainder.goTo rest)
            let (value, following) ← flowValue? fuel afterKey
            return (key, some value, following)
          else do
            let (key, afterKey) ← flowNode? fuel remainder
            match afterColon? .flow start afterKey.here with
            | none => return (key, none, afterKey)
            | some _ =>
                let (value, following) ← flowValue? fuel afterKey
                return (key, some value, following)

/-- Reads the items of a flow list up to its bracket; a key with a value is a mapping of its own. -/
def flowItems? : Nat → List Node → Remainder → Option (List Node × Remainder)
  | 0, _, _ => none
  | fuel + 1, read, remainder =>
      let token := remainder.toToken
      if atCharacter [']'] token.here then
        some (read.reverse, token.goTo (token.here.drop 1))
      else do
        let (key, value, afterEntry) ← flowEntry? fuel token
        let item :=
          match value with
          | some value => .mapping none [(key, value)]
          | none => key
        let following := afterEntry.toToken
        if atCharacter [','] following.here then
          flowItems? fuel (item :: read) (following.goTo (following.here.drop 1))
        else if atCharacter [']'] following.here then
          some ((item :: read).reverse, following.goTo (following.here.drop 1))
        else
          none

/-- Reads the entries of a flow mapping up to its brace. -/
def flowEntries? :
    Nat → List (Node × Node) → Remainder → Option (List (Node × Node) × Remainder)
  | 0, _, _ => none
  | fuel + 1, read, remainder =>
      let token := remainder.toToken
      if atCharacter ['\x7d'] token.here then
        some (read.reverse, token.goTo (token.here.drop 1))
      else do
        let (key, value, afterEntry) ← flowEntry? fuel token
        let entry := (key, value.getD .absent)
        let following := afterEntry.toToken
        if atCharacter [','] following.here then
          flowEntries? fuel (entry :: read) (following.goTo (following.here.drop 1))
        else if atCharacter ['\x7d'] following.here then
          some ((entry :: read).reverse, following.goTo (following.here.drop 1))
        else
          none

end

mutual

/-- Reads a node among indented lines. -/
def blockNode? :
    Nat → Position → Remainder → Option (Node × Remainder)
  | 0, _, _ => none
  | fuel + 1, position, remainder =>
      match remainder.here with
      | [] => none
      | start :: _ =>
          if atIndicator '-' remainder.here then
            if position.mayNest then blockList? fuel start.column false remainder else none
          else if atIndicator '?' remainder.here then
            if position.mayNest then blockMapping? fuel start.column [] remainder else none
          else do
            let (properties, rest) ← properties? remainder.here
            if !properties.isNone && atLineEnd rest then
              blockNodeBelow? fuel position properties (remainder.goTo rest)
            else
              blockNodeHere? fuel position properties start
                (remainder.goTo (rest.dropWhile Place.isSpace))

/-- Reads the node that follows properties on their line; it may be the first key of a mapping. -/
def blockNodeHere? :
    Nat → Position → Properties → Place → Remainder → Option (Node × Remainder)
  | 0, _, _, _, _ => none
  | fuel + 1, position, properties, start, remainder =>
      match remainder.here with
      | [] => none
      | place :: rest =>
          if place.character == '|' || place.character == '>' then do
            let (text, following) ← blockScalar? (place.character == '>') position.margin rest
            applyProperties properties (.scalar none false text) (remainder.goTo following)
          else do
            let surrounding := Surrounding.block position.margin
            let (node, afterNode) ← content? surrounding properties fuel remainder
            match afterColon? surrounding start afterNode.here with
            | none => return (node, afterNode)
            | some rest =>
                if position.mayNest then
                  let (value, following) ←
                    blockValue? fuel start.column start.line false (afterNode.goTo rest)
                  blockMappingOnward? fuel start.column [(node, value)] following
                else
                  none

/-- Reads the node that follows properties on a later line. -/
def blockNodeBelow? :
    Nat → Position → Properties → Remainder → Option (Node × Remainder)
  | 0, _, _, _ => none
  | fuel + 1, position, properties, remainder =>
      let token := remainder.toToken
      match token.here with
      | [] => applyProperties properties .absent token
      | place :: _ =>
          if !atMarker token.here && position.margin ≤ place.column then do
            let (node, following) ← blockNode? fuel { position with mayNest := true } token
            applyProperties properties node following
          else if position.mayBeFlush && atFlushEntry (position.margin - 1) token.here then do
            let (node, following) ← blockList? fuel place.column true token
            applyProperties properties node following
          else
            applyProperties properties .absent token

/-- Reads what a key or a list mark in a column stands for; on a line below, it is indented more. -/
def blockValue? :
    Nat → Nat → Nat → Bool → Remainder → Option (Node × Remainder)
  | 0, _, _, _, _ => none
  | fuel + 1, column, line, mayNest, remainder =>
      let token := remainder.toToken
      match token.here with
      | [] => some (.absent, token)
      | place :: _ =>
          if atMarker token.here then some (.absent, token)
          else if place.line == line then
            blockNode? fuel ⟨column + 1, mayNest, true⟩ token
          else if column < place.column then
            blockNode? fuel ⟨column + 1, true, true⟩ token
          else if atFlushEntry column token.here then
            blockList? fuel column true token
          else
            some (.absent, token)

/-- Reads the item behind a list mark in a column; a list inside it is indented more. -/
def blockItem? :
    Nat → Nat → Nat → Remainder → Option (Node × Remainder)
  | 0, _, _, _ => none
  | fuel + 1, column, line, remainder =>
      let token := remainder.toToken
      match token.here with
      | [] => some (.absent, token)
      | place :: _ =>
          if !atMarker token.here && (place.line == line || column < place.column) then
            blockNode? fuel ⟨column + 1, true, false⟩ token
          else
            some (.absent, token)

/-- Reads a list whose marks stand in a column.  A flush list stands in the column of its key. -/
def blockList? :
    Nat → Nat → Bool → Remainder → Option (Node × Remainder)
  | 0, _, _, _ => none
  | fuel + 1, column, flush, remainder =>
      (blockItems? fuel column flush [] remainder).map fun found => (.list none found.1, found.2)

/-- Reads the items of a list, whose first mark stands here. -/
def blockItems? :
    Nat → Nat → Bool → List Node → Remainder → Option (List Node × Remainder)
  | 0, _, _, _, _ => none
  | fuel + 1, column, flush, read, remainder =>
      match remainder.here with
      | [] => none
      | mark :: rest => do
          let (item, afterItem) ← blockItem? fuel column mark.line (remainder.goTo rest)
          let token := afterItem.toToken
          match continuation column token.here with
          | .misplaced => none
          | .finished => return ((item :: read).reverse, token)
          | .another =>
              if atIndicator '-' token.here then
                blockItems? fuel column flush (item :: read) token
              else if flush then
                return ((item :: read).reverse, token)
              else
                none

/-- Reads a mapping from the key that stands here on, after the entries already read in reverse. -/
def blockMapping? :
    Nat → Nat → List (Node × Node) → Remainder → Option (Node × Remainder)
  | 0, _, _, _ => none
  | fuel + 1, column, read, remainder =>
      match remainder.here with
      | [] => none
      | start :: rest =>
          if atIndicator '?' remainder.here then do
            let (key, afterKey) ← blockValue? fuel column start.line true (remainder.goTo rest)
            let token := afterKey.toToken
            let (value, following) ← explicitValue? fuel column token
            blockMappingOnward? fuel column ((key, value) :: read) following
          else do
            let surrounding := Surrounding.block (column + 1)
            let (properties, afterProperties) ← properties? remainder.here
            let (key, afterKey) ←
              content? surrounding properties fuel
                (remainder.goTo (afterProperties.dropWhile Place.isSpace))
            let afterColon ← afterColon? surrounding start afterKey.here
            let (value, following) ←
              blockValue? fuel column start.line false (afterKey.goTo afterColon)
            blockMappingOnward? fuel column ((key, value) :: read) following

/--
Reads the value of a key that a question mark introduced; it stands behind a
colon of its own.
-/
def explicitValue? : Nat → Nat → Remainder → Option (Node × Remainder)
  | 0, _, _ => none
  | fuel + 1, column, remainder =>
      match remainder.here with
      | place :: rest =>
          if place.column == column && atIndicator ':' remainder.here then
            blockValue? fuel column place.line true (remainder.goTo rest)
          else
            some (.absent, remainder)
      | [] => some (.absent, remainder)

/-- Goes on with a mapping after an entry. -/
def blockMappingOnward? :
    Nat → Nat → List (Node × Node) → Remainder → Option (Node × Remainder)
  | 0, _, _, _ => none
  | fuel + 1, column, read, remainder =>
      let token := remainder.toToken
      match continuation column token.here with
      | .misplaced => none
      | .finished => some (.mapping none read.reverse, token)
      | .another => blockMapping? fuel column read token

end

/-! Documents -/

/-- How many nested readings a document may need. -/
def depthLimit (here : List Place) : Nat :=
  8 * here.length + 16

/-- Reads the node of a document, which may be missing. -/
def rootNode?
    (mayNest : Bool)
    (here : List Place) : Option (Node × List Place) :=
  if here.isEmpty || atMarker here then some (.absent, here)
  else
    (blockNode? (depthLimit here) ⟨0, mayNest, true⟩ ⟨here, []⟩).map fun found =>
      (found.1, found.2.here)

/-- Whether nothing but end markers follows, at most as many as the fuel. -/
def isFinished : Nat → List Place → Bool
  | 0, _ => false
  | fuel + 1, here =>
      let token := toToken here
      token.isEmpty ||
        match afterMarker? endMarker token with
        | some rest => isFinished fuel rest
        | none => false

/-- Whether a directive asks for nothing that is not understood. -/
def isUnderstood (line : List Char) : Bool :=
  match Text.afterPrefix? "%YAML".toList line with
  | some version =>
      Text.beginsWith "1.".toList (version.dropWhile (· == ' '))
  | none => true

/-- Goes on to the marker that starts a document, over directives, at most as many as the fuel. -/
def afterDirectives? : Nat → List Place → Option (List Place)
  | 0, _ => none
  | fuel + 1, here =>
      match here with
      | place :: _ =>
          if place.character == '%' && place.column == 0 then
            let (line, rest) := here.span fun place => !place.endsLine
            if isUnderstood (charactersAt line) then afterDirectives? fuel (toToken rest) else none
          else if (afterMarker? startMarker here).isSome then
            some here
          else
            none
      | [] => none

/-- Whether a directive stands here, at the start of a line. -/
def atDirective : List Place → Bool
  | [] => false
  | place :: _ => place.character == '%' && place.column == 0

/-- Whether a token stands on the line of a place. -/
def isOnLine
    (line : Nat) :
    List Place → Bool
  | [] => false
  | place :: _ => place.line == line

/-- The root node of the one document, behind its directives and markers. -/
def document? (here : List Place) : Option Node := do
  let token := toToken here
  let start ← if atDirective token then afterDirectives? token.length token else some token
  let (node, rest) ←
    match start, afterMarker? startMarker start with
    | place :: _, some rest =>
        let first := toToken rest
        rootNode? (!isOnLine place.line first) first
    | _, _ =>
        if (afterMarker? endMarker start).isSome then none else rootNode? true start
  if isFinished (rest.length + 1) rest then some node else none

/-- Whether a character may stand in a document at all. -/
def isPermitted (character : Char) : Bool :=
  let codePoint := character.toNat
  codePoint == 0x09 || codePoint == 0x0A || codePoint == 0x0D || codePoint == 0x85 ||
    (0x20 ≤ codePoint && codePoint ≤ 0x7E) ||
    (0xA0 ≤ codePoint && codePoint ≤ 0xD7FF) ||
    (0xE000 ≤ codePoint && codePoint ≤ 0xFFFD) ||
    0x10000 ≤ codePoint

/-- Drops a byte order mark at the start of a document. -/
def dropOrderMark : List Char → List Char
  | character :: rest => if character == orderMark then rest else character :: rest
  | [] => []

/-- The value of a text that holds one document; none where the text is no such document. -/
def read? (text : String) : Option Value :=
  let characters := Text.unifyLineEnds text.toList
  if characters.all isPermitted then
    (document? (places (dropOrderMark characters))).bind Node.value?
  else
    none

end ExpertAdvisor.Yaml

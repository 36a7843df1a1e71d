import ExpertAdvisor.Indicator.Comment
import ExpertAdvisor.Indicator.Parameter
import ExpertAdvisor.Journal
import ExpertAdvisor.Text.Alphanumeric
import ExpertAdvisor.Text.Blank
import ExpertAdvisor.Text.Pattern

namespace ExpertAdvisor.Indicator

/-!
# Parameter declarations

A line that begins with a declaration

```text
input <type> <name> = <value>;
```

or with `extern` in place of `input` declares a parameter.  Blanks between the
tokens may include line breaks, and `const` may stand before the type; the value
ends at the first semicolon, which must be on the line where the value starts.
The text is scanned for declarations from left to right, and the first
declaration of a name counts.
-/

/-- One blank or more. -/
def blanks : Text.Pattern :=
  .follow (.one Text.isBlank) (.many Text.isBlank)

/-- A word that marks a parameter. -/
def inputQualifier : List Char := "input".toList

/-- The other word that marks a parameter. -/
def externQualifier : List Char := "extern".toList

/-- The word that may stand before a type. -/
def constModifier : List Char := "const".toList

/-- A name as the language of indicators has them. -/
def identifier : Text.Pattern :=
  .follow (.one Text.isIdentifierStart) (.many Text.isWord)

/-- Whether a character may stand in a value: it neither ends the value nor its line. -/
def isValueCharacter (character : Char) : Bool :=
  !(character == ';' || character == '\r' || character == '\n')

/-- A declaration at the start of a line. -/
def declarationPattern : Text.Pattern :=
  .sequence [
    .lineStart,
    .many Text.isSpaceOrTab,
    .either (.word inputQualifier) (.word externQualifier),
    blanks,
    .maybe (.follow (.word constModifier) blanks),
    .group "type" identifier,
    blanks,
    .group "name" identifier,
    .many Text.isBlank,
    .word ['='],
    .many Text.isSpaceOrTab,
    .group "value" (.few isValueCharacter),
    .many Text.isSpaceOrTab,
    .word [';']]

/-- The parameter that a match declares; its default has no blanks around it. -/
def declaredParameter (found : Text.Match) : Parameter where
  name := String.ofList (found.captured "name")
  default := String.ofList (Text.trimBlanks (found.captured "value"))
  declaredType := some (String.ofList (found.captured "type"))

/-- Every declaration in the text, repeated names included. -/
def declarations (source : List Char) : List Parameter :=
  (declarationPattern.scan source).map declaredParameter

/-- What a list of declarations amounts to: the parameters, and the names declared again. -/
structure Extraction where
  parameters : List Parameter
  repeated : List String
  deriving Repr, DecidableEq

/-- Takes one more declaration into account, with parameters and repeated names in reverse. -/
def Extraction.extend
    (extraction : Extraction)
    (parameter : Parameter) : Extraction :=
  if extraction.parameters.any fun known => known.name == parameter.name then
    { extraction with repeated := parameter.name :: extraction.repeated }
  else
    { extraction with parameters := parameter :: extraction.parameters }

/-- Sorts declarations into first and repeated ones. -/
def Extraction.ofDeclarations (declared : List Parameter) : Extraction :=
  let found := declared.foldl Extraction.extend ⟨[], []⟩
  ⟨found.parameters.reverse, found.repeated.reverse⟩

/-- What the source text declares, comments apart. -/
def extraction (source : String) : Extraction :=
  .ofDeclarations (declarations (blankComments source.toList))

/-- The parameters of an indicator, in order of first appearance. -/
def parameters (source : String) : List Parameter :=
  (extraction source).parameters

/-- The journal of an extraction: the names declared again, then the number of parameters. -/
def journal (source : String) : List Entry :=
  let found := extraction source
  let entry (event : String) (fields : Record) : Entry :=
    ⟨.debug, "converter.input_parser", event, fields⟩
  found.repeated.map (fun name => entry "indicator_input_redeclared" [("name", .text name)]) ++
    [entry "indicator_inputs_extracted"
      [("count", .integer found.parameters.length), ("source_length", .integer source.length)]]

end ExpertAdvisor.Indicator

namespace ExpertAdvisor.Command

/-!
# Command-line words

Words that begin with a dash are options; the others are operands.  A long
option takes its value behind an equals sign or as the next word, a one-letter
option behind the letter or as the next word.  Two dashes alone end the options,
and of an option that is given twice the last value counts.
-/

/-- A spelling of an option; a fixed value goes without saying, and otherwise one must be given. -/
structure OptionForm where
  key : String
  spelling : String
  fixed : Option String
  deriving Repr, DecidableEq

namespace OptionForm

/-- An option that takes the next word for its value. -/
def valued
    (key spelling : String) : OptionForm :=
  ⟨key, spelling, none⟩

/-- An option that stands for a value of its own. -/
def constant
    (key spelling value : String) : OptionForm :=
  ⟨key, spelling, some value⟩

end OptionForm

/-- The values given to options, last first, and the operands in order. -/
structure Arguments where
  given : List (String × String)
  operands : List String
  deriving Repr, DecidableEq

namespace Arguments

/-- The value that an option has in the end. -/
def value?
    (arguments : Arguments)
    (key : String) : Option String :=
  arguments.given.lookup key

/-- Whether an option was given. -/
def has
    (arguments : Arguments)
    (key : String) : Bool :=
  (arguments.value? key).isSome

/-- Gives an option a value; the value given last is found first. -/
def give
    (arguments : Arguments)
    (key value : String) : Arguments :=
  { arguments with given := (key, value) :: arguments.given }

/-- Adds operands behind those that are there. -/
def withOperands
    (arguments : Arguments)
    (words : List String) : Arguments :=
  { arguments with operands := arguments.operands ++ words }

end Arguments

/-- What a word says about an option: its value, or that the next word is its value. -/
inductive Selection where
  | complete (key value : String)
  | awaiting (key : String)
  deriving Repr, DecidableEq

/-- The form of the option with a spelling. -/
def form?
    (forms : List OptionForm)
    (spelling : List Char) : Option OptionForm :=
  forms.find? fun form => form.spelling.toList == spelling

/-- What a long option says, whose value may stand behind an equals sign. -/
def longSelection?
    (forms : List OptionForm)
    (word : List Char) : Option Selection :=
  let (spelling, attached) := word.span (· != '=')
  match form? forms spelling with
  | none => none
  | some form =>
      match form.fixed, attached with
      | some value, [] => some (.complete form.key value)
      | some _, _ :: _ => none
      | none, _ :: value => some (.complete form.key (String.ofList value))
      | none, [] => some (.awaiting form.key)

/-- What a one-letter option says, whose value may follow the letter. -/
def shortSelection?
    (forms : List OptionForm)
    (word : List Char) : Option Selection :=
  (form? forms (word.take 2)).map fun form =>
    match word.drop 2 with
    | [] => .awaiting form.key
    | value => .complete form.key (String.ofList value)

/-- What a word that begins with a dash says. -/
def selection?
    (forms : List OptionForm)
    (word : List Char) : Option Selection :=
  match word with
  | '-' :: '-' :: _ => longSelection? forms word
  | _ => shortSelection? forms word

/-- Whether a word is an option; a dash alone is an operand. -/
def isOption (word : String) : Bool :=
  match word.toList with
  | '-' :: _ :: _ => true
  | _ => false

/-- Reads words; unless options may follow operands, the first operand ends them. -/
def Arguments.readFrom
    (forms : List OptionForm)
    (optionsMayFollow : Bool)
    (arguments : Arguments) :
    List String → Option Arguments
  | [] => some arguments
  | word :: rest =>
      if word == "--" then some (arguments.withOperands rest)
      else if isOption word then
        match selection? forms word.toList with
        | none => none
        | some (.complete key value) =>
            readFrom forms optionsMayFollow (arguments.give key value) rest
        | some (.awaiting key) =>
            match rest with
            | [] => none
            | value :: more => readFrom forms optionsMayFollow (arguments.give key value) more
      else if optionsMayFollow then
        readFrom forms optionsMayFollow (arguments.withOperands [word]) rest
      else
        some (arguments.withOperands (word :: rest))

/-- Reads words among which options may stand anywhere. -/
def Arguments.read
    (forms : List OptionForm)
    (words : List String) : Option Arguments :=
  readFrom forms true ⟨[], []⟩ words

/-- Reads words up to the first operand. -/
def Arguments.readLeading
    (forms : List OptionForm)
    (words : List String) : Option Arguments :=
  readFrom forms false ⟨[], []⟩ words

end ExpertAdvisor.Command

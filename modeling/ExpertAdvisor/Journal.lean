import ExpertAdvisor.Value.Basic

namespace ExpertAdvisor

/-!
# The journal

Operations describe what they did in journal entries.  An entry names the part
of the program that wrote it and the event, and carries the event's own fields.
A verbosity keeps the entries that are severe enough.
-/

/-- How much an entry matters. -/
inductive Severity where
  | debug
  | info
  | warning
  | error
  | critical
  deriving Repr, DecidableEq

namespace Severity

/-- The severity's place on the scale of verbosities. -/
def rank : Severity → Nat
  | .debug => 10
  | .info => 20
  | .warning => 30
  | .error => 40
  | .critical => 50

/-- The name of a severity in log entries. -/
def name : Severity → String
  | .debug => "debug"
  | .info => "info"
  | .warning => "warning"
  | .error => "error"
  | .critical => "critical"

/-- Every severity, least first. -/
def all : List Severity :=
  [.debug, .info, .warning, .error, .critical]

end Severity

/-- One event worth telling. -/
structure Entry where
  severity : Severity
  module : String
  event : String
  fields : Record
  deriving DecidableEq, Repr

namespace Entry

/-- An entry as a value; its event and its severity count over fields of the same names. -/
def toValue (entry : Entry) : Value :=
  .record (Record.ofFields
    (("module", .text entry.module) :: entry.fields ++
      [("event", .text entry.event), ("level", .text entry.severity.name)]))

end Entry

/-- The least rank of the entries that are kept. -/
structure Verbosity where
  rank : Nat
  deriving Repr, DecidableEq

namespace Verbosity

/-- The verbosity that a name not listed stands for. -/
def standard : Verbosity := ⟨20⟩

/-- The verbosity names, in capitals, with their ranks. -/
def names : List (String × Nat) :=
  [("CRITICAL", 50), ("FATAL", 50), ("ERROR", 40), ("WARN", 30), ("WARNING", 30),
    ("INFO", 20), ("DEBUG", 10), ("NOTSET", 0)]

/-- The capital of a letter that can occur in a verbosity name. -/
def capital (character : Char) : Char :=
  if character == 'ı' then 'I'
  else if character == 'ſ' then 'S'
  else character.toUpper

/-- The verbosity of a name in letters of either case. -/
def ofName (name : String) : Verbosity :=
  let capitals := String.ofList (name.toList.map capital)
  match names.find? fun listed => listed.1 == capitals with
  | some listed => ⟨listed.2⟩
  | none => standard

/-- The verbosity that a setting asks for; only names ask for one. -/
def ofValue : Value → Verbosity
  | .text name => ofName name
  | _ => standard

/-- Whether an entry is severe enough to be kept. -/
def keeps
    (verbosity : Verbosity)
    (entry : Entry) : Bool :=
  verbosity.rank ≤ entry.severity.rank

/-- The entries that are severe enough, in order. -/
def kept
    (verbosity : Verbosity)
    (entries : List Entry) : List Entry :=
  entries.filter verbosity.keeps

end Verbosity

/-- A result and what was told on the way to it. -/
structure Journaled (α : Type) where
  entries : List Entry
  result : α

namespace Journaled

/-- A result without a word. -/
def silent (result : α) : Journaled α :=
  ⟨[], result⟩

/-- Goes on from a result; what is told later comes later. -/
def andThen
    (first : Journaled α)
    (next : α → Journaled β) : Journaled β :=
  let second := next first.result
  ⟨first.entries ++ second.entries, second.result⟩

/-- Tells more before a result. -/
def after
    (entries : List Entry)
    (second : Journaled α) : Journaled α :=
  ⟨entries ++ second.entries, second.result⟩

end Journaled

/-- One entry of each severity, which shows what a verbosity keeps. -/
def Journal.everySeverity
    (module event : String)
    (fields : Record) : List Entry :=
  Severity.all.map fun severity => ⟨severity, module, event, fields⟩

end ExpertAdvisor

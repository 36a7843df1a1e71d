import ExpertAdvisor.Value.Basic

namespace ExpertAdvisor.Value

/-!
# Parts of values

A test of a value and of every value inside it looks at each of them by itself.
-/

mutual

/-- Whether a value passes a test, and so does every value inside it. -/
def all (test : Value → Bool) : Value → Bool
  | .list items => test (.list items) && allItems test items
  | .record fields => test (.record fields) && allFields test fields
  | .misnamed names values => test (.misnamed names values) && allItems test values
  | plain => test plain

/-- Whether all list items pass a test, with every value inside them. -/
def allItems (test : Value → Bool) : List Value → Bool
  | [] => true
  | item :: rest => all test item && allItems test rest

/-- Whether the values of all fields pass a test, with every value inside them. -/
def allFields (test : Value → Bool) : List (String × Value) → Bool
  | [] => true
  | (_, value) :: rest => all test value && allFields test rest

end

/-- A test of list items is a test of each. -/
theorem allItems_iff
    {test : Value → Bool}
    {items : List Value} :
    allItems test items = true ↔ ∀ item ∈ items, all test item = true := by
  induction items with
  | nil => simp [allItems]
  | cons item rest inductionHypothesis => simp [allItems, inductionHypothesis]

/-- A test of fields is a test of the value of each. -/
theorem allFields_iff
    {test : Value → Bool}
    {fields : List (String × Value)} :
    allFields test fields = true ↔ ∀ field ∈ fields, all test field.2 = true := by
  induction fields with
  | nil => simp [allFields]
  | cons field rest inductionHypothesis => simp [allFields, inductionHypothesis]

end ExpertAdvisor.Value

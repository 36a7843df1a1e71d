namespace ExpertAdvisor

/-!
# Indicator parameters

A parameter is one value that an indicator lets its user set.
-/

/-- A parameter: its name, its default text exactly as written, and its declared type if known. -/
structure Parameter where
  name : String
  default : String
  declaredType : Option String
  deriving Repr, DecidableEq

/-- The names of parameters, in their order. -/
def Parameter.names (parameters : List Parameter) : List String :=
  parameters.map Parameter.name

end ExpertAdvisor

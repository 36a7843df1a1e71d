import ExpertAdvisor.Proofs.Code.Token

namespace ExpertAdvisor.Code

/-!
# Instructions

The part of the language that a tick uses: declarations with a value, calls,
early return, blocks and branches.  A condition is written without parentheses
inside, so it is a list of alternatives, each a list of tests.  Instructions
keep the layout of their code, that is, whether a branch is a block.
-/

/-- A name, or an integer with its sign. -/
inductive Term where
  | name (word : String)
  | integer (value : Int)
  deriving Repr, DecidableEq

/-- A term, or what a function gives. -/
inductive Atom where
  | term (content : Term)
  | call (function : String) (arguments : List Term)
  deriving Repr, DecidableEq

/-- An atom as it is, an atom negated, or two atoms compared. -/
inductive Test where
  | plain (atom : Atom)
  | negated (atom : Atom)
  | compared (left : Atom) (comparator : Comparator) (right : Atom)
  deriving Repr, DecidableEq

/-- Alternatives, of which one must hold with all its tests. -/
abbrev Condition := List (List Test)

/-- The types of variables. -/
inductive ValueType where
  | double
  | bool
  deriving Repr, DecidableEq

/-- An instruction of a function's body. -/
inductive Instruction where
  | declare (type : ValueType) (name : String) (value : Condition)
  | leave
  | perform (function : String) (arguments : List Term)
  | block (body : List Instruction)
  | choose (condition : Condition) (accepted : Instruction)
  | chooseOr (condition : Condition) (accepted otherwise : Instruction)

/-! The tokens that instructions are written with. -/

/-- The mark between arguments. -/
def Token.comma : Token := .mark .comma
/-- The mark between tests that must all hold. -/
def Token.conjunction : Token := .mark .conjunction
/-- The mark between conjunctions of which one must hold. -/
def Token.disjunction : Token := .mark .disjunction

/-- Items with a separator between them. -/
def separated
    (separator : Token)
    (itemTokens : α → List Token) :
    List α → List Token
  | [] => []
  | [item] => itemTokens item
  | item :: next :: more =>
      itemTokens item ++ separator :: separated separator itemTokens (next :: more)

theorem separated_map
    (separator : Token)
    (itemTokens : β → List Token)
    (change : α → β)
    (items : List α) :
    separated separator itemTokens (items.map change) =
      separated separator (fun item => itemTokens (change item)) items := by
  induction items with
  | nil => rfl
  | cons item rest inductionHypothesis =>
      cases rest with
      | nil => rfl
      | cons next more =>
          rw [List.map_cons] at inductionHypothesis
          simp only [List.map_cons, separated, inductionHypothesis]

/-- The tokens of a term; a negative integer is written with a sign in front. -/
def Term.tokens : Term → List Token
  | .name word => [.name word]
  | .integer value =>
      if value < 0 then [.mark .minus, .number value.natAbs] else [.number value.natAbs]

/-- A function's name with its arguments in parentheses. -/
def callTokens
    (function : String)
    (arguments : List Term) : List Token :=
  .name function :: .mark .openParenthesis ::
    (separated .comma Term.tokens arguments ++ [.mark .closeParenthesis])

/-- The tokens of an atom. -/
def Atom.tokens : Atom → List Token
  | .term content => content.tokens
  | .call function arguments => callTokens function arguments

/-- The tokens of a test. -/
def Test.tokens : Test → List Token
  | .plain atom => atom.tokens
  | .negated atom => .mark .negation :: atom.tokens
  | .compared left comparator right =>
      left.tokens ++ .mark (.comparison comparator) :: right.tokens

/-- The tokens of a condition: a disjunction of conjunctions of tests. -/
def conditionTokens (condition : Condition) : List Token :=
  separated .disjunction (separated .conjunction Test.tokens) condition

/-- The keyword of a type. -/
def ValueType.keyword : ValueType → Keyword
  | .double => .doubleType
  | .bool => .boolType

/-- The tokens that open a branch. -/
def branchTokens (condition : Condition) : List Token :=
  .keyword .ifWord :: .mark .openParenthesis ::
    (conditionTokens condition ++ [.mark .closeParenthesis])

mutual

/-- The tokens of an instruction. -/
def Instruction.tokens : Instruction → List Token
  | .declare type name value =>
      .keyword type.keyword :: .name name :: .mark .assign ::
        (conditionTokens value ++ [.mark .semicolon])
  | .leave => [.keyword .returnWord, .mark .semicolon]
  | .perform function arguments => callTokens function arguments ++ [.mark .semicolon]
  | .block body => .mark .openBrace :: (bodyTokens body ++ [.mark .closeBrace])
  | .choose condition accepted => branchTokens condition ++ accepted.tokens
  | .chooseOr condition accepted otherwise =>
      branchTokens condition ++ accepted.tokens ++
        .keyword .elseWord :: otherwise.tokens

/-- The tokens of a body of instructions, one after another. -/
def bodyTokens : List Instruction → List Token
  | [] => []
  | instruction :: rest => instruction.tokens ++ bodyTokens rest

end

theorem bodyTokens_append (first second : List Instruction) :
    bodyTokens (first ++ second) = bodyTokens first ++ bodyTokens second := by
  induction first with
  | nil => simp [bodyTokens]
  | cons instruction rest inductionHypothesis =>
      simp [bodyTokens, inductionHypothesis]

/-! Instructions that can be read back. -/

/-- Whether a call has an argument. -/
def Atom.isFilled : Atom → Bool
  | .term _ => true
  | .call _ arguments => !arguments.isEmpty

/-- Whether every call in a test has arguments. -/
def Test.isFilled : Test → Bool
  | .plain atom | .negated atom => atom.isFilled
  | .compared left _ right => left.isFilled && right.isFilled

/-- Whether a condition has an alternative, and every alternative a test. -/
def isFilled (condition : Condition) : Bool :=
  !condition.isEmpty && condition.all fun tests => !tests.isEmpty && tests.all Test.isFilled

/-- Whether an instruction cannot be continued by an alternative. -/
def Instruction.isClosed : Instruction → Bool
  | .choose _ _ => false
  | .chooseOr _ _ otherwise => otherwise.isClosed
  | _ => true

mutual

/-- Whether an instruction is read back from its tokens. -/
def Instruction.isLegible : Instruction → Bool
  | .declare _ _ value => isFilled value
  | .leave => true
  | .perform _ arguments => !arguments.isEmpty
  | .block body => areLegible body
  | .choose condition accepted => isFilled condition && accepted.isLegible
  | .chooseOr condition accepted otherwise =>
      isFilled condition && accepted.isLegible && accepted.isClosed && otherwise.isLegible

/-- Whether all instructions of a body can be read back. -/
def areLegible : List Instruction → Bool
  | [] => true
  | instruction :: rest => instruction.isLegible && areLegible rest

end

theorem areLegible_append (first second : List Instruction) :
    areLegible (first ++ second) = (areLegible first && areLegible second) := by
  induction first with
  | nil => simp [areLegible]
  | cons instruction rest inductionHypothesis =>
      simp [areLegible, inductionHypothesis, Bool.and_assoc]

end ExpertAdvisor.Code

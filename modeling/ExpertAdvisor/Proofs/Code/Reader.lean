import ExpertAdvisor.Proofs.Code.Instruction

namespace ExpertAdvisor.Code

/-!
# Reading instructions

Code is read from its tokens by descent.  An alternative belongs to the nearest
branch that can take it.  What instructions are written with is read back as
these instructions, whatever tokens follow.
-/

/-- What follows a token that must come first. -/
def after?
    (expected : Token) :
    List Token → Option (List Token)
  | [] => none
  | token :: rest => if token = expected then some rest else none

/-- Reads a number of items at most, with a separator between them. -/
def separatedFrom?
    (separator : Token)
    (item? : List Token → Option (α × List Token)) :
    Nat → List Token → Option (List α × List Token)
  | 0, _ => none
  | limit + 1, tokens => do
      let (item, rest) ← item? tokens
      match after? separator rest with
      | some more =>
          let (items, rest) ← separatedFrom? separator item? limit more
          return (item :: items, rest)
      | none => return ([item], rest)

/-- Reads items with a separator between them; there are no more items than tokens. -/
def separated?
    (separator : Token)
    (item? : List Token → Option (α × List Token))
    (tokens : List Token) : Option (List α × List Token) :=
  separatedFrom? separator item? tokens.length tokens

/-- Reads a term. -/
def term? : List Token → Option (Term × List Token)
  | .name word :: rest => some (.name word, rest)
  | .number value :: rest => some (.integer value, rest)
  | .mark .minus :: .number value :: rest => some (.integer (-value), rest)
  | _ => none

/-- Reads arguments up to the closing parenthesis. -/
def arguments? (tokens : List Token) : Option (List Term × List Token) := do
  let (arguments, rest) ← separated? .comma term? tokens
  let rest ← after? (.mark .closeParenthesis) rest
  return (arguments, rest)

/-- Reads an atom: a call where a name stands before a parenthesis, and else a term. -/
def atom? : List Token → Option (Atom × List Token)
  | .name function :: .mark .openParenthesis :: rest => do
      let (arguments, rest) ← arguments? rest
      return (.call function arguments, rest)
  | tokens => do
      let (content, rest) ← term? tokens
      return (.term content, rest)

/-- Reads a comparator. -/
def comparator? : List Token → Option (Comparator × List Token)
  | .mark (.comparison comparator) :: rest => some (comparator, rest)
  | _ => none

/-- Reads a test: negated, compared or plain. -/
def test? (tokens : List Token) : Option (Test × List Token) :=
  match after? (.mark .negation) tokens with
  | some rest => do
      let (atom, rest) ← atom? rest
      return (.negated atom, rest)
  | none => do
      let (left, rest) ← atom? tokens
      match comparator? rest with
      | some (comparator, more) =>
          let (right, rest) ← atom? more
          return (.compared left comparator right, rest)
      | none => return (.plain left, rest)

/-- Reads a condition. -/
def condition? (tokens : List Token) : Option (Condition × List Token) :=
  separated? .disjunction (separated? .conjunction test?) tokens

/-- Reads the rest of a declaration, from its name on. -/
def declaration?
    (type : ValueType) :
    List Token → Option (Instruction × List Token)
  | .name name :: .mark .assign :: rest => do
      let (value, rest) ← condition? rest
      let rest ← after? (.mark .semicolon) rest
      return (.declare type name value, rest)
  | _ => none

mutual

/-- Reads an instruction; the fuel bounds how deep branches and blocks may stand in it. -/
def instruction? : Nat → List Token → Option (Instruction × List Token)
  | 0, _ => none
  | _, .keyword .doubleType :: rest => declaration? .double rest
  | _, .keyword .boolType :: rest => declaration? .bool rest
  | _, .keyword .returnWord :: rest => do
      let rest ← after? (.mark .semicolon) rest
      return (.leave, rest)
  | _, .name function :: .mark .openParenthesis :: rest => do
      let (arguments, rest) ← arguments? rest
      let rest ← after? (.mark .semicolon) rest
      return (.perform function arguments, rest)
  | fuel + 1, .mark .openBrace :: rest => do
      let (body, rest) ← body? fuel rest
      let rest ← after? (.mark .closeBrace) rest
      return (.block body, rest)
  | fuel + 1, .keyword .ifWord :: .mark .openParenthesis :: rest => do
      let (condition, rest) ← condition? rest
      let rest ← after? (.mark .closeParenthesis) rest
      let (accepted, rest) ← instruction? fuel rest
      match after? (.keyword .elseWord) rest with
      | some more =>
          let (otherwise, rest) ← instruction? fuel more
          return (.chooseOr condition accepted otherwise, rest)
      | none => return (.choose condition accepted, rest)
  | _, _ => none

/-- Reads instructions up to a closing brace or to the end. -/
def body? : Nat → List Token → Option (List Instruction × List Token)
  | 0, _ => none
  | _, [] => some ([], [])
  | _, .mark .closeBrace :: rest => some ([], .mark .closeBrace :: rest)
  | fuel + 1, tokens => do
      let (instruction, rest) ← instruction? fuel tokens
      let (more, rest) ← body? fuel rest
      return (instruction :: more, rest)

end

/-- The instructions of a function's body. -/
def read? (code : String) : Option (List Instruction) :=
  match body? ((tokens code).length + 1) (tokens code) with
  | some (instructions, []) => some instructions
  | _ => none

/-! What is written is read back. -/

/-- Whether a token ends every condition and every argument. -/
def Token.isDelimiter : Token → Bool
  | .mark .comma | .mark .semicolon | .mark .closeParenthesis => true
  | .mark .conjunction | .mark .disjunction => true
  | _ => false

/-- Tokens that go on with a delimiter. -/
def Delimited (rest : List Token) : Prop :=
  ∃ token more, rest = token :: more ∧ token.isDelimiter = true

/-- Tokens that do not go on with a given one. -/
def Avoids
    (token : Token)
    (rest : List Token) : Prop :=
  after? token rest = none

theorem after?_cons_self
    (token : Token)
    (rest : List Token) :
    after? token (token :: rest) = some rest :=
  if_pos rfl

section Separated

variable {separator : Token} {item? : List Token → Option (α × List Token)}
variable {itemTokens : α → List Token} {Follows : List Token → Prop} {items : List α}
variable {rest : List Token}

/-- Items are read back one by one, until what follows is no separator. -/
theorem separatedFrom?_separated
    {limit : Nat}
    (someItems : items ≠ [])
    (enough : items.length ≤ limit)
    (readsBack : ∀ item ∈ items, ∀ later, Follows later →
      item? (itemTokens item ++ later) = some (item, later))
    (separatorFollows : ∀ later, Follows (separator :: later))
    (restFollows : Follows rest)
    (avoids : Avoids separator rest) :
    separatedFrom? separator item? limit (separated separator itemTokens items ++ rest) =
      some (items, rest) := by
  induction items generalizing limit with
  | nil => exact absurd rfl someItems
  | cons item more inductionHypothesis =>
      obtain ⟨limit, rfl⟩ : ∃ less, limit = less + 1 :=
        Nat.exists_eq_add_one.mpr (Nat.lt_of_lt_of_le (Nat.succ_pos _) enough)
      obtain ⟨itemReads, moreRead⟩ := List.forall_mem_cons.mp readsBack
      cases more with
      | nil =>
          have notSeparated : after? separator rest = none := avoids
          simp [separatedFrom?, separated, itemReads rest restFollows, notSeparated]
      | cons next later =>
          have goesOn := inductionHypothesis (List.cons_ne_nil _ _)
            (Nat.le_of_succ_le_succ enough) moreRead
          have first := itemReads
            (separator :: (separated separator itemTokens (next :: later) ++ rest))
            (separatorFollows _)
          simp [separatedFrom?, separated, first, after?_cons_self, goesOn]

theorem length_le_separated
    (written : ∀ item ∈ items, itemTokens item ≠ []) :
    items.length ≤ (separated separator itemTokens items).length := by
  induction items with
  | nil => exact Nat.le_refl 0
  | cons item more inductionHypothesis =>
      obtain ⟨itemWritten, moreWritten⟩ := List.forall_mem_cons.mp written
      have positive := List.length_pos_iff.mpr itemWritten
      have goesOn := inductionHypothesis moreWritten
      cases more with
      | nil => exact positive
      | cons next later =>
          simp only [separated, List.length_append, List.length_cons] at goesOn ⊢
          omega

/-- Separated items are read back when each is read back in front of what may follow it. -/
theorem separated?_separated
    (written : ∀ item ∈ items, itemTokens item ≠ [])
    (someItems : items ≠ [])
    (readsBack : ∀ item ∈ items, ∀ later, Follows later →
      item? (itemTokens item ++ later) = some (item, later))
    (separatorFollows : ∀ later, Follows (separator :: later))
    (restFollows : Follows rest)
    (avoids : Avoids separator rest) :
    separated? separator item? (separated separator itemTokens items ++ rest) =
      some (items, rest) := by
  refine separatedFrom?_separated someItems ?_ readsBack separatorFollows restFollows avoids
  rw [List.length_append]
  exact Nat.le_add_right_of_le (length_le_separated written)

theorem separated_ne_nil
    (written : ∀ item ∈ items, itemTokens item ≠ [])
    (someItems : items ≠ []) :
    separated separator itemTokens items ≠ [] := by
  have positive := List.length_pos_iff.mpr someItems
  exact List.length_pos_iff.mp (Nat.lt_of_lt_of_le positive (length_le_separated written))

end Separated

theorem Term.tokens_ne_nil (term : Term) : term.tokens ≠ [] := by
  cases term with
  | name word => exact List.cons_ne_nil _ _
  | integer value =>
      rw [tokens]
      split <;> exact List.cons_ne_nil _ _

theorem Atom.tokens_ne_nil (atom : Atom) : atom.tokens ≠ [] := by
  cases atom with
  | term content => exact content.tokens_ne_nil
  | call function arguments => exact List.cons_ne_nil _ _

theorem Test.tokens_ne_nil (test : Test) : test.tokens ≠ [] := by
  cases test with
  | plain atom => exact atom.tokens_ne_nil
  | negated atom => exact List.cons_ne_nil _ _
  | compared left comparator right => exact List.append_ne_nil_of_right_ne_nil _ (by simp)

theorem term?_tokens
    (term : Term)
    (rest : List Token) :
    term? (term.tokens ++ rest) = some (term, rest) := by
  cases term with
  | name word => rfl
  | integer value =>
      rw [Term.tokens]
      split
      case isTrue negative =>
        have restored : -(value.natAbs : Int) = value := by omega
        simp only [List.cons_append, List.nil_append, term?, restored]
      case isFalse notNegative =>
        have restored : (value.natAbs : Int) = value := by omega
        simp only [List.cons_append, List.nil_append, term?, restored]

theorem arguments?_tokens
    {arguments : List Term}
    (someArguments : arguments ≠ [])
    (rest : List Token) :
    arguments? (separated .comma Term.tokens arguments ++ .mark .closeParenthesis :: rest) =
      some (arguments, rest) := by
  have items :
      separated? .comma term?
          (separated .comma Term.tokens arguments ++ .mark .closeParenthesis :: rest) =
        some (arguments, .mark .closeParenthesis :: rest) :=
    separated?_separated (fun term _ => term.tokens_ne_nil) someArguments
      (fun term _ later (_ : True) => term?_tokens term later) (fun _ => trivial) trivial rfl
  simp [arguments?, items, after?_cons_self]

/-- What begins with a term that no parenthesis follows is no call. -/
theorem atom?_of_term
    (term : Term)
    {rest : List Token}
    (avoids : Avoids (.mark .openParenthesis) rest) :
    atom? (term.tokens ++ rest) = some (.term term, rest) := by
  have read := term?_tokens term rest
  rw [atom?.eq_def]
  split
  case h_1 function more shape =>
    cases term with
    | name word =>
        obtain ⟨_, rfl⟩ := List.cons.inj shape
        exact absurd avoids (by simp [Avoids, after?_cons_self])
    | integer value =>
        rw [Term.tokens] at shape
        split at shape <;> exact absurd (List.cons.inj shape).1 nofun
  case h_2 => simp [read]

/-- An atom is read back from its tokens, unless a parenthesis follows it. -/
theorem atom?_tokens
    {atom : Atom}
    {rest : List Token}
    (filled : atom.isFilled = true)
    (avoids : Avoids (.mark .openParenthesis) rest) :
    atom? (atom.tokens ++ rest) = some (atom, rest) := by
  cases atom with
  | term content => exact atom?_of_term content avoids
  | call function arguments =>
      have someArguments : arguments ≠ [] := by simpa [Atom.isFilled] using filled
      have read := arguments?_tokens someArguments rest
      simp [Atom.tokens, callTokens, atom?, read]

theorem Delimited.avoids
    {token : Token}
    {rest : List Token}
    (delimited : Delimited rest)
    (notDelimiter : token.isDelimiter = false) :
    Avoids token rest := by
  obtain ⟨first, more, rfl, delimiter⟩ := delimited
  refine if_neg ?_
  rintro rfl
  exact absurd delimiter (by simp [notDelimiter])

/-- No atom begins with a negation. -/
theorem Atom.avoids_negation
    (atom : Atom)
    (rest : List Token) :
    Avoids (.mark .negation) (atom.tokens ++ rest) := by
  cases atom with
  | term content =>
      cases content with
      | name word => rfl
      | integer value =>
          rw [Atom.tokens, Term.tokens]
          split <;> rfl
  | call function arguments => rfl

/-- No comparator stands at the end of a test. -/
theorem Delimited.comparator?_eq_none
    {rest : List Token}
    (delimited : Delimited rest) :
    comparator? rest = none := by
  obtain ⟨first, more, rfl, delimiter⟩ := delimited
  rw [comparator?.eq_def]
  split
  case h_1 comparator later shape =>
    obtain ⟨rfl, _⟩ := List.cons.inj shape
    exact absurd delimiter nofun
  case h_2 => rfl

theorem test?_tokens
    {test : Test}
    {rest : List Token}
    (filled : test.isFilled = true)
    (delimited : Delimited rest) :
    test? (test.tokens ++ rest) = some (test, rest) := by
  have avoids : Avoids (.mark .openParenthesis) rest := delimited.avoids rfl
  cases test with
  | plain atom =>
      have noNegation : after? (.mark .negation) (atom.tokens ++ rest) = none :=
        atom.avoids_negation rest
      rw [test?, Test.tokens, noNegation]
      simp [atom?_tokens filled avoids, delimited.comparator?_eq_none]
  | negated atom =>
      rw [test?, Test.tokens, List.cons_append, after?_cons_self]
      simp [atom?_tokens filled avoids]
  | compared left comparator right =>
      obtain ⟨leftFilled, rightFilled⟩ := Bool.and_eq_true_iff.mp filled
      have noNegation (later : List Token) :
          after? (.mark .negation) (left.tokens ++ later) = none :=
        left.avoids_negation later
      have leftRead (later : List Token) :
          atom? (left.tokens ++ .mark (.comparison comparator) :: later) =
            some (left, .mark (.comparison comparator) :: later) :=
        atom?_tokens leftFilled rfl
      rw [test?, Test.tokens, List.append_assoc, List.cons_append, noNegation]
      simp [leftRead, comparator?, atom?_tokens rightFilled avoids]

/-- What may follow a condition: a delimiter that does not continue it. -/
structure ClosesCondition (rest : List Token) : Prop where
  delimited : Delimited rest
  noConjunction : Avoids .conjunction rest
  noDisjunction : Avoids .disjunction rest

/-- A condition is read back from its tokens. -/
theorem condition?_tokens
    {condition : Condition}
    {rest : List Token}
    (filled : isFilled condition = true)
    (closes : ClosesCondition rest) :
    condition? (conditionTokens condition ++ rest) = some (condition, rest) := by
  simp only [isFilled, Bool.and_eq_true, Bool.not_eq_true', List.isEmpty_eq_false_iff,
    List.all_eq_true] at filled
  obtain ⟨someAlternatives, alternativesFilled⟩ := filled
  have alternativeWritten : ∀ tests ∈ condition,
      separated .conjunction Test.tokens tests ≠ [] := fun tests member =>
    separated_ne_nil (fun test _ => test.tokens_ne_nil) (alternativesFilled tests member).1
  have alternativeRead : ∀ tests ∈ condition, ∀ later,
      Delimited later ∧ Avoids .conjunction later →
        separated? .conjunction test? (separated .conjunction Test.tokens tests ++ later) =
          some (tests, later) := by
    rintro tests member later ⟨delimited, noConjunction⟩
    obtain ⟨someTests, testsFilled⟩ := alternativesFilled tests member
    exact separated?_separated (fun test _ => test.tokens_ne_nil) someTests
      (fun test isTest _ follows => test?_tokens (testsFilled test isTest) follows)
      (fun later => ⟨_, later, rfl, rfl⟩) delimited noConjunction
  exact separated?_separated alternativeWritten someAlternatives alternativeRead
    (fun later => ⟨⟨_, later, rfl, rfl⟩, rfl⟩) ⟨closes.delimited, closes.noConjunction⟩
    closes.noDisjunction

/-- What is written is read back in front of a token that closes it. -/
theorem ClosesCondition.of_mark
    {mark : Mark}
    (closing : mark = .semicolon ∨ mark = .closeParenthesis)
    (rest : List Token) :
    ClosesCondition (.mark mark :: rest) := by
  rcases closing with rfl | rfl <;> exact ⟨⟨_, rest, rfl, rfl⟩, rfl, rfl⟩

/-- A body that goes on is read from its first instruction. -/
theorem body?_succ
    {fuel : Nat}
    {tokens : List Token}
    (notEnded : tokens ≠ [])
    (notClosed : ∀ later, tokens ≠ .mark .closeBrace :: later) :
    body? (fuel + 1) tokens = (do
      let (instruction, rest) ← instruction? fuel tokens
      let (more, rest) ← body? fuel rest
      return (instruction :: more, rest)) := by
  rw [body?]
  · exact notEnded
  · exact notClosed

/-! Instructions are read back by recursion on them. -/

/-- A declaration is read back from its tokens. -/
theorem declaration?_tokens
    (type : ValueType)
    (name : String)
    {value : Condition}
    (filled : isFilled value = true)
    (rest : List Token) :
    declaration? type (.name name :: .mark .assign ::
        (conditionTokens value ++ .mark .semicolon :: rest)) =
      some (.declare type name value, rest) := by
  have read := condition?_tokens filled (.of_mark (.inl rfl) rest)
  simp [declaration?, read, after?_cons_self]

theorem Instruction.tokens_ne_nil (instruction : Instruction) : instruction.tokens ≠ [] := by
  cases instruction <;>
    simp [Instruction.tokens, callTokens, branchTokens]

/-- Instructions do not begin like an alternative, nor like the end of a block. -/
theorem Instruction.avoids
    (instruction : Instruction)
    (rest : List Token) :
    Avoids (.keyword .elseWord) (instruction.tokens ++ rest) ∧
      Avoids (.mark .closeBrace) (instruction.tokens ++ rest) := by
  cases instruction with
  | declare type name value =>
      rw [Instruction.tokens]
      cases type <;> exact ⟨rfl, rfl⟩
  | leave => rw [Instruction.tokens]; exact ⟨rfl, rfl⟩
  | perform function arguments => rw [Instruction.tokens]; exact ⟨rfl, rfl⟩
  | block body => rw [Instruction.tokens]; exact ⟨rfl, rfl⟩
  | choose condition accepted => rw [Instruction.tokens]; exact ⟨rfl, rfl⟩
  | chooseOr condition accepted otherwise => rw [Instruction.tokens]; exact ⟨rfl, rfl⟩

mutual

/--
An instruction is read back from its tokens, unless an alternative would be
taken for its own.
-/
theorem instruction?_tokens
    {instruction : Instruction}
    {fuel : Nat}
    {rest : List Token}
    (legible : instruction.isLegible = true)
    (enough : instruction.tokens.length ≤ fuel)
    (alone : instruction.isClosed = true ∨ Avoids (.keyword .elseWord) rest) :
    instruction? fuel (instruction.tokens ++ rest) = some (instruction, rest) := by
  obtain ⟨fuel, rfl⟩ : ∃ less, fuel = less + 1 :=
    Nat.exists_eq_add_one.mpr (Nat.lt_of_lt_of_le
      (List.length_pos_iff.mpr instruction.tokens_ne_nil) enough)
  cases instruction with
  | declare type name value =>
      have read := declaration?_tokens type name legible rest
      cases type <;> simpa [Instruction.tokens, instruction?, ValueType.keyword] using read
  | leave => simp [Instruction.tokens, instruction?, after?_cons_self]
  | perform function arguments =>
      have someArguments : arguments ≠ [] := by simpa [Instruction.isLegible] using legible
      have read := arguments?_tokens someArguments (.mark .semicolon :: rest)
      simp [Instruction.tokens, callTokens, instruction?, read, after?_cons_self]
  | block body =>
      rw [Instruction.isLegible] at legible
      simp only [Instruction.tokens, List.length_cons, List.length_append] at enough
      have read := body?_tokens legible (Nat.le_of_succ_le_succ enough)
        (.inr ⟨rest, rfl⟩ : .mark .closeBrace :: rest = [] ∨ _)
      simp [Instruction.tokens, instruction?, read, after?_cons_self]
  | choose condition accepted =>
      simp only [Instruction.isLegible, Bool.and_eq_true] at legible
      simp only [Instruction.tokens, branchTokens, List.length_cons, List.length_append] at enough
      have noAlternative : after? (.keyword .elseWord) rest = none :=
        alone.resolve_left (by simp [Instruction.isClosed])
      have conditionRead := condition?_tokens legible.1
        (.of_mark (.inr rfl) (accepted.tokens ++ rest))
      have acceptedRead :
          instruction? fuel (accepted.tokens ++ rest) = some (accepted, rest) :=
        instruction?_tokens legible.2 (by omega) (.inr noAlternative)
      simp [Instruction.tokens, branchTokens, instruction?, conditionRead, after?_cons_self,
        acceptedRead, noAlternative]
  | chooseOr condition accepted otherwise =>
      simp only [Instruction.isLegible, Bool.and_eq_true] at legible
      simp only [Instruction.tokens, branchTokens, List.length_cons, List.length_append] at enough
      obtain ⟨⟨⟨conditionFilled, acceptedLegible⟩, acceptedClosed⟩, otherwiseLegible⟩ := legible
      let later := .keyword .elseWord :: (otherwise.tokens ++ rest)
      have conditionRead := condition?_tokens conditionFilled
        (.of_mark (.inr rfl) (accepted.tokens ++ later))
      have acceptedRead : instruction? fuel (accepted.tokens ++ later) = some (accepted, later) :=
        instruction?_tokens acceptedLegible (by omega) (.inl acceptedClosed)
      have otherwiseRead :
          instruction? fuel (otherwise.tokens ++ rest) = some (otherwise, rest) :=
        instruction?_tokens otherwiseLegible (by omega) alone
      simp only [later] at conditionRead acceptedRead
      simp [Instruction.tokens, branchTokens, instruction?, conditionRead, after?_cons_self,
        acceptedRead, otherwiseRead]

/-- A body is read back from its tokens, up to its end. -/
theorem body?_tokens
    {body : List Instruction}
    {fuel : Nat}
    {rest : List Token}
    (legible : areLegible body = true)
    (enough : (bodyTokens body).length + 1 ≤ fuel)
    (ends : rest = [] ∨ ∃ later, rest = .mark .closeBrace :: later) :
    body? fuel (bodyTokens body ++ rest) = some (body, rest) := by
  obtain ⟨fuel, rfl⟩ : ∃ less, fuel = less + 1 :=
    Nat.exists_eq_add_one.mpr (Nat.lt_of_lt_of_le (Nat.succ_pos _) enough)
  cases body with
  | nil => rcases ends with rfl | ⟨later, rfl⟩ <;> simp [bodyTokens, body?]
  | cons instruction more =>
      simp only [areLegible, Bool.and_eq_true] at legible
      simp only [bodyTokens, List.length_append] at enough
      have written := List.length_pos_iff.mpr instruction.tokens_ne_nil
      -- What follows an instruction of a body is no alternative to it.
      have alone : Avoids (.keyword .elseWord) (bodyTokens more ++ rest) := by
        cases more with
        | nil => rcases ends with rfl | ⟨later, rfl⟩ <;> rfl
        | cons next others =>
            rw [bodyTokens, List.append_assoc]
            exact (next.avoids _).1
      have first :
          instruction? fuel (instruction.tokens ++ (bodyTokens more ++ rest)) =
            some (instruction, bodyTokens more ++ rest) :=
        instruction?_tokens legible.1 (by omega) (.inr alone)
      have goesOn : body? fuel (bodyTokens more ++ rest) = some (more, rest) :=
        body?_tokens legible.2 (by omega) ends
      have notEnded : instruction.tokens ++ (bodyTokens more ++ rest) ≠ [] := by
        simp [instruction.tokens_ne_nil]
      have notClosed (later : List Token) :
          instruction.tokens ++ (bodyTokens more ++ rest) ≠ .mark .closeBrace :: later := by
        intro shape
        have avoids := (instruction.avoids (bodyTokens more ++ rest)).2
        rw [shape, Avoids, after?_cons_self] at avoids
        exact Option.some_ne_none later avoids
      rw [bodyTokens, List.append_assoc]
      simp [body?_succ notEnded notClosed, first, goesOn]

end

/-- Code whose tokens are those of legible instructions is read as these instructions. -/
theorem read?_eq_some
    {code : String}
    {instructions : List Instruction}
    (written : tokens code = bodyTokens instructions)
    (legible : areLegible instructions = true) :
    read? code = some instructions := by
  have read := body?_tokens legible (Nat.le_refl _) (.inl rfl)
  rw [List.append_nil] at read
  rw [read?, written, read]

end ExpertAdvisor.Code

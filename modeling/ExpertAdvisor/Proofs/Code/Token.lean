import ExpertAdvisor.Proofs.Number.Characters
import ExpertAdvisor.Text.Lines
import Mathlib.Data.List.SplitBy

namespace ExpertAdvisor.Code

open Text

/-!
# Tokens of code

Code is read line by line, and a remark reaches to the end of its line.  What is
left of a line falls into words, operators and single marks, each as long as it
can be; blanks only keep them apart.
-/

/-- How two numbers are compared. -/
inductive Comparator where
  | equal
  | less
  | atMost
  | greater
  | atLeast
  deriving Repr, DecidableEq

/-- A word with a meaning of its own. -/
inductive Keyword where
  | doubleType
  | boolType
  | ifWord
  | elseWord
  | returnWord
  deriving Repr, DecidableEq

/-- A token that is not a word. -/
inductive Mark where
  | openParenthesis
  | closeParenthesis
  | openBrace
  | closeBrace
  | comma
  | semicolon
  | assign
  | minus
  | negation
  | conjunction
  | disjunction
  | comparison (comparator : Comparator)
  deriving Repr, DecidableEq

/-- A token of code. -/
inductive Token where
  | keyword (word : Keyword)
  | name (word : String)
  | number (value : Nat)
  | mark (mark : Mark)
  | unknown
  deriving Repr, DecidableEq

/-- Whether a character may stand in a word. -/
def isWordCharacter (character : Char) : Bool :=
  character.isAlphanum || character == '_'

/-- Whether a character may stand in an operator. -/
def isOperatorCharacter (character : Char) : Bool :=
  ['=', '<', '>', '!', '&', '|', '-', '+', '*', '/', '%'].contains character

/-- Whether a character separates tokens and makes none. -/
def isGapCharacter (character : Char) : Bool :=
  [' ', '\t', '\r'].contains character

/-- Whether two characters next to each other belong to one token. -/
def joins (first second : Char) : Bool :=
  (isWordCharacter first && isWordCharacter second) ||
    (isOperatorCharacter first && isOperatorCharacter second)

/-- What stands before the remark of a line. -/
def withoutRemark : List Char → List Char
  | '/' :: '/' :: _ => []
  | character :: rest => character :: withoutRemark rest
  | [] => []

/-- The keywords, as they are spelled. -/
def keywords : List (List Char × Keyword) :=
  [("double".toList, .doubleType), ("bool".toList, .boolType), ("if".toList, .ifWord),
    ("else".toList, .elseWord), ("return".toList, .returnWord)]

/-- The marks, as they are spelled. -/
def marks : List (List Char × Mark) :=
  [(['('], .openParenthesis), ([')'], .closeParenthesis), (['\x7b'], .openBrace),
    (['\x7d'], .closeBrace), ([','], .comma), ([';'], .semicolon), (['='], .assign),
    (['-'], .minus), (['!'], .negation), (['&', '&'], .conjunction),
    (['|', '|'], .disjunction), (['=', '='], .comparison .equal),
    (['<'], .comparison .less), (['<', '='], .comparison .atMost),
    (['>'], .comparison .greater), (['>', '='], .comparison .atLeast)]

/-- Whether a word is a name: it does not begin with a digit. -/
def isName (word : List Char) : Bool :=
  word.all isWordCharacter && !word.head?.any Char.isDigit

/-- The token that a run of characters makes; a gap makes none. -/
def tokenOf? (run : List Char) : Option Token :=
  if run.all isGapCharacter then none
  else if run.all Char.isDigit then some (.number (Nat.ofDigitChars 10 run 0))
  else
    match keywords.lookup run, marks.lookup run with
    | some word, _ => some (.keyword word)
    | none, some mark => some (.mark mark)
    | none, none => some (if isName run then .name (String.ofList run) else .unknown)

/-- The tokens of a line, its remark left out. -/
def lineTokens (line : List Char) : List Token :=
  ((withoutRemark line).splitBy joins).filterMap tokenOf?

/-- The tokens of code. -/
def tokens (code : String) : List Token :=
  (code.toList.splitOn '\n').flatMap lineTokens

/-! Lines that are put together from pieces. -/

/-- A piece of a line without a slash, in which no remark can begin. -/
theorem withoutRemark_append
    {first : List Char}
    (noSlash : '/' ∉ first)
    (second : List Char) :
    withoutRemark (first ++ second) = first ++ withoutRemark second := by
  induction first with
  | nil => rfl
  | cons character rest inductionHypothesis =>
      obtain ⟨notSlash, restNoSlash⟩ := not_or.mp (mt List.mem_cons.mpr noSlash)
      rw [List.cons_append, withoutRemark, inductionHypothesis restNoSlash, List.cons_append]
      rintro _ rfl
      exact absurd rfl notSlash

theorem withoutRemark_of_noSlash
    {line : List Char}
    (noSlash : '/' ∉ line) :
    withoutRemark line = line := by
  simpa [withoutRemark] using withoutRemark_append noSlash []

/-- Two pieces of a line keep their tokens when none reaches from one into the other. -/
theorem lineTokens_append
    {first second : List Char}
    (firstNoSlash : '/' ∉ first)
    (secondNoSlash : '/' ∉ second)
    (apart : ∀ last ∈ first.getLast?, ∀ next ∈ second.head?, joins last next = false) :
    lineTokens (first ++ second) = lineTokens first ++ lineTokens second := by
  rw [lineTokens, withoutRemark_append firstNoSlash, withoutRemark_of_noSlash secondNoSlash,
    List.splitBy_append apart, List.filterMap_append, lineTokens, lineTokens,
    withoutRemark_of_noSlash firstNoSlash, withoutRemark_of_noSlash secondNoSlash]

/-- Spaces in front of a line do not matter. -/
theorem lineTokens_space (line : List Char) :
    lineTokens (' ' :: line) = lineTokens line := by
  have kept : withoutRemark (' ' :: line) = [' '] ++ withoutRemark line :=
    @withoutRemark_append [' '] (by decide) line
  rw [lineTokens, kept, List.splitBy_append, List.filterMap_append, lineTokens]
  · rfl
  · simp [joins, isWordCharacter, isOperatorCharacter]

/-- The tokens of joined lines are those of each line. -/
theorem tokens_joinLines
    {lines : List String}
    (someLines : lines ≠ [])
    (unbroken : ∀ line ∈ lines, '\n' ∉ line.toList) :
    tokens (Text.joinLines lines) = lines.flatMap fun line => lineTokens line.toList := by
  have breakText : "\n".toList = ['\n'] := by decide
  have split : (Text.joinLines lines).toList.splitOn '\n' = lines.map String.toList := by
    rw [Text.joinLines, String.toList_intercalate, breakText]
    exact List.splitOn_intercalate _ (List.forall_mem_map.mpr unbroken) (by simpa using someLines)
  rw [tokens, split, List.flatMap_map]

/-- A natural number is one token. -/
theorem lineTokens_naturalText (number : Nat) :
    lineTokens (Number.naturalText number).toList = [.number number] := by
  have digits : Within Char.isDigit (Nat.toDigits 10 number) := fun _ member =>
    Nat.isDigit_of_mem_toDigits (by decide) (by decide) member
  have nonempty : Nat.toDigits 10 number ≠ [] := Nat.toDigits_ne_nil
  have isWord {character : Char} (isDigit : character.isDigit = true) :
      isWordCharacter character = true := by
    simp [isWordCharacter, Char.isAlphanum, isDigit]
  -- Digits are word characters, so they are not cut.
  have oneRun : (Nat.toDigits 10 number).splitBy joins = [Nat.toDigits 10 number] := by
    refine List.splitBy_of_isChain nonempty (List.Pairwise.isChain ?_)
    refine List.pairwise_of_forall_mem_list fun first firstMember second secondMember => ?_
    simp [joins, isWord (digits first firstMember), isWord (digits second secondMember)]
  have noGap : (Nat.toDigits 10 number).all isGapCharacter = false := by
    obtain ⟨first, more, shape⟩ := List.exists_cons_of_ne_nil nonempty
    have firstDigit : first.isDigit = true := digits first (by simp [shape])
    have notGap : isGapCharacter first = false := by
      refine Bool.eq_false_iff.mpr fun gap => ?_
      have known : first ∈ [' ', '\t', '\r'] := List.contains_iff_mem.mp gap
      simp only [List.mem_cons, List.not_mem_nil, or_false] at known
      rcases known with rfl | rfl | rfl <;> exact absurd firstDigit (by decide)
    rw [shape, List.all_cons, notGap, Bool.false_and]
  rw [lineTokens, Number.naturalText, String.toList_ofList,
    withoutRemark_of_noSlash (digits.not_mem (by decide)), oneRun]
  simp [tokenOf?, noGap, List.all_eq_true.mpr digits]

end ExpertAdvisor.Code

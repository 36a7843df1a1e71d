import ExpertAdvisor.Advisor.Literal
import ExpertAdvisor.Indicator.CarriedType
import ExpertAdvisor.Proofs.Indicator.WrittenLines

namespace ExpertAdvisor.Code

open Text Indicator Advisor

/-!
# Names at global scope

The lines of a program that begin at the left margin declare its global names.  A
line that begins with `input` and a type declares the name at the start of every
item behind the type; commas outside quotes and parentheses set the items apart.
A line on which a type, a name and an opening parenthesis stand defines a function.
-/

/-! Lists of items. -/

/-- Where a reader of items stands: in plain code with so many parentheses open, or in quotes. -/
inductive Place where
  | plain (depth : Nat)
  | quoted (depth : Nat) (mark : Char)
  | escaped (depth : Nat) (mark : Char)
  deriving Repr, DecidableEq

namespace Place

/-- The place behind a character; in quotes a backslash lets the next character stand for itself. -/
def after : Place → Char → Place
  | .plain depth, character =>
      if character == '(' then .plain (depth + 1)
      else if character == ')' then .plain (depth - 1)
      else if character == '"' || character == '\'' then .quoted depth character
      else .plain depth
  | .quoted depth mark, character =>
      if character == '\\' then .escaped depth mark
      else if character == mark then .plain depth
      else .quoted depth mark
  | .escaped depth mark, _ => .quoted depth mark

/-- Whether a character sets two items apart. -/
def separates : Place → Char → Bool
  | .plain depth, character => depth == 0 && character == ','
  | _, _ => false

/-- Whether a character ends the list: a semicolon, or a parenthesis that nothing in it opened. -/
def ends : Place → Char → Bool
  | .plain depth, character => character == ';' || (depth == 0 && character == ')')
  | _, _ => false

/-- The place behind a text that lies within one item. -/
def behind? (place : Place) : List Char → Option Place
  | [] => some place
  | character :: rest =>
      if place.ends character || place.separates character then none
      else (place.after character).behind? rest

end Place

/-- The items of a list, read from a place on. -/
def items (place : Place) : List Char → List (List Char)
  | [] => [[]]
  | character :: rest =>
      if place.ends character then [[]]
      else if place.separates character then [] :: items place rest
      else (items (place.after character) rest).modifyHead (character :: ·)

namespace Place

variable {place middle onward : Place} {first second text : List Char}

/-- A place behind two texts is the place behind the second, from behind the first. -/
theorem behind?_append
    (passed : place.behind? first = some middle)
    (passedOn : middle.behind? second = some onward) :
    place.behind? (first ++ second) = some onward := by
  induction first generalizing place with
  | nil =>
      obtain rfl := Option.some.inj passed
      exact passedOn
  | cons character rest inductionHypothesis =>
      rw [behind?] at passed
      rw [List.cons_append, behind?]
      split at passed
      · exact absurd passed nofun
      · rename_i within
        rw [if_neg within]
        exact inductionHypothesis passed

/-- The characters that mean something to a reader of items who is not in quotes. -/
def marks : List Char := ['(', ')', ',', ';', '"', '\'']

/-- Whether a character means nothing to such a reader. -/
def isUnmarked (character : Char) : Bool :=
  !marks.contains character

/-- The characters of a class without marks are unmarked. -/
theorem isUnmarked_of_belongs
    {belongs : Char → Bool}
    (noMarks : ∀ mark ∈ marks, belongs mark = false)
    {character : Char}
    (member : belongs character = true) :
    isUnmarked character = true := by
  rw [isUnmarked, Bool.not_eq_true', ← Bool.not_eq_true, List.contains_iff_mem]
  intro isMark
  rw [noMarks character isMark] at member
  exact Bool.noConfusion member

/-- No character of a word is a mark. -/
theorem isUnmarked_of_isWord
    {character : Char}
    (word : isWord character = true) :
    isUnmarked character = true := by
  have noMarks : ∀ mark ∈ marks, isWord mark = false := by
    simp only [marks, List.forall_mem_cons]
    exact ⟨by decide, by decide, by decide, by decide, by decide, by decide,
      List.forall_mem_nil _⟩
  exact isUnmarked_of_belongs noMarks word

/-- A text without marks leaves a reader where they are. -/
theorem behind?_of_unmarked
    {depth : Nat}
    (unmarked : Within isUnmarked text) :
    (plain depth).behind? text = some (plain depth) := by
  induction text with
  | nil => rfl
  | cons character rest inductionHypothesis =>
      obtain ⟨noMark, restUnmarked⟩ := Within.cons_iff.mp unmarked
      have goesOn := inductionHypothesis restUnmarked
      simp only [isUnmarked, marks, Bool.not_eq_true', List.contains_eq_mem,
        decide_eq_false_iff_not, List.mem_cons, List.not_mem_nil, or_false, not_or] at noMark
      obtain ⟨notOpening, notClosing, notComma, notSemicolon, notDouble, notSingle⟩ := noMark
      simp [behind?, ends, separates, after, notOpening, notClosing, notComma, notSemicolon,
        notDouble, notSingle, goesOn]

/-- The escapes of a string literal do not end its quotes. -/
theorem behind?_escaped
    (depth : Nat)
    (text : List Char) :
    (quoted depth '"').behind? (text.flatMap escapeLiteral) = some (quoted depth '"') := by
  have oneEscape (character : Char) :
      (quoted depth '"').behind? (escapeLiteral character) = some (quoted depth '"') := by
    unfold escapeLiteral
    repeat' split
    all_goals simp_all [behind?, ends, separates, after]
  induction text with
  | nil => rfl
  | cons character rest inductionHypothesis =>
      rw [List.flatMap_cons]
      exact behind?_append (oneEscape character) inductionHypothesis

/-- A string literal lies within one item. -/
theorem behind?_stringLiteral
    (depth : Nat)
    (text : String) :
    (plain depth).behind? (stringLiteral text).toList = some (plain depth) := by
  have opening : (plain depth).behind? ['"'] = some (quoted depth '"') := by
    simp [behind?, ends, separates, after]
  have closing : (quoted depth '"').behind? ['"'] = some (plain depth) := by
    simp [behind?, ends, separates, after]
  rw [stringLiteral, String.toList_ofList, ← List.singleton_append]
  exact behind?_append opening (behind?_append (behind?_escaped depth _) closing)

end Place

/-- A text within one item belongs to the first item that is read. -/
theorem items_append
    {place onward : Place}
    {text : List Char}
    (passed : place.behind? text = some onward)
    (rest : List Char) :
    items place (text ++ rest) = (items onward rest).modifyHead (text ++ ·) := by
  induction text generalizing place with
  | nil =>
      obtain rfl := Option.some.inj passed
      exact (congrFun List.modifyHead_id _).symm
  | cons character more inductionHypothesis =>
      rw [Place.behind?] at passed
      split at passed
      · exact absurd passed nofun
      · rename_i within
        rw [Bool.or_eq_true, not_or, Bool.not_eq_true, Bool.not_eq_true] at within
        rw [List.cons_append, items, within.1, within.2, inductionHypothesis passed,
          List.modifyHead_modifyHead]
        rfl

/-! Names. -/

/-- The identifier that an item begins with. -/
def leadingName? (item : List Char) : Option String :=
  let word := (item.dropWhile isBlank).takeWhile isWord
  if word.head?.any isIdentifierStart then some (String.ofList word) else none

/-- The names that a line declares as inputs. -/
def inputNames (line : List Char) : List String :=
  match afterPrefix? "input ".toList line with
  | some typed => (items (.plain 0) (typed.dropWhile isWord)).filterMap leadingName?
  | none => []

/-- The types of functions. -/
def resultTypes : List String := "void" :: builtInTypes

/-- The name of the function whose definition a line begins. -/
def functionName? (line : List Char) : Option String :=
  if resultTypes.contains (String.ofList (line.takeWhile isWord)) then
    match line.dropWhile isWord with
    | ' ' :: named =>
        if (named.dropWhile isWord).head? = some '(' then leadingName? named else none
    | _ => none
  else
    none

/-- The global names that a line declares. -/
def lineNames (line : List Char) : List String :=
  inputNames line ++ (functionName? line).toList

/-- The global names that a text declares, line by line. -/
def namesOf (text : List Char) : List String :=
  (text.splitOn '\n').flatMap lineNames

/-- The global names that a program declares, in order. -/
def globalNames (code : String) : List String :=
  namesOf code.toList

theorem splitOn_of_oneLine
    {line : List Char}
    (oneLine : '\n' ∉ line) :
    line.splitOn '\n' = [line] := by
  have whole : (['\n'].intercalate [line]).splitOn '\n' = [line] :=
    List.splitOn_intercalate '\n' (by simpa using oneLine) (by simp)
  rwa [List.intercalate_singleton] at whole

theorem namesOf_of_oneLine
    {line : List Char}
    (oneLine : '\n' ∉ line) :
    namesOf line = lineNames line := by
  rw [namesOf, splitOn_of_oneLine oneLine, List.flatMap_singleton]

/-- The text of lines is split where each line is, and behind each of them. -/
theorem splitOn_linesText_append
    (lines : List String)
    (rest : List Char) :
    (linesText lines ++ rest).splitOn '\n' =
      (lines.flatMap fun line => line.toList.splitOn '\n') ++ rest.splitOn '\n' := by
  induction lines with
  | nil => rfl
  | cons line more inductionHypothesis =>
      have shape : linesText (line :: more) ++ rest =
          line.toList ++ '\n' :: (linesText more ++ rest) := by
        simp [linesText]
      have split : (line.toList ++ '\n' :: (linesText more ++ rest)).splitOn '\n' =
          line.toList.splitOn '\n' ++ (linesText more ++ rest).splitOn '\n' :=
        List.splitOnP_append_cons line.toList _ (beq_self_eq_true '\n')
      rw [shape, split, inductionHypothesis, List.flatMap_cons, List.append_assoc]

/-- A line of a text is empty or is a line of one of its parts. -/
theorem exists_line_of_mem_splitOn
    {lines : List String}
    {part : List Char}
    (member : part ∈ (linesText lines).splitOn '\n') :
    part = [] ∨ ∃ line ∈ lines, part ∈ line.toList.splitOn '\n' := by
  rw [← List.append_nil (linesText lines), splitOn_linesText_append, List.splitOn_nil,
    List.mem_append, List.mem_singleton, List.mem_flatMap] at member
  exact member.symm

/-- The names in the text of lines are those of one line after the other. -/
theorem namesOf_linesText (lines : List String) :
    namesOf (linesText lines) = lines.flatMap fun line => namesOf line.toList := by
  have emptyLine : lineNames [] = [] := by decide
  rw [namesOf, ← List.append_nil (linesText lines), splitOn_linesText_append,
    List.splitOn_nil, List.flatMap_append, List.flatMap_singleton, emptyLine, List.append_nil,
    List.flatMap_assoc]
  rfl

/-- Texts of lines put together declare their names one after the other. -/
theorem namesOf_linesText_append (first second : List String) :
    namesOf (linesText (first ++ second)) =
      namesOf (linesText first) ++ namesOf (linesText second) := by
  rw [namesOf_linesText, namesOf_linesText, namesOf_linesText, List.flatMap_append]

/-- A line that does not begin with a word declares nothing. -/
theorem lineNames_eq_nil
    {line : List Char}
    (leaves : Leaves isWord line) :
    lineNames line = [] := by
  cases line with
  | nil => decide
  | cons character rest =>
      rw [Leaves.cons_iff] at leaves
      have notInput : ¬ character = 'i' := by
        rintro rfl
        exact absurd leaves (by decide)
      have lead : "input ".toList = 'i' :: "nput ".toList := by decide
      have noType : "" ∉ resultTypes := by decide
      simp [lineNames, inputNames, functionName?, lead, afterPrefix?, notInput, leaves, noType]

/-- A text without a line break that does not begin with a word declares nothing. -/
theorem namesOf_eq_nil
    {line : List Char}
    (oneLine : '\n' ∉ line)
    (leaves : Leaves isWord line) :
    namesOf line = [] := by
  rw [namesOf_of_oneLine oneLine, lineNames_eq_nil leaves]

/-- Sections that are set apart by empty lines declare names one after the other. -/
theorem namesOf_sections (sections : List (List String)) :
    namesOf (linesText ([""].intercalate sections)) =
      sections.flatMap fun lines => namesOf (linesText lines) := by
  induction sections with
  | nil => decide
  | cons lines rest inductionHypothesis =>
      cases rest with
      | nil => simp
      | cons next more =>
          have emptyLine : namesOf (linesText [""]) = [] := by decide
          rw [List.flatMap_cons, ← inductionHypothesis, List.intercalate_cons_cons,
            namesOf_linesText_append, namesOf_linesText_append, emptyLine, List.append_nil]

/-! Names of inputs. -/

/-- A text has an item, even where nothing stands in it. -/
theorem items_ne_nil
    (place : Place)
    (text : List Char) :
    items place text ≠ [] := by
  induction text generalizing place with
  | nil => exact List.cons_ne_nil _ _
  | cons character rest inductionHypothesis =>
      rw [items]
      split
      · exact List.cons_ne_nil _ _
      · split
        · exact List.cons_ne_nil _ _
        · obtain ⟨first, others, shape⟩ :=
            List.exists_cons_of_ne_nil (inductionHypothesis (place.after character))
          rw [shape]
          exact List.cons_ne_nil _ _

/-- An item that begins with an identifier behind blanks declares the identifier. -/
theorem leadingName?_of_identifier
    {blanks name rest : List Char}
    (blank : Within isBlank blanks)
    (identifier : IsIdentifier name)
    (leaves : Leaves isWord rest) :
    leadingName? (blanks ++ (name ++ rest)) = some (String.ofList name) := by
  have word : (blanks ++ (name ++ rest)).dropWhile isBlank = name ++ rest := by
    obtain ⟨first, more, shape⟩ := List.exists_cons_of_ne_nil identifier.nonempty
    have firstWord : isWord first = true := identifier.within first (by simp [shape])
    have notBlank : ¬ isBlank first = true := by
      rw [isBlank_eq_false_of_isWord firstWord]
      exact Bool.false_ne_true
    rw [List.dropWhile_append_of_pos blank, shape, List.cons_append,
      List.dropWhile_cons_of_neg notBlank]
  have whole : (name ++ rest).takeWhile isWord = name := by
    rw [List.takeWhile_append_of_pos identifier.within]
    cases rest with
    | nil => simp
    | cons character more =>
        rw [Leaves.cons_iff] at leaves
        simp [leaves]
  have starts : name.head?.any isIdentifierStart = true := by
    obtain ⟨first, atHead, isStart⟩ := identifier.starts
    rw [Option.mem_def.mp atHead]
    exact isStart
  rw [leadingName?, word, whole]
  exact if_pos starts

end ExpertAdvisor.Code

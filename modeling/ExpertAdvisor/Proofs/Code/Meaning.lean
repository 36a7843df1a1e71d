import ExpertAdvisor.Proofs.Code.GlobalName

namespace ExpertAdvisor.Code

open Text Indicator Advisor

/-!
# Meaning of names

In a function a name means the parameter of the function that has it.  Where no
parameter has the name, it means the input that a line of the program declares:
a parameter hides an input.
-/

/-! Arguments and parameters. -/

/-- The arguments of a call, from inside its opening parenthesis on. -/
def argumentsFrom (text : List Char) : List String :=
  (items (.plain 0) text).map fun item => String.ofList (trimBlanks item)

/-- The names of a function's parameters, as the line tells on which its definition begins. -/
def parameterNames (header : List Char) : List String :=
  (items (.plain 0) (header.dropWhile (· != '(')).tail).map fun item =>
    String.ofList (item.reverse.takeWhile isWord).reverse

/-- Pieces with commas between them are the items of a list. -/
theorem items_intercalate
    {first : String}
    {others : List String}
    (whole : ∀ piece ∈ first :: others,
      (Place.plain 0).behind? piece.toList = some (.plain 0))
    (rest : List Char) :
    items (.plain 0) ((", ".intercalate (first :: others)).toList ++ ')' :: rest) =
      first.toList :: others.map fun piece => ' ' :: piece.toList := by
  obtain ⟨firstWhole, othersWhole⟩ := List.forall_mem_cons.mp whole
  induction others generalizing first with
  | nil =>
      have atEnd : items (.plain 0) (')' :: rest) = [[]] := rfl
      rw [String.intercalate_singleton, items_append firstWhole, atEnd, List.modifyHead_cons,
        List.append_nil, List.map_nil]
  | cons second more inductionHypothesis =>
      obtain ⟨secondWhole, moreWhole⟩ := List.forall_mem_cons.mp othersWhole
      have goesOn := inductionHypothesis othersWhole secondWhole moreWhole
      have separator : ", ".toList = [',', ' '] := by decide
      have behindComma (text : List Char) :
          items (.plain 0) (',' :: ' ' :: text) =
            [] :: (items (.plain 0) text).modifyHead (' ' :: ·) := rfl
      rw [String.intercalate_cons_cons, String.append_assoc, String.toList_append,
        String.toList_append, separator, List.append_assoc, List.append_assoc,
        items_append firstWhole]
      simp only [List.cons_append, List.nil_append]
      rw [behindComma, goesOn, List.modifyHead_cons, List.modifyHead_cons, List.append_nil,
        List.map_cons]

/-- The arguments of a written call are its pieces, without the blanks around them. -/
theorem argumentsFrom_intercalate
    {first : String}
    {others : List String}
    (whole : ∀ piece ∈ first :: others,
      (Place.plain 0).behind? piece.toList = some (.plain 0))
    (rest : List Char) :
    argumentsFrom ((", ".intercalate (first :: others)).toList ++ ')' :: rest) =
      (first :: others).map fun piece => String.ofList (trimBlanks piece.toList) := by
  have withoutSpace (text : List Char) : trimBlanks (' ' :: text) = trimBlanks text :=
    @trimWhere_append_left isBlank [' '] text (by decide)
  rw [argumentsFrom, items_intercalate whole, List.map_cons, List.map_map, List.map_cons]
  simp only [Function.comp_def, withoutSpace]

/-! Declarations. -/

/-- The first line of a program that declares an input of the name before any other input. -/
def declaringLine? (code : List Char) (name : String) : Option (List Char) :=
  (code.splitOn '\n').find? fun line => (inputNames line).head? == some name

/-- What a name means in a function. -/
inductive Meaning where
  | parameter (position : Nat)
  | input (line : List Char)
  deriving Repr, DecidableEq

/-- What a name means in a function of a program that has the given parameters. -/
def meaning?
    (code : List Char)
    (parameters : List String)
    (name : String) : Option Meaning :=
  match parameters.idxOf? name with
  | some position => some (.parameter position)
  | none => (declaringLine? code name).map .input

/-- A name means the input of its line exactly when no parameter has the name. -/
theorem meaning?_eq_input_iff
    {code line : List Char}
    {name : String}
    (declared : declaringLine? code name = some line)
    (parameters : List String) :
    meaning? code parameters name = some (.input line) ↔ name ∉ parameters := by
  rw [meaning?, ← List.idxOf?_eq_none_iff]
  cases parameters.idxOf? name with
  | none => simp [declared]
  | some position => simp

/-- A name that a text does not declare is declared first by none of its lines. -/
theorem head?_inputNames_ne
    {text line : List Char}
    {name : String}
    (notDeclared : name ∉ namesOf text)
    (member : line ∈ text.splitOn '\n') :
    (inputNames line).head? ≠ some name := fun atHead =>
  notDeclared (List.mem_flatMap.mpr
    ⟨line, member, List.mem_append_left _ (List.mem_of_mem_head? atHead)⟩)

/-- A name that a text does not declare is that of no function in it. -/
theorem functionName?_ne
    {text line : List Char}
    {name : String}
    (notDeclared : name ∉ namesOf text)
    (member : line ∈ text.splitOn '\n') :
    functionName? line ≠ some name := fun defines =>
  notDeclared (List.mem_flatMap.mpr
    ⟨line, member, List.mem_append_right _ (Option.mem_toList.mpr defines)⟩)

/-- The line of an input declares it when no earlier line does. -/
theorem declaringLine?_of_first
    {before after : List String}
    {line name : String}
    (notBefore : ∀ earlier ∈ before, ∀ part ∈ earlier.toList.splitOn '\n',
      (inputNames part).head? ≠ some name)
    (oneLine : '\n' ∉ line.toList)
    (declares : (inputNames line.toList).head? = some name) :
    declaringLine? (linesText (before ++ line :: after)) name = some line.toList := by
  have noneBefore :
      (before.flatMap fun earlier => earlier.toList.splitOn '\n').find?
        (fun part => (inputNames part).head? == some name) = none := by
    rw [List.find?_eq_none]
    intro part member isName
    obtain ⟨earlier, isEarlier, inEarlier⟩ := List.mem_flatMap.mp member
    exact notBefore earlier isEarlier part inEarlier (beq_iff_eq.mp isName)
  rw [declaringLine?, linesText_append, splitOn_linesText_append, List.find?_append, noneBefore,
    Option.none_or, ← List.append_nil (linesText (line :: after)), splitOn_linesText_append,
    List.flatMap_cons, splitOn_of_oneLine oneLine, List.singleton_append, List.cons_append]
  exact List.find?_cons_of_pos (beq_iff_eq.mpr declares)

end ExpertAdvisor.Code

import ExpertAdvisor.Proofs.Indicator.LineComments
import Mathlib.Algebra.Order.BigOperators.Group.List
import Mathlib.Algebra.Order.Group.Nat

namespace ExpertAdvisor.Indicator

open Text

/-!
# Ignored comments

Extraction does not look for line comments; it finds no declarations in them
because they do not begin a line.  Two kinds of comment text have an effect all
the same.  A block comment that is opened in a line comment hides the lines
behind it up to the next closing marker, and a semicolon ends a declaration that
was begun in front of the comment.
-/

variable {before comment : List Char}

/-- The text in front of a line comment is left as it is when block comments are blanked. -/
theorem blankComments_behind_slash
    (uncommented : Uncommented before)
    (rest : List Char) :
    blankComments (before ++ '/' :: '/' :: rest) =
      before ++ '/' :: blankComments ('/' :: rest) := by
  have withSlash : Uncommented (before ++ ['/']) :=
    uncommented.append (by decide) fun meets => absurd meets.2 (by decide)
  have blanked := (BlanksTo.of_uncommented withSlash).blankComments_append
    (show ('/' :: rest).head? ≠ some '*' from fun headed => absurd headed (by simp))
  rw [List.append_assoc, List.singleton_append, List.append_assoc] at blanked
  exact blanked

/-- Blanking adds no characters. -/
theorem blankComments_subset (text : List Char) : blankComments text ⊆ text := by
  obtain ⟨closed, result, rest, rfl, blanks, ending⟩ := exists_closed_part text
  have restUnchanged : blankComments rest = rest := blankCommentsFrom_ending ending []
  rw [blanks.blankComments_append (head?_ne_of_ending ending), restUnchanged]
  exact List.append_subset.mpr
    ⟨fun _ member => List.mem_append_left _ (blanks.subset member), List.subset_append_right _ _⟩

/-- A line comment is on one line also when the block comments in it are blanked. -/
theorem oneLine_blankComments
    (oneLine : '\n' ∉ comment) :
    '\n' ∉ blankComments ('/' :: comment) := by
  intro member
  rcases List.mem_cons.mp (blankComments_subset _ member) with isSlash | inComment
  · exact absurd isSlash (by decide)
  · exact oneLine inComment

/-- A line comment whose block comments end in it or nowhere keeps to its line. -/
theorem declarations_commented
    (uncommented : Uncommented before)
    (oneLine : '\n' ∉ comment)
    (rest : List Char)
    (apart : ClosesComments ('/' :: comment) ∨ Unclosed rest) :
    declarations (blankComments (before ++ '/' :: '/' :: (comment ++ '\n' :: rest))) =
      declarations (before ++ '/' :: blankComments ('/' :: comment)) ++
        declarations (blankComments rest) := by
  rw [blankComments_behind_slash uncommented, ← List.cons_append, blankComments_line apart,
    declarations_eq_declarationsFrom, declarationsFrom_comment_line (oneLine_blankComments oneLine),
    declarations_eq_declarationsFrom, declarations_eq_declarationsFrom]

/-- What a comment adds to the declarations in front of it is one that is not ended yet. -/
theorem exists_added
    (oneLine : '\n' ∉ comment) :
    ∃ added, declarations (before ++ '/' :: comment) = declarations before ++ added ∧
      (added = [] ∨ EndsValue comment ∧ ∃ form parameter, StopsInValue before form ∧
        added = [parameter] ∧ parameter.name = form.parameter.name) := by
  obtain ⟨added, shape, origin⟩ := declarationsFrom_comment oneLine true before
  rw [← declarations_eq_declarationsFrom, ← declarations_eq_declarationsFrom] at shape
  refine ⟨added, shape, ?_⟩
  rcases origin with nothing | ⟨form, ⟨earlier, rest, behind, rfl, starts, reaches, isPrefix⟩, rfl⟩
  · exact .inl nothing
  · obtain ⟨ends, openForm, stops, sameName⟩ := exists_open_of_reaches reaches isPrefix
    exact .inr ⟨ends, openForm, form.parameter, ⟨earlier, rest, rfl, starts, stops⟩, rfl,
      sameName.symm⟩

theorem not_endsValue_nil_slash : ¬ EndsValue ['/'] := by
  rintro ⟨value, rest, shape, _⟩
  have semicolon : ';' ∈ ['/'] := by simp [shape]
  exact absurd semicolon (by decide)

/-- An empty line comment declares nothing. -/
theorem declarations_emptyComment
    (uncommented : Uncommented before)
    (rest : List Char) :
    declarations (blankComments (before ++ '/' :: '/' :: '\n' :: rest)) =
      declarations before ++ declarations (blankComments rest) := by
  have slash : Uncommented ['/'] := by decide
  have apart := declarations_commented uncommented (show '\n' ∉ [] from List.not_mem_nil) rest
    (.inl (.of_uncommented slash))
  obtain ⟨added, shape, nothing | ⟨ends, _⟩⟩ := exists_added (show '\n' ∉ ['/'] by decide)
  · rw [blankComments_of_uncommented slash, shape, nothing, List.append_nil] at apart
    exact apart
  · exact absurd ends not_endsValue_nil_slash

/-! Texts around a line comment. -/

theorem toList_commented (before comment after : String) :
    (before ++ "//" ++ comment ++ "\n" ++ after).toList =
      before.toList ++ '/' :: '/' :: (comment.toList ++ '\n' :: after.toList) := by
  have slashes : "//".toList = ['/', '/'] := by decide
  have lineFeed : "\n".toList = ['\n'] := by decide
  simp only [String.toList_append, slashes, lineFeed, List.append_assoc, List.cons_append,
    List.nil_append]

theorem toList_emptyComment (before after : String) :
    (before ++ "//" ++ "\n" ++ after).toList =
      before.toList ++ '/' :: '/' :: '\n' :: after.toList := by
  have slashes : "//".toList = ['/', '/'] := by decide
  have lineFeed : "\n".toList = ['\n'] := by decide
  simp only [String.toList_append, slashes, lineFeed, List.append_assoc, List.cons_append,
    List.nil_append]

/-- An empty line comment separates what is declared before it from what is declared after. -/
theorem parameters_emptyComment
    {before : String}
    (uncommented : Uncommented before.toList)
    (after : String) :
    parameters (before ++ "//" ++ "\n" ++ after) =
      firstOfEachName [] (declarations before.toList ++
        declarations (blankComments after.toList)) := by
  rw [parameters_eq, toList_emptyComment, declarations_emptyComment uncommented]

/-- A comment ends no declaration but such as repeat an earlier name. -/
def AddsNoName
    (before : String)
    (comment : List Char) : Prop :=
  EndsValue (blankComments ('/' :: comment)) → ∀ form, StopsInValue before.toList form →
    form.parameter.name ∈ Parameter.names (parameters before)

/-- Where a comment's block comments end in it or nowhere, it matters by the names it adds only. -/
theorem parameters_commented
    {before comment after : String}
    (uncommented : Uncommented before.toList)
    (oneLine : '\n' ∉ comment.toList)
    (apart : ClosesComments ('/' :: comment.toList) ∨ Unclosed after.toList)
    (addsNoName : AddsNoName before comment.toList) :
    parameters (before ++ "//" ++ comment ++ "\n" ++ after) =
      parameters (before ++ "//" ++ "\n" ++ after) := by
  rw [parameters_emptyComment uncommented, parameters_eq, toList_commented,
    declarations_commented uncommented oneLine _ apart]
  obtain ⟨added, shape, nothing | ⟨ends, form, parameter, stops, rfl, sameName⟩⟩ :=
    exists_added (oneLine_blankComments oneLine)
  · rw [shape, nothing, List.append_nil]
  · have repeats := addsNoName ends form stops
    rw [parameters_eq, blankComments_of_uncommented uncommented, ← sameName,
      mem_names_firstOfEachName] at repeats
    rw [shape, List.append_assoc, List.singleton_append,
      firstOfEachName_repeated (.inr repeats.1)]

/-! What an effect of a comment needs. -/

/-- An identifier that is none of some names. -/
theorem exists_identifier_not_mem (names : List String) :
    ∃ name, IsIdentifier name ∧ String.ofList name ∉ names := by
  let size := (names.map String.length).sum
  let name := List.replicate (size + 1) 'a'
  have within : Within isWord name := fun character member => by
    rw [List.eq_of_mem_replicate member]
    decide
  refine ⟨name, ⟨within, 'a', rfl, by decide⟩, fun member => ?_⟩
  have bounded : (String.ofList name).length ≤ size :=
    List.le_sum_of_mem (List.mem_map_of_mem member)
  have sized : (String.ofList name).length = size + 1 := by
    simp [name]
  omega

/-- The declaration of an integer on a line of its own. -/
def plainForm
    (name : List Char)
    (identifier : IsIdentifier name) : DeclarationForm where
  indent := []
  qualifier := inputQualifier
  gap := [' ']
  constGap := none
  type := ['i', 'n', 't']
  typeGap := [' ']
  name := name
  nameGap := [' ']
  value := [' ', '1']
  indent_within := .nil
  qualifier_known := .inl rfl
  gap_blank := ⟨by decide, List.cons_ne_nil _ _⟩
  constGap_blank := nofun
  type_identifier := ⟨by decide, 'i', rfl, by decide⟩
  typeGap_blank := ⟨by decide, List.cons_ne_nil _ _⟩
  name_identifier := identifier
  nameGap_blank := by decide
  value_within := by decide

/-- A plain declaration has no characters but those of its words and its marks. -/
theorem not_mem_plainForm
    {name : List Char}
    (identifier : IsIdentifier name)
    {character : Char}
    (noWord : isWord character = false)
    (noMark : character ∉ [' ', '=', ';']) :
    character ∉ (plainForm name identifier).text := by
  have qualifier : Within isWord inputQualifier := by decide
  have type : Within isWord ['i', 'n', 't'] := by decide
  have value : Within isWord ['1'] := by decide
  have noName := identifier.within.not_mem noWord
  have noQualifier := qualifier.not_mem noWord
  have noType := type.not_mem noWord
  have noValue := value.not_mem noWord
  simp only [List.mem_cons, List.not_mem_nil, or_false, not_or] at noMark noType noValue
  simp [DeclarationForm.text, plainForm, modifierText, noName, noQualifier, noType, noValue,
    noMark]

/-- A comment without effect closes the block comments that it opens. -/
theorem closesComments_of_ignored
    {before comment : String}
    (uncommented : Uncommented before.toList)
    (oneLine : '\n' ∉ comment.toList)
    (ignored : ∀ after, parameters (before ++ "//" ++ comment ++ "\n" ++ after) =
      parameters (before ++ "//" ++ "\n" ++ after)) :
    ClosesComments ('/' :: comment.toList) := by
  by_contra opens
  have lineOneLine : '\n' ∉ '/' :: comment.toList := by simp [oneLine]
  obtain ⟨result, subset, swallowed⟩ := exists_blankComments_swallowed opens lineOneLine
  have resultOneLine : '\n' ∉ result := fun member => lineOneLine (subset member)
  -- A declaration of a new name that the comment hides, with the marker behind it.
  obtain ⟨name, identifier, isNew⟩ := exists_identifier_not_mem
    (Parameter.names (declarations (before.toList ++ '/' :: result)))
  let form := plainForm name identifier
  have noBreak : '\n' ∉ form.text := not_mem_plainForm identifier (by decide) (by decide)
  have noSlash : '/' ∉ form.text := not_mem_plainForm identifier (by decide) (by decide)
  have noAsterisk : '*' ∉ form.text := not_mem_plainForm identifier (by decide) (by decide)
  have hidden : form.parameter.name ∉ Parameter.names
      (parameters (before ++ "//" ++ comment ++ "\n" ++
        String.ofList (form.text ++ closingMarker))) := by
    have unclosed : Unclosed (form.text ++ ['*']) := .of_not_mem (by simp [noSlash])
    rw [parameters_eq, toList_commented, String.toList_ofList,
      blankComments_behind_slash uncommented, ← List.cons_append,
      swallowed form.text noBreak unclosed, declarations_eq_declarationsFrom,
      declarationsFrom_comment_line resultOneLine, mem_names_firstOfEachName,
      declarationsFrom, List.append_nil, ← declarations_eq_declarationsFrom]
    exact fun member => isNew member.1
  have shown : form.parameter.name ∈ Parameter.names
      (parameters (before ++ "//" ++ "\n" ++ String.ofList (form.text ++ closingMarker))) := by
    have afterUncommented : Uncommented (form.text ++ closingMarker) :=
      Uncommented.append (.of_not_mem noAsterisk) (by decide) fun meets =>
        noSlash (List.mem_of_getLast? meets.1)
    have declared : form.parameter ∈ declarations (form.text ++ closingMarker) := by
      rw [declarations_eq_declarationsFrom]
      exact @mem_declarationsFrom_of_form form true [] _ (.inl ⟨rfl, rfl⟩)
        (List.prefix_append _ _)
    rw [parameters_emptyComment uncommented, String.toList_ofList,
      blankComments_of_uncommented afterUncommented, mem_names_firstOfEachName]
    exact ⟨List.mem_map_of_mem (List.mem_append_right _ declared), List.not_mem_nil⟩
  rw [ignored] at hidden
  exact hidden shown

/-- A comment without effect ends no declaration of a new name. -/
theorem addsNoName_of_ignored
    {before comment : String}
    (uncommented : Uncommented before.toList)
    (oneLine : '\n' ∉ comment.toList)
    (closes : ClosesComments ('/' :: comment.toList))
    (ignored : ∀ after, parameters (before ++ "//" ++ comment ++ "\n" ++ after) =
      parameters (before ++ "//" ++ "\n" ++ after)) :
    AddsNoName before comment.toList := by
  rintro ends openForm ⟨earlier, rest, shape, starts, stops⟩
  obtain ⟨form, isPrefix, sameName⟩ := exists_reaching_of_open stops ends
  have declared : form.parameter ∈
      declarations (before.toList ++ '/' :: blankComments ('/' :: comment.toList)) := by
    rw [declarations_eq_declarationsFrom, shape, List.append_assoc]
    exact mem_declarationsFrom_of_form starts isPrefix
  have nothingBehind : declarations (blankComments "".toList) = [] := by
    rw [blankComments_of_uncommented (by decide), declarations_eq_declarationsFrom]
    rfl
  have found : form.parameter.name ∈ Parameter.names
      (parameters (before ++ "//" ++ comment ++ "\n" ++ "")) := by
    rw [parameters_eq, toList_commented, declarations_commented uncommented oneLine _ (.inl closes),
      mem_names_firstOfEachName]
    exact ⟨List.mem_map_of_mem (List.mem_append_left _ declared), List.not_mem_nil⟩
  rw [ignored, parameters_emptyComment uncommented, nothingBehind, List.append_nil, sameName]
    at found
  rw [parameters_eq, blankComments_of_uncommented uncommented]
  exact found

/--
The text of a line comment has no effect where the block comments in it end in it
or nowhere, and it ends no declaration of a new name.  A comment never has an
effect, whatever is written behind it, exactly when the block comments that it
opens end in it and it ends no declaration of a new name.
-/
theorem lineComment_ignored_iff
    {before comment : String}
    (uncommented : Uncommented before.toList)
    (oneLine : '\n' ∉ comment.toList) :
    (∀ after : String,
      (ClosesComments ('/' :: comment.toList) ∨ Unclosed after.toList) →
      AddsNoName before comment.toList →
      parameters (before ++ "//" ++ comment ++ "\n" ++ after) =
        parameters (before ++ "//" ++ "\n" ++ after)) ∧
    ((∀ after, parameters (before ++ "//" ++ comment ++ "\n" ++ after) =
        parameters (before ++ "//" ++ "\n" ++ after)) ↔
      ClosesComments ('/' :: comment.toList) ∧ AddsNoName before comment.toList) := by
  have suffices_apart (after : String) :=
    @parameters_commented before comment after uncommented oneLine
  refine ⟨suffices_apart, fun ignored => ?_, ?_⟩
  · have closes := closesComments_of_ignored uncommented oneLine ignored
    exact ⟨closes, addsNoName_of_ignored uncommented oneLine closes ignored⟩
  · rintro ⟨closes, addsNoName⟩ after
    exact suffices_apart after (.inl closes) addsNoName

/-- A remark without semicolons and asterisks behind a declaration has no effect. -/
theorem lineComment_ignored_remark :
    Uncommented "input int Period = 14; ".toList ∧ '\n' ∉ " bars".toList ∧
      ∀ after, parameters ("input int Period = 14; " ++ "//" ++ " bars" ++ "\n" ++ after) =
        parameters ("input int Period = 14; " ++ "//" ++ "\n" ++ after) := by
  have uncommented : Uncommented "input int Period = 14; ".toList := by decide
  have oneLine : '\n' ∉ " bars".toList := by decide
  have comment : Uncommented ('/' :: " bars".toList) := by decide
  have noSemicolon : ';' ∉ '/' :: " bars".toList := by decide
  refine ⟨uncommented, oneLine, ?_⟩
  refine (lineComment_ignored_iff uncommented oneLine).2.mpr ⟨.of_uncommented comment, ?_⟩
  rintro ⟨value, rest, shape, _⟩
  rw [blankComments_of_uncommented comment] at shape
  rw [shape] at noSemicolon
  exact absurd (by simp) noSemicolon

/-- A declaration, and a block comment behind it. -/
def notedSource : String := "input int Period = 14;\n/* note */\n"

/-- A line of asterisks hides the declaration behind it up to the end of the next block comment. -/
theorem lineComment_not_ignored_asterisks :
    Uncommented "".toList ∧ '\n' ∉ "****".toList ∧
      parameters ("" ++ "//" ++ "****" ++ "\n" ++ notedSource) = [] ∧
      parameters ("" ++ "//" ++ "\n" ++ notedSource) = [⟨"Period", "14", some "int"⟩] := by
  have uncommented : Uncommented "".toList := by decide
  have lineFeed : BlanksTo ['\n'] ['\n'] := .of_uncommented (by decide)
  refine ⟨uncommented, by decide, ?_, ?_⟩
  · have shape : "".toList ++ '/' :: '/' :: ("****".toList ++ '\n' :: notedSource.toList) =
        '/' :: '/' :: '*' :: ("***\ninput int Period = 14;\n/* note ".toList ++
          '*' :: '/' :: ['\n']) := by
      decide
    have comment := BlanksTo.comment
      (show Unclosed ("***\ninput int Period = 14;\n/* note ".toList ++ ['*']) by decide) lineFeed
    have hidden : BlanksTo ('/' :: _) ('/' :: _) := .plain (by decide) comment
    rw [parameters_eq, toList_commented, shape, hidden.blankComments_eq]
    decide
  · have line : ClosesComments "input int Period = 14;".toList := .of_uncommented (by decide)
    have shape : notedSource.toList =
        "input int Period = 14;".toList ++ '\n' :: '/' :: '*' :: (" note ".toList ++
          '*' :: '/' :: ['\n']) := by
      decide
    have note := BlanksTo.comment (show Unclosed (" note ".toList ++ ['*']) by decide) lineFeed
    rw [parameters_emptyComment uncommented, shape, blankComments_line (.inl line),
      note.blankComments_eq, blankComments_of_uncommented (by decide)]
    decide

end ExpertAdvisor.Indicator

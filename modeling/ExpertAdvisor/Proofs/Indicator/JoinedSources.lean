import ExpertAdvisor.Proofs.Indicator.BlankedComments
import ExpertAdvisor.Proofs.Indicator.Seams

namespace ExpertAdvisor.Indicator

open Text

/-!
# Joined sources

A declaration has one semicolon, which ends it, and it ends on the line where it
has it.  A text that closes its comments and then ends in a semicolon and a line
break is therefore read apart from what is written behind it: no comment and no
declaration reaches over the seam, and the text behind it begins on a line of its
own.  Only the names that were declared in front of the seam still matter.
-/

/-! Declarations. -/

/-- No declaration reaches over the end of a line that ends in a semicolon. -/
theorem not_reachesOver_semicolon_line
    (startsLine : Bool)
    (text rest : List Char)
    (form : DeclarationForm)
    (line behind : List Char) :
    ¬ ReachesOver startsLine (text ++ [';', '\n']) rest form line behind := by
  rintro ⟨⟨before, shape, starts⟩, lineNotNil, textShape, goesOn, _⟩
  have occurs : before ++ line = text ++ ';' :: ['\n'] := shape.symm
  rcases occurs_in_part occurs with
    ⟨past, beforeShape, lineShape⟩ | ⟨within, _, lineShape⟩
  · -- The line would be the last line break, which ends a line and starts none.
    have nothingPast : past = [] := by
      cases past with
      | nil => rfl
      | cons _ others =>
          have atEnd := (List.cons.inj lineShape).2
          exact absurd (List.append_eq_nil_iff.mp atEnd.symm).2 lineNotNil
    rw [beforeShape, nothingPast] at starts
    exact StartsLineBehind.not_concat (by decide) starts
  · rw [lineShape, List.append_assoc, List.cons_append] at textShape
    exact absurd (DeclarationForm.eq_nil_of_semicolon textShape) (by simp)

/-- What is declared on a line that ends a declaration stays, whatever follows. -/
theorem declarations_semicolon_line (text rest : List Char) :
    declarations (text ++ [';', '\n'] ++ rest) =
      declarations (text ++ [';', '\n']) ++ declarations rest := by
  have startsBehind : StartsLineBehind true (text ++ [';', '\n']) :=
    .inr ⟨text ++ [';'], by simp⟩
  simp only [declarations_eq_declarationsFrom]
  rw [declarationsFrom_append_apart (not_reachesOver_semicolon_line true text rest),
    decide_eq_true startsBehind]

/-! Names. -/

/-- Of later declarations those count whose names were not seen before. -/
theorem firstOfEachName_append_seen
    (seen others : List String)
    (declared : List Parameter) :
    firstOfEachName (seen ++ others) declared =
      (firstOfEachName others declared).filter fun parameter => parameter.name ∉ seen := by
  induction declared generalizing others with
  | nil => rfl
  | cons parameter rest inductionHypothesis =>
      have sameLater :
          firstOfEachName (parameter.name :: (seen ++ others)) rest =
            (firstOfEachName (parameter.name :: others) rest).filter
              fun later => later.name ∉ seen := by
        rw [← inductionHypothesis]
        apply firstOfEachName_congr
        intro name
        simp only [List.mem_cons, List.mem_append]
        tauto
      rw [firstOfEachName, firstOfEachName, sameLater]
      by_cases isSeen : parameter.name ∈ seen <;> by_cases isOther : parameter.name ∈ others <;>
        simp [isSeen, isOther]

/--
The first of each name in two lists are those of the first list, and those of
the second that are new.
-/
theorem firstOfEachName_append
    (seen : List String)
    (first second : List Parameter) :
    firstOfEachName seen (first ++ second) =
      firstOfEachName seen first ++
        firstOfEachName (Parameter.names first ++ seen) second := by
  induction first generalizing seen with
  | nil => rfl
  | cons parameter rest inductionHypothesis =>
      have sameSeen :
          firstOfEachName (Parameter.names rest ++ parameter.name :: seen) second =
            firstOfEachName (Parameter.names (parameter :: rest) ++ seen) second := by
        apply firstOfEachName_congr
        intro name
        simp only [Parameter.names, List.map_cons, List.cons_append, List.mem_append,
          List.mem_cons]
        tauto
      rw [List.cons_append, firstOfEachName, firstOfEachName, inductionHypothesis, sameSeen]
      split <;> rfl

/--
A source that closes its comments and, without them, ends in a semicolon and a
line break is read apart from the source behind it.  The parameters of both
together are those of the first one, and behind them those of the second one
whose names the first one does not have.
-/
theorem parameters_append
    {first second : String}
    (closes : ClosesComments first.toList)
    (ends : [';', '\n'] <:+ blankComments first.toList) :
    parameters (first ++ second) =
      parameters first ++
        (parameters second).filter fun parameter =>
          parameter.name ∉ Parameter.names (parameters first) := by
  obtain ⟨result, blanks⟩ := closes
  rw [blanks.blankComments_eq] at ends
  obtain ⟨text, rfl⟩ := ends
  have noSlash : (text ++ [';', '\n']).getLast? ≠ some '/' := by simp
  have together :
      declarations (blankComments (first ++ second).toList) =
        declarations (blankComments first.toList) ++
          declarations (blankComments second.toList) := by
    rw [String.toList_append, blanks.blankComments_joined noSlash, blanks.blankComments_eq]
    exact declarations_semicolon_line text _
  have sameNames (name : String) :
      name ∈ Parameter.names (parameters first) ↔
        name ∈ Parameter.names (declarations (blankComments first.toList)) := by
    rw [parameters_eq, mem_names_firstOfEachName]
    simp
  simp only [sameNames]
  rw [parameters_eq, together, firstOfEachName_append, firstOfEachName_append_seen,
    parameters_eq, parameters_eq]

/-- A comment over two lines ends the first source, and the second one repeats its name. -/
theorem parameters_append_repeated :
    ClosesComments "input int Period = 14;/*\n*/".toList ∧
      [';', '\n'] <:+ blankComments "input int Period = 14;/*\n*/".toList ∧
      parameters ("input int Period = 14;/*\n*/" ++
          "*input\ninput int Period = 20;\nextern double Level = 0.5;") =
        [⟨"Period", "14", some "int"⟩, ⟨"Level", "0.5", some "double"⟩] := by
  have shape : "input int Period = 14;/*\n*/".toList =
      "input int Period = 14;".toList ++ '/' :: '*' :: (['\n'] ++ '*' :: '/' :: []) := by
    decide
  have blanks : BlanksTo "input int Period = 14;/*\n*/".toList
      ("input int Period = 14;".toList ++ (['\n'] ++ [])) := by
    rw [shape]
    exact (BlanksTo.of_uncommented (by decide)).append
      (@BlanksTo.comment ['\n'] [] [] (by decide) .nil) (by decide)
  have closes : ClosesComments "input int Period = 14;/*\n*/".toList := ⟨_, blanks⟩
  have ends : [';', '\n'] <:+ blankComments "input int Period = 14;/*\n*/".toList := by
    rw [blanks.blankComments_eq]
    decide
  refine ⟨closes, ends, ?_⟩
  rw [parameters_append closes ends, parameters_eq, parameters_eq, blanks.blankComments_eq,
    blankComments_of_uncommented (by decide)]
  decide

end ExpertAdvisor.Indicator

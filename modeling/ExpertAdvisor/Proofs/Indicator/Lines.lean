import ExpertAdvisor.Proofs.Indicator.Extraction
import ExpertAdvisor.Proofs.Indicator.Uncommented
import ExpertAdvisor.Text.Lines

namespace ExpertAdvisor.Indicator

open Text

/-!
# Declarations line by line

What a text declares is put together from its lines: each line gives at most
the declaration that begins there.  A line that cannot begin a declaration
gives none, whatever follows it.
-/

/-- The parameter of the declaration with which a text begins. -/
def leadingParameter? (text : List Char) : Option Parameter :=
  (declarationPattern.match? ⟨0, none, text⟩).map declaredParameter

/-- A text that begins with a declaration has its parameter in the lead. -/
theorem leadingParameter?_of_form
    {text : List Char}
    {form : DeclarationForm}
    (isPrefix : form.text <+: text) :
    leadingParameter? text = some form.parameter := by
  obtain ⟨found, matched, _, _, parameterOf⟩ :=
    match?_of_form (show Cursor.startsLine ⟨0, none, text⟩ = true from rfl) isPrefix
  rw [leadingParameter?, matched, Option.map_some, parameterOf]

/-- Nothing leads a text that begins with no form. -/
theorem leadingParameter?_eq_none
    {text : List Char}
    (noForm : ∀ form : DeclarationForm, ¬ form.text <+: text) :
    leadingParameter? text = none := by
  rw [leadingParameter?, Option.map_eq_none_iff, Option.eq_none_iff_forall_ne_some]
  intro found matched
  obtain ⟨_, form, isPrefix, _⟩ := form_of_match? matched
  exact noForm form isPrefix

/-- The parameter declared at a place, which only the start of a line has. -/
theorem parameter_at
    (cursor : Cursor) :
    (declarationPattern.match? cursor).map declaredParameter =
      if cursor.startsLine then leadingParameter? cursor.rest else none := by
  cases matched : declarationPattern.match? cursor with
  | some found =>
      obtain ⟨startsLine, form, isPrefix, _, _, parameterOf⟩ := form_of_match? matched
      rw [if_pos startsLine, leadingParameter?_of_form isPrefix, Option.map_some, parameterOf]
  | none =>
      split
      · rename_i startsLine
        refine (leadingParameter?_eq_none fun form isPrefix => ?_).symm
        obtain ⟨found, otherwise, _⟩ := match?_of_form startsLine isPrefix
        exact absurd (matched.symm.trans otherwise) nofun
      · rfl

/-- The parameters declared in the rest of a text. -/
def declarationsFrom
    (startsLine : Bool) :
    List Char → List Parameter
  | [] => []
  | character :: rest =>
      (if startsLine then leadingParameter? (character :: rest) else none).toList ++
        declarationsFrom (character == '\n') rest

@[simp]
theorem leadingParameter?_nil : leadingParameter? [] = none :=
  leadingParameter?_eq_none fun form isPrefix => by
    simpa [DeclarationForm.text] using List.prefix_nil.mp isPrefix

/-- The declarations of a text, found from left to right. -/
theorem declarations_eq_declarationsFrom (text : List Char) :
    declarations text = declarationsFrom true text := by
  have everywhere (offset : Nat) (previous : Option Char) :
      ((Cursor.everyFrom offset previous text).filterMap fun cursor =>
        (declarationPattern.match? cursor).map declaredParameter) =
        declarationsFrom (Cursor.startsLine ⟨offset, previous, text⟩) text := by
    simp only [parameter_at]
    induction text generalizing offset previous with
    | nil => simp [Cursor.everyFrom, declarationsFrom]
    | cons character rest inductionHypothesis =>
        have nextStarts :
            Cursor.startsLine ⟨offset + 1, some character, rest⟩ = (character == '\n') := rfl
        rw [Cursor.everyFrom, List.filterMap_cons, inductionHypothesis, nextStarts,
          declarationsFrom]
        split <;> simp_all
  rw [declarations_eq_filterMap]
  exact everywhere 0 none

/-- Within a line nothing is declared behind its beginning. -/
theorem declarationsFrom_within_line
    {line : List Char}
    (oneLine : '\n' ∉ line)
    (rest : List Char) :
    declarationsFrom false (line ++ rest) = declarationsFrom false rest := by
  induction line with
  | nil => rfl
  | cons character more inductionHypothesis =>
      obtain ⟨notBreak, moreOneLine⟩ := List.ne_and_not_mem_of_not_mem_cons oneLine
      have goesOn : (character == '\n') = false := beq_false_of_ne notBreak.symm
      rw [List.cons_append, declarationsFrom, goesOn, inductionHypothesis moreOneLine]
      rfl

/-- Nothing is declared in what is left of a line once it has begun. -/
theorem declarationsFrom_rest_of_line
    {line : List Char}
    (oneLine : '\n' ∉ line) :
    declarationsFrom false line = [] := by
  rw [← List.append_nil line, declarationsFrom_within_line oneLine, declarationsFrom]

/-- A line gives what its beginning declares, and then the text behind it is read. -/
theorem declarations_line
    {line : List Char}
    (oneLine : '\n' ∉ line)
    (rest : List Char) :
    declarations (line ++ '\n' :: rest) =
      (leadingParameter? (line ++ '\n' :: rest)).toList ++ declarations rest := by
  rw [declarations_eq_declarationsFrom, declarations_eq_declarationsFrom rest]
  cases line with
  | nil => rfl
  | cons character more =>
      obtain ⟨notBreak, moreOneLine⟩ := List.ne_and_not_mem_of_not_mem_cons oneLine
      have goesOn : (character == '\n') = false := beq_false_of_ne notBreak.symm
      rw [List.cons_append, declarationsFrom, goesOn, declarationsFrom_within_line moreOneLine]
      rfl

end ExpertAdvisor.Indicator

import ExpertAdvisor.Proofs.Indicator.BlankedComments
import ExpertAdvisor.Proofs.Indicator.Seams

namespace ExpertAdvisor.Indicator

open Text

/-!
# Line comments

A declaration has slashes in its value only, so the slash that begins a line
comment stands behind every declaration or in the value of one that is not ended
yet.  Such a declaration can be ended by a semicolon in the comment.  Apart from
it, and from block comments that are opened in the line comment and closed
behind it, a line comment has no part in what a text declares.
-/

/-! Slashes in declarations. -/

namespace DeclarationForm

/-- No slash stands before the value of a declaration. -/
theorem slash_not_mem_lead (form : DeclarationForm) : '/' ∉ form.lead :=
  form.not_mem_lead (by decide) (by decide) (by decide)

/-- A slash in a declaration stands in its value, which goes on up to the semicolon. -/
theorem slash_in_value
    {form : DeclarationForm}
    {before behind : List Char}
    (shape : form.text = before ++ '/' :: behind) :
    ∃ cut onward, before = form.lead ++ cut ∧ behind = onward ++ [';'] ∧
      form.value = cut ++ '/' :: onward := by
  rw [text_eq_lead] at shape
  obtain ⟨cut, beforeShape, inEnding⟩ := occurs_behind shape form.slash_not_mem_lead
  rcases occurs_in_part inEnding with ⟨onward, valueShape, behindShape⟩ | ⟨past, _, inSemicolon⟩
  · exact ⟨cut, onward, beforeShape, behindShape, valueShape⟩
  · have isSemicolon : '/' ∈ [';'] := by simp [inSemicolon]
    exact absurd isSemicolon (by decide)

/-- Behind a slash a declaration stays on its line. -/
theorem no_break_behind_slash
    {form : DeclarationForm}
    {before behind : List Char}
    (shape : form.text = before ++ '/' :: behind) :
    '\n' ∉ behind := by
  obtain ⟨cut, onward, _, rfl, valueShape⟩ := slash_in_value shape
  have within := form.value_within
  rw [valueShape] at within
  have onwardWithin := (Within.cons_iff.mp (Within.append_iff.mp within).2).2
  rw [List.mem_append, not_or]
  exact ⟨onwardWithin.not_mem (by decide), by decide⟩

end DeclarationForm

/-! A line that ends in a slash and more. -/

/-- A declaration that reaches over a slash does not reach over the end of its line. -/
theorem not_reachesOver_comment_line
    {comment : List Char}
    (oneLine : '\n' ∉ comment)
    (startsLine : Bool)
    (text rest : List Char)
    (form : DeclarationForm)
    (line behind : List Char) :
    ¬ ReachesOver startsLine (text ++ '/' :: comment) ('\n' :: rest) form line behind := by
  rintro ⟨⟨before, shape, starts⟩, _, textShape, goesOn, isPrefix⟩
  obtain ⟨more, rfl⟩ : ∃ more, behind = '\n' :: more := by
    rcases List.prefix_cons_iff.mp isPrefix with nothing | ⟨more, isMore, _⟩
    · exact absurd nothing goesOn
    · exact ⟨more, isMore⟩
  rcases occurs_in_part shape.symm with ⟨past, rfl, commentShape⟩ | ⟨within, rfl, lineShape⟩
  · -- The line would start in the comment.
    rcases List.eq_nil_or_concat past with rfl | ⟨earlier, final, rfl⟩
    · exact StartsLineBehind.not_concat (by decide) starts
    · have member : final ∈ comment := by simp [commentShape]
      rw [List.concat_eq_append, ← List.cons_append, ← List.append_assoc] at starts
      exact StartsLineBehind.not_concat (fun isBreak => oneLine (isBreak ▸ member)) starts
  · rw [lineShape, List.append_assoc, List.cons_append] at textShape
    exact DeclarationForm.no_break_behind_slash textShape (by simp)

/-- The lines behind a comment are read apart from those in front of its end. -/
theorem declarationsFrom_comment_line
    {comment : List Char}
    (oneLine : '\n' ∉ comment)
    (startsLine : Bool)
    (text rest : List Char) :
    declarationsFrom startsLine (text ++ '/' :: (comment ++ '\n' :: rest)) =
      declarationsFrom startsLine (text ++ '/' :: comment) ++ declarationsFrom true rest := by
  have apart := not_reachesOver_comment_line oneLine startsLine text rest
  rw [← List.cons_append, ← List.append_assoc, declarationsFrom_append_apart apart,
    declarationsFrom_break]

/-! What a comment adds to the text in front of it. -/

/-- A declaration begins on a line of a text and ends in the comment behind the text. -/
def ReachesInto
    (comment : List Char)
    (startsLine : Bool)
    (text : List Char)
    (form : DeclarationForm) : Prop :=
  ∃ before rest behind,
    text = before ++ rest ∧ StartsLineBehind startsLine before ∧
      form.text = rest ++ '/' :: behind ∧ behind <+: comment

/-- A text ends in a declaration whose value is not ended by a semicolon yet. -/
def StopsInValue
    (text : List Char)
    (form : DeclarationForm) : Prop :=
  ∃ before rest, text = before ++ rest ∧ StartsLineBehind true before ∧
    form.text = rest ++ [';']

/-- A text goes on with characters of a value and ends the value with a semicolon. -/
def EndsValue (text : List Char) : Prop :=
  ∃ value rest, text = value ++ ';' :: rest ∧ Within isValueCharacter value

/-- A declaration that ends in a comment is one whose value is open in front of the comment. -/
theorem exists_open_of_reaches
    {form : DeclarationForm}
    {text behind comment : List Char}
    (reaches : form.text = text ++ '/' :: behind)
    (isPrefix : behind <+: comment) :
    EndsValue comment ∧ ∃ openForm : DeclarationForm,
      openForm.text = text ++ [';'] ∧ openForm.parameter.name = form.parameter.name := by
  obtain ⟨cut, onward, rfl, rfl, valueShape⟩ := DeclarationForm.slash_in_value reaches
  have within := form.value_within
  rw [valueShape, Within.append_iff, Within.cons_iff] at within
  obtain ⟨cutWithin, _, onwardWithin⟩ := within
  obtain ⟨more, rfl⟩ := isPrefix
  refine ⟨⟨onward, more, by simp, onwardWithin⟩, form.withValue cut cutWithin, ?_, rfl⟩
  rw [DeclarationForm.text_withValue, List.append_assoc]

/-- A declaration whose value is open is ended in a comment that ends values. -/
theorem exists_reaching_of_open
    {openForm : DeclarationForm}
    {text comment : List Char}
    (stops : openForm.text = text ++ [';'])
    (ends : EndsValue comment) :
    ∃ form : DeclarationForm, form.text <+: text ++ '/' :: comment ∧
      form.parameter.name = openForm.parameter.name := by
  obtain ⟨value, rest, rfl, within⟩ := ends
  rw [DeclarationForm.text_eq_lead, ← List.append_assoc] at stops
  obtain ⟨rfl, _⟩ := List.append_inj' stops rfl
  have wholeWithin : Within isValueCharacter (openForm.value ++ '/' :: value) :=
    Within.append_iff.mpr
      ⟨openForm.value_within, Within.cons_iff.mpr ⟨by decide, within⟩⟩
  refine ⟨openForm.withValue _ wholeWithin, ⟨rest, ?_⟩, rfl⟩
  rw [DeclarationForm.text_withValue]
  simp

/-- A line comment by itself declares nothing. -/
theorem declarationsFrom_slash
    {comment : List Char}
    (oneLine : '\n' ∉ comment)
    (startsLine : Bool) :
    declarationsFrom startsLine ('/' :: comment) = [] := by
  rw [declarationsFrom, leadingParameter?_cons_eq_none (by decide) (by decide), ite_self,
    show ('/' == '\n') = false from rfl, declarationsFrom_rest_of_line oneLine]
  rfl

/-- A comment adds at most one declaration, which the text in front of it has begun. -/
theorem declarationsFrom_comment
    {comment : List Char}
    (oneLine : '\n' ∉ comment)
    (startsLine : Bool)
    (text : List Char) :
    ∃ added, declarationsFrom startsLine (text ++ '/' :: comment) =
        declarationsFrom startsLine text ++ added ∧
      (added = [] ∨ ∃ form, ReachesInto comment startsLine text form ∧
        added = [form.parameter]) := by
  obtain ⟨across, declared, shape⟩ := exists_declaredOver startsLine text ('/' :: comment)
  rw [declarationsFrom_slash oneLine, List.append_nil] at shape
  refine ⟨across.toList, shape, ?_⟩
  cases across with
  | none => exact .inl rfl
  | some parameter =>
      obtain ⟨form, line, behind, reaches, rfl⟩ := (declared parameter).mp rfl
      obtain ⟨before, textShape, starts⟩ := reaches.begins
      rcases List.prefix_cons_iff.mp reaches.isPrefix with nothing | ⟨more, rfl, isPrefix⟩
      · exact absurd nothing reaches.behind_ne_nil
      · exact .inr ⟨form, ⟨before, line, more, textShape, starts, reaches.text_eq, isPrefix⟩, rfl⟩

end ExpertAdvisor.Indicator

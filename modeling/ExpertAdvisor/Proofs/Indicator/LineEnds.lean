import ExpertAdvisor.Proofs.Indicator.BlankedComments
import ExpertAdvisor.Proofs.Indicator.Respacing

namespace ExpertAdvisor.Indicator

open Text

/-!
# Line ends

A carriage return in front of a line break has no effect.  Between the words of
a declaration it is one more blank, in a value neither of the two can stand, and
no declaration begins with either.  Comments lose their carriage returns with
their text, so the returns of a text without comments are those that were put in
front of the remaining line breaks.
-/

/-- Carriage returns are put in front of some line breaks of a text. -/
inductive AddsReturns : List Char → List Char → Prop where
  | nil : AddsReturns [] []
  | same
      {text returned : List Char}
      (character : Char) :
      AddsReturns text returned →
      AddsReturns (character :: text) (character :: returned)
  | returned
      {text returned : List Char} :
      AddsReturns text returned →
      AddsReturns ('\n' :: text) ('\r' :: '\n' :: returned)

/-! Declarations. -/

namespace DeclarationForm

variable {form : DeclarationForm} {line behind : List Char} {character : Char}

/-- Behind an indent a declaration does not break its line. -/
theorem not_within_indent (shape : form.text = line ++ '\n' :: behind) :
    ¬ Within isSpaceOrTab line := by
  intro within
  rw [text_eq] at shape
  obtain ⟨_, onward⟩ := run_unique shape form.indent_within within form.leaves_indent
    (Leaves.cons_iff.mpr (by decide))
  have leavesBlank : Leaves isBlank (spacedText form.words ++ '=' :: form.ending) :=
    form.wellSpaced.leaves_isBlank
  rw [onward, Leaves.cons_iff] at leavesBlank
  exact absurd leavesBlank (by decide)

/-- What cannot stand in a value stands in front of the equals sign or ends the declaration. -/
theorem not_behind_lead
    (shape : form.text = line ++ character :: behind)
    (noValue : isValueCharacter character = false)
    (noEnd : character ≠ ';') :
    ¬ form.lead <+: line := by
  rintro ⟨cut, rfl⟩
  rw [text_eq_lead, List.append_assoc, List.append_cancel_left_eq] at shape
  have member : character ∈ form.value ++ [';'] := by simp [shape]
  rcases List.mem_append.mp member with inValue | atEnd
  · exact form.value_within.not_mem noValue inValue
  · exact noEnd (List.mem_singleton.mp atEnd)

end DeclarationForm

/-- No words meet at a line break. -/
theorem not_wordsMeet_break (first rest : List Char) : ¬ WordsMeet first ('\n' :: rest) :=
  @not_wordsMeet_before_blanks ['\n'] (by decide) (List.cons_ne_nil _ _) first rest

/-- A carriage return in front of a line break changes no declaration. -/
theorem declarations_return (text rest : List Char) :
    declarations (text ++ '\r' :: '\n' :: rest) = declarations (text ++ '\n' :: rest) := by
  have returnLeads := leadingParameter?_cons_eq_none (show isWord '\r' = false by decide)
    (by decide) ('\n' :: rest)
  have breakLeads := leadingParameter?_cons_eq_none (show isWord '\n' = false by decide)
    (by decide) rest
  apply declarations_separated (by decide) (by decide) (returnLeads.trans breakLeads.symm)
  · intro form line behind reaches
    obtain ⟨more, rfl⟩ := reaches.exists_behind_separator
    apply DeclarationForm.exists_form_of_inserted reaches.text_eq (by decide)
    · intro within
      exact absurd within (DeclarationForm.not_within_indent reaches.text_eq)
    · exact not_wordsMeet_break line more
    · exact DeclarationForm.not_behind_lead reaches.text_eq (by decide) (by decide)
  · intro form line behind reaches
    obtain ⟨goesOn, isPrefix⟩ := reaches.behind_separator (by decide)
    rcases List.prefix_cons_iff.mp isPrefix with nothing | ⟨others, rfl, _⟩
    · exact absurd nothing goesOn
    · apply DeclarationForm.exists_form_of_removed reaches.text_eq (by decide)
      · exact not_wordsMeet_break line others
      · exact DeclarationForm.not_behind_lead reaches.text_eq (by decide) (by decide)

namespace AddsReturns

variable {text returned moreText moreReturned : List Char}

/-- Added carriage returns change no declaration, whatever stands in front of the text. -/
theorem declarations_eq
    (adds : AddsReturns text returned)
    (before : List Char) :
    declarations (before ++ returned) = declarations (before ++ text) := by
  induction adds generalizing before with
  | nil => rfl
  | same character _ inductionHypothesis =>
      have goesOn := inductionHypothesis (before ++ [character])
      rwa [List.append_assoc, List.append_assoc] at goesOn
  | returned _ inductionHypothesis =>
      have goesOn := inductionHypothesis (before ++ ['\n'])
      rw [List.append_assoc, List.append_assoc] at goesOn
      exact (declarations_return before _).trans goesOn

theorem refl (text : List Char) : AddsReturns text text := by
  induction text with
  | nil => exact .nil
  | cons character rest inductionHypothesis => exact .same character inductionHypothesis

theorem append
    (adds : AddsReturns text returned)
    (moreAdds : AddsReturns moreText moreReturned) :
    AddsReturns (text ++ moreText) (returned ++ moreReturned) := by
  induction adds with
  | nil => exact moreAdds
  | same character _ inductionHypothesis => exact .same character inductionHypothesis
  | returned _ inductionHypothesis => exact .returned inductionHypothesis

end AddsReturns

/-! Comments. -/

/-- A text in which every line break has a carriage return in front of it. -/
def withReturns (text : List Char) : List Char :=
  text.flatMap fun character => if character = '\n' then ['\r', '\n'] else [character]

theorem withReturns_break (rest : List Char) :
    withReturns ('\n' :: rest) = '\r' :: '\n' :: withReturns rest := rfl

theorem withReturns_cons
    {character : Char}
    (notBreak : character ≠ '\n')
    (rest : List Char) :
    withReturns (character :: rest) = character :: withReturns rest := by
  rw [withReturns, List.flatMap_cons, if_neg notBreak]
  rfl

theorem withReturns_append (first second : List Char) :
    withReturns (first ++ second) = withReturns first ++ withReturns second :=
  List.flatMap_append

/-- A text begins with the same character as before, line breaks apart. -/
theorem head?_of_withReturns
    {character : Char}
    {text : List Char}
    (headed : (withReturns text).head? = some character)
    (notReturn : character ≠ '\r') :
    text.head? = some character := by
  cases text with
  | nil => exact headed
  | cons first rest =>
      by_cases isBreak : first = '\n'
      · rw [isBreak, withReturns_break] at headed
        exact absurd (Option.some.inj headed).symm notReturn
      · rwa [withReturns_cons isBreak] at headed

theorem addsReturns_withReturns (text : List Char) : AddsReturns text (withReturns text) := by
  induction text with
  | nil => exact .nil
  | cons character rest inductionHypothesis =>
      by_cases isBreak : character = '\n'
      · rw [isBreak, withReturns_break]
        exact .returned inductionHypothesis
      · rw [withReturns_cons isBreak]
        exact .same character inductionHypothesis

/-- Returns change no line breaks. -/
theorem breaksOf_withReturns (text : List Char) : breaksOf (withReturns text) = breaksOf text := by
  induction text with
  | nil => rfl
  | cons character rest inductionHypothesis =>
      rw [breaksOf, breaksOf] at inductionHypothesis ⊢
      by_cases isBreak : character = '\n'
      · simp [isBreak, withReturns_break, inductionHypothesis]
      · simp [isBreak, withReturns_cons, inductionHypothesis]

theorem Unclosed.withReturns
    {text : List Char}
    (unclosed : Unclosed text) :
    Unclosed (withReturns text) := by
  induction text with
  | nil => exact unclosed
  | cons character rest inductionHypothesis =>
      obtain ⟨notClosed, restUnclosed⟩ := cons_iff.mp unclosed
      by_cases isBreak : character = '\n'
      · rw [isBreak, withReturns_break]
        exact cons_iff.mpr ⟨by simp, cons_iff.mpr ⟨by simp, inductionHypothesis restUnclosed⟩⟩
      · rw [withReturns_cons isBreak]
        refine cons_iff.mpr ⟨?_, inductionHypothesis restUnclosed⟩
        rintro ⟨isAsterisk, headed⟩
        exact notClosed ⟨isAsterisk, head?_of_withReturns headed (by decide)⟩

/-- Comments are blanked alike with carriage returns, which stay where their line breaks do. -/
theorem BlanksTo.exists_withReturns
    {closed result : List Char}
    (blanks : BlanksTo closed result) :
    ∃ returned, BlanksTo (withReturns closed) returned ∧ AddsReturns result returned := by
  induction blanks with
  | nil => exact ⟨[], .nil, .nil⟩
  | @plain character rest result plain _ inductionHypothesis =>
      obtain ⟨returned, restBlanks, adds⟩ := inductionHypothesis
      by_cases isBreak : character = '\n'
      · rw [isBreak, withReturns_break]
        exact ⟨'\r' :: '\n' :: returned, .plain (by simp) (.plain (by simp) restBlanks),
          .returned adds⟩
      · rw [withReturns_cons isBreak]
        refine ⟨character :: returned, .plain ?_ restBlanks, .same character adds⟩
        rintro ⟨isSlash, headed⟩
        exact plain ⟨isSlash, head?_of_withReturns headed (by decide)⟩
  | @comment inside rest result unclosed _ inductionHypothesis =>
      obtain ⟨returned, restBlanks, adds⟩ := inductionHypothesis
      have stillUnclosed : Unclosed (withReturns inside ++ ['*']) := by
        have whole := unclosed.withReturns
        rwa [withReturns_append] at whole
      have commentBlanks := BlanksTo.comment stillUnclosed restBlanks
      have shape : withReturns ('/' :: '*' :: (inside ++ '*' :: '/' :: rest)) =
          '/' :: '*' :: (withReturns inside ++ '*' :: '/' :: withReturns rest) := by
        rw [withReturns_cons (by decide), withReturns_cons (by decide), withReturns_append,
          withReturns_cons (by decide), withReturns_cons (by decide)]
      rw [shape]
      refine ⟨_, commentBlanks, ?_⟩
      rw [breaksOf_withReturns]
      exact (AddsReturns.refl _).append adds

/-- Without its comments a text with carriage returns is the text without comments, with returns. -/
theorem addsReturns_blankComments (text : List Char) :
    AddsReturns (blankComments text) (blankComments (withReturns text)) := by
  obtain ⟨closed, result, rest, rfl, blanks, ending⟩ := exists_closed_part text
  obtain ⟨returned, returnedBlanks, adds⟩ := blanks.exists_withReturns
  have returnedEnding : withReturns rest = [] ∨ IsOpenComment (withReturns rest) := by
    rcases ending with rfl | ⟨opened, rfl, unclosed⟩
    · exact .inl rfl
    · refine .inr ⟨withReturns opened, ?_, unclosed.withReturns⟩
      rw [withReturns_cons (by decide), withReturns_cons (by decide)]
  have restUnchanged : blankComments rest = rest := blankCommentsFrom_ending ending []
  have returnedUnchanged : blankComments (withReturns rest) = withReturns rest :=
    blankCommentsFrom_ending returnedEnding []
  rw [withReturns_append, blanks.blankComments_append (head?_ne_of_ending ending),
    returnedBlanks.blankComments_append (head?_ne_of_ending returnedEnding), restUnchanged,
    returnedUnchanged]
  exact adds.append (addsReturns_withReturns rest)

/--
A source has the same parameters when each of its line breaks is written with a
carriage return in front of it: the same names, defaults and types, in the same
order.
-/
theorem parameters_withReturns (source : String) :
    parameters (String.ofList (withReturns source.toList)) = parameters source := by
  have same := (addsReturns_blankComments source.toList).declarations_eq []
  rw [List.nil_append, List.nil_append] at same
  rw [parameters_eq, parameters_eq, String.toList_ofList, same]

end ExpertAdvisor.Indicator

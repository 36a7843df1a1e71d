import ExpertAdvisor.Proofs.Indicator.Lines

namespace ExpertAdvisor.Indicator

open Text

/-!
# Declarations of written lines

A program is written as a list of lines.  What it declares is known line by
line, and stays the same however the lines are grouped: into sections, or into a
text that counts as one line of another list.
-/

/-- The text of lines, each with the break behind it. -/
def linesText (lines : List String) : List Char :=
  lines.flatMap fun line => line.toList ++ ['\n']

theorem linesText_append (first second : List String) :
    linesText (first ++ second) = linesText first ++ linesText second :=
  List.flatMap_append

/-- Joined lines with a break behind them are the lines' text. -/
theorem toList_joinLines_append_break
    {lines : List String}
    (someLines : lines ≠ []) :
    (joinLines lines).toList ++ ['\n'] = linesText lines := by
  induction lines with
  | nil => exact absurd rfl someLines
  | cons line rest inductionHypothesis =>
      cases rest with
      | nil => simp [joinLines, linesText]
      | cons next more =>
          have goesOn := inductionHypothesis (List.cons_ne_nil next more)
          rw [joinLines, String.intercalate_cons_cons, String.toList_append, String.toList_append,
            List.append_assoc, List.append_assoc, ← joinLines, goesOn]
          simp [linesText]

/-- Joined lines are written as the lines are. -/
theorem linesText_joinLines
    {lines : List String}
    (someLines : lines ≠ []) :
    linesText [joinLines lines] = linesText lines := by
  rw [linesText, List.flatMap_singleton, toList_joinLines_append_break someLines]

/-- Sections that are set apart by empty lines are one list of lines. -/
theorem toList_intercalate_sections
    {sections : List (List String)}
    (someSections : sections ≠ [])
    (someLines : ∀ lines ∈ sections, lines ≠ []) :
    ("\n\n".intercalate (sections.map joinLines) ++ "\n").toList =
      linesText ([""].intercalate sections) := by
  rw [String.toList_append]
  induction sections with
  | nil => exact absurd rfl someSections
  | cons lines rest inductionHypothesis =>
      have leading := toList_joinLines_append_break (someLines _ List.mem_cons_self)
      cases rest with
      | nil => simpa using leading
      | cons next more =>
          have goesOn := inductionHypothesis (List.cons_ne_nil next more)
            fun lines member => someLines lines (List.mem_cons_of_mem _ member)
          have twice : "\n\n".toList = ['\n'] ++ ['\n'] := by decide
          rw [List.map_cons] at goesOn ⊢
          rw [List.map_cons, String.intercalate_cons_cons, String.toList_append,
            String.toList_append, List.intercalate_cons_cons, linesText_append, linesText_append,
            ← goesOn, ← leading, twice]
          simp [linesText]

theorem getLast?_linesText (lines : List String) :
    (linesText lines).getLast? ≠ some '/' := by
  rcases List.eq_nil_or_concat lines with rfl | ⟨earlier, line, rfl⟩
  · decide
  · rw [List.concat_eq_append, linesText_append]
    simp [linesText]

/-! Lines that declare nothing. -/

/--
No text that begins with certain characters begins with a declaration: behind
blanks they differ from both qualifiers.
-/
def RulesOut (start : List Char) : Prop :=
  ∀ qualifier ∈ [inputQualifier, externQualifier],
    ¬ qualifier <+: start.dropWhile isSpaceOrTab ∧
      ¬ start.dropWhile isSpaceOrTab <+: qualifier

/-- Whether the start of a line rules a declaration out can be decided. -/
instance (start : List Char) : Decidable (RulesOut start) :=
  inferInstanceAs (Decidable (∀ qualifier ∈ [inputQualifier, externQualifier], _))

/-- Behind its indent a declaration begins with its qualifier. -/
theorem DeclarationForm.qualifier_isPrefix
    (form : DeclarationForm)
    (rest : List Char) :
    form.qualifier <+: (form.text ++ rest).dropWhile isSpaceOrTab := by
  obtain ⟨more, shape⟩ :
      ∃ more, form.text ++ rest = form.indent ++ (form.qualifier ++ more) :=
    ⟨_, by simp only [text, List.append_assoc]; rfl⟩
  rw [shape, List.dropWhile_append_of_pos form.indent_within]
  rcases form.qualifier_known with isInput | isExtern
  · rw [isInput]
    exact List.prefix_append inputQualifier more
  · rw [isExtern]
    exact List.prefix_append externQualifier more

namespace RulesOut

variable {start : List Char}

/-- What rules out a declaration is still there when blanks are dropped. -/
theorem dropWhile_append
    (ruledOut : RulesOut start)
    (rest : List Char) :
    (start ++ rest).dropWhile isSpaceOrTab = start.dropWhile isSpaceOrTab ++ rest := by
  rw [List.dropWhile_append, if_neg]
  intro nothingLeft
  refine (ruledOut inputQualifier List.mem_cons_self).2 ?_
  rw [List.isEmpty_iff.mp nothingLeft]
  exact List.nil_prefix

/-- A beginning that rules out a declaration does so whatever follows it. -/
theorem not_isPrefix
    (ruledOut : RulesOut start)
    (rest : List Char)
    (form : DeclarationForm) :
    ¬ form.text <+: start ++ rest := by
  rintro ⟨behind, shape⟩
  have known : form.qualifier ∈ [inputQualifier, externQualifier] := by
    simpa using form.qualifier_known
  obtain ⟨notQualifier, notBeginning⟩ := ruledOut _ known
  have qualifierFirst := form.qualifier_isPrefix behind
  rw [shape, ruledOut.dropWhile_append] at qualifierFirst
  rcases List.prefix_or_prefix_of_prefix qualifierFirst (List.prefix_append _ _) with
    isBeginning | isQualifier
  · exact notQualifier isBeginning
  · exact notBeginning isQualifier

/-- What rules a declaration out does so whatever follows. -/
theorem append
    (ruledOut : RulesOut start)
    (rest : List Char) :
    RulesOut (start ++ rest) := by
  intro qualifier known
  obtain ⟨notQualifier, notBeginning⟩ := ruledOut qualifier known
  rw [ruledOut.dropWhile_append]
  refine ⟨fun isQualifier => ?_, fun isBeginning => ?_⟩
  · rcases List.prefix_or_prefix_of_prefix isQualifier (List.prefix_append _ _) with
      earlier | later
    · exact notQualifier earlier
    · exact notBeginning later
  · exact notBeginning ((List.prefix_append _ _).trans isBeginning)

end RulesOut

/-- A line of code that declares nothing, whatever follows it. -/
structure Quiet (line : List Char) : Prop where
  oneLine : '\n' ∉ line
  uncommented : Uncommented line
  ruledOut : RulesOut (line ++ ['\n'])

/-- Whether a line is quiet can be decided. -/
instance (line : List Char) : Decidable (Quiet line) :=
  decidable_of_iff ('\n' ∉ line ∧ Uncommented line ∧ RulesOut (line ++ ['\n']))
    ⟨fun quiet => ⟨quiet.1, quiet.2.1, quiet.2.2⟩,
      fun quiet => ⟨quiet.oneLine, quiet.uncommented, quiet.ruledOut⟩⟩

/-- A line is quiet when the characters that spell it are. -/
theorem Quiet.of_spelling
    {line : String}
    {characters : List Char}
    (spelled : line = String.ofList characters)
    (quiet : Quiet characters) :
    Quiet line.toList := by
  rwa [spelled, String.toList_ofList]

/-- Lines that open no comment, and what they declare in front of any other text. -/
structure LinesDeclare
    (lines : List String)
    (parameters : List Parameter) : Prop where
  uncommented : Uncommented (linesText lines)
  read : ∀ rest, declarations (linesText lines ++ rest) = parameters ++ declarations rest

namespace LinesDeclare

variable {lines moreLines : List String} {parameters moreParameters : List Parameter}

theorem nil : LinesDeclare [] [] :=
  ⟨by decide, fun _ => rfl⟩

/-- Lines put together declare their parameters one after the other. -/
theorem append
    (first : LinesDeclare lines parameters)
    (second : LinesDeclare moreLines moreParameters) :
    LinesDeclare (lines ++ moreLines) (parameters ++ moreParameters) where
  uncommented := by
    rw [linesText_append]
    exact first.uncommented.append second.uncommented fun meets =>
      getLast?_linesText lines meets.1
  read rest := by
    rw [linesText_append, List.append_assoc, first.read, second.read, List.append_assoc]

/-- What a line declares is what its beginning declares. -/
theorem of_leadingParameter?
    {line : String}
    {parameter? : Option Parameter}
    (oneLine : '\n' ∉ line.toList)
    (uncommented : Uncommented line.toList)
    (leads : ∀ rest, leadingParameter? (line.toList ++ '\n' :: rest) = parameter?) :
    LinesDeclare [line] parameter?.toList where
  uncommented := by
    rw [linesText, List.flatMap_singleton]
    exact uncommented.append (by decide) fun meets => absurd meets.2 (by decide)
  read rest := by
    rw [linesText, List.flatMap_singleton, List.append_assoc, List.singleton_append,
      declarations_line oneLine, leads]

/-- A line that is a declaration with a note behind it declares its parameter. -/
theorem of_form
    {line : String}
    {form : DeclarationForm}
    (oneLine : '\n' ∉ line.toList)
    (uncommented : Uncommented line.toList)
    (isPrefix : form.text <+: line.toList) :
    LinesDeclare [line] [form.parameter] :=
  of_leadingParameter? oneLine uncommented fun _ =>
    leadingParameter?_of_form (isPrefix.trans (List.prefix_append _ _))

/-- Quiet lines declare nothing. -/
theorem of_quiet (quiet : ∀ line ∈ lines, Quiet line.toList) :
    LinesDeclare lines [] := by
  induction lines with
  | nil => exact nil
  | cons line rest inductionHypothesis =>
      obtain ⟨lineQuiet, restQuiet⟩ := List.forall_mem_cons.mp quiet
      have nothingLeads (later : List Char) :
          leadingParameter? (line.toList ++ '\n' :: later) = none :=
        leadingParameter?_eq_none fun form => by
          rw [← List.singleton_append, ← List.append_assoc]
          exact lineQuiet.ruledOut.not_isPrefix later form
      have lineDeclares : LinesDeclare [line] [] :=
        of_leadingParameter? lineQuiet.oneLine lineQuiet.uncommented nothingLeads
      exact lineDeclares.append (inductionHypothesis restQuiet)

/-- Lines that are joined to count as one line declare what they declare on their own. -/
theorem joined
    (declare : LinesDeclare lines parameters)
    (someLines : lines ≠ []) :
    LinesDeclare [joinLines lines] parameters := by
  obtain ⟨uncommented, read⟩ := declare
  rw [← linesText_joinLines someLines] at uncommented read
  exact ⟨uncommented, read⟩

/-- Sections that are set apart by empty lines declare one after the other. -/
theorem intercalate
    {sections : List (List String × List Parameter)}
    (declare : ∀ part ∈ sections, LinesDeclare part.1 part.2) :
    LinesDeclare ([""].intercalate (sections.map Prod.fst)) (sections.flatMap Prod.snd) := by
  have gap : LinesDeclare [""] [] := of_quiet (by decide)
  induction sections with
  | nil => exact nil
  | cons part rest inductionHypothesis =>
      obtain ⟨partDeclares, restDeclare⟩ := List.forall_mem_cons.mp declare
      cases rest with
      | nil => simpa using partDeclares
      | cons next more =>
          have goesOn := inductionHypothesis restDeclare
          rw [List.map_cons] at goesOn ⊢
          rw [List.map_cons, List.intercalate_cons_cons, List.flatMap_cons, List.append_assoc]
          exact partDeclares.append (gap.append goesOn)

/-- The parameters of a program whose lines declare no name twice. -/
theorem parameters_eq
    {source : String}
    (declare : LinesDeclare lines parameters)
    (written : source.toList = linesText lines)
    (distinct : (Parameter.names parameters).Nodup) :
    Indicator.parameters source = parameters := by
  have atEnd : declarations [] = [] := by rw [declarations_eq_declarationsFrom]; rfl
  have found := declare.read []
  rw [List.append_nil, atEnd, List.append_nil] at found
  rw [Indicator.parameters, extraction, parameters_ofDeclarations, written,
    blankComments_of_uncommented declare.uncommented, found]
  exact firstOfEachName_eq_self distinct fun _ _ => List.not_mem_nil

end LinesDeclare

end ExpertAdvisor.Indicator

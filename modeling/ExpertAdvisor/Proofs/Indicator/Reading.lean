import ExpertAdvisor.Proofs.Indicator.DeclarationForm
import ExpertAdvisor.Proofs.Text.Pattern

namespace ExpertAdvisor.Indicator

open Text
open Text.Pattern (ReadsWords)

/-!
# Reading declarations

The pattern of a declaration reads, from the start of a line, exactly the texts
of declaration forms.  Although a value may be cut from the blanks around it in
several ways, each of them yields the same parameter.
-/

/-- Blanks are read where a gap comes next. -/
theorem readsWords_blanks : blanks.ReadsWords IsGap := by
  refine ((ReadsWords.one isBlank).follow (.many isBlank)).of_iff fun word => ?_
  constructor
  · rintro ⟨_, more, rfl, ⟨first, rfl, firstBlank⟩, moreBlank⟩
    exact ⟨by simp [firstBlank, moreBlank], by simp⟩
  · rintro ⟨within, nonempty⟩
    cases word with
    | nil => exact absurd rfl nonempty
    | cons first more =>
        obtain ⟨firstBlank, moreBlank⟩ := Within.cons_iff.mp within
        exact ⟨[first], more, rfl, ⟨first, rfl, firstBlank⟩, moreBlank⟩

/-- An identifier is read where it stands in front of the rest. -/
theorem readsWords_identifier : identifier.ReadsWords IsIdentifier := by
  refine ((ReadsWords.one isIdentifierStart).follow (.many isWord)).of_iff
    fun word => ?_
  constructor
  · rintro ⟨_, more, rfl, ⟨first, rfl, firstStarts⟩, moreWord⟩
    refine ⟨?_, first, rfl, firstStarts⟩
    simp [isWord_of_isIdentifierStart firstStarts, moreWord]
  · rintro ⟨within, first, atHead, firstStarts⟩
    cases word with
    | nil => simp at atHead
    | cons character more =>
        rw [List.head?_cons, Option.mem_some] at atHead
        subst first
        exact ⟨[character], more, rfl, ⟨character, rfl, firstStarts⟩,
          (Within.cons_iff.mp within).2⟩

/-- The modifier is read with the blanks behind it, or left out. -/
theorem readsWords_modifier :
    (Pattern.maybe (.follow (.word constModifier) blanks)).ReadsWords fun word =>
      ∃ constGap, (∀ gap ∈ constGap, IsGap gap) ∧ word = modifierText constGap := by
  refine ((ReadsWords.word constModifier).follow readsWords_blanks).maybe.of_iff
    fun word => ?_
  constructor
  · rintro (⟨_, gap, rfl, rfl, gapBlank⟩ | rfl)
    · exact ⟨some gap, by simpa using gapBlank, rfl⟩
    · exact ⟨none, by simp, rfl⟩
  · rintro ⟨constGap, allBlank, rfl⟩
    cases constGap with
    | none => exact .inr rfl
    | some gap => exact .inl ⟨constModifier, gap, rfl, rfl, allBlank gap rfl⟩

/-- One of the words that mark a parameter is read. -/
theorem readsWords_qualifier :
    (Pattern.either (.word inputQualifier) (.word externQualifier)).ReadsWords fun word =>
      word = inputQualifier ∨ word = externQualifier :=
  .either (.word inputQualifier) (.word externQualifier)

/-- A match captures under a name what its first capture of this name does. -/
theorem captured_cons
    (start stop : Nat)
    (capture : Capture)
    (captures : List Capture)
    (name : String) :
    (Match.mk start stop (capture :: captures)).captured name =
      if capture.name = name then capture.text
      else (Match.mk start stop captures).captured name := by
  by_cases same : capture.name = name
  · simp [Match.captured, same]
  · simp [Match.captured, same]

/-- What stands between the equals sign and the semicolon, however it was cut. -/
theorem trimBlanks_cut
    {leading value trailing : List Char}
    (leadingWithin : Within isSpaceOrTab leading)
    (trailingWithin : Within isSpaceOrTab trailing) :
    trimBlanks (leading ++ (value ++ trailing)) = trimBlanks value := by
  rw [trimBlanks, trimBlanks, ← List.append_assoc,
    trimWhere_append_right (trailingWithin.mono isBlank_of_isSpaceOrTab),
    trimWhere_append_left (leadingWithin.mono isBlank_of_isSpaceOrTab)]

theorem isValueCharacter_of_isSpaceOrTab
    {character : Char}
    (spaceOrTab : isSpaceOrTab character = true) :
    isValueCharacter character = true := by
  simp only [isSpaceOrTab, Bool.or_eq_true, beq_iff_eq] at spaceOrTab
  rcases spaceOrTab with rfl | rfl <;> decide

/-- A reading of the pattern is a declaration at the start of a line. -/
theorem form_of_reading
    {start stop : Cursor}
    {captures : List Capture}
    (reading : (stop, captures) ∈ declarationPattern.readings start []) :
    start.startsLine = true ∧
      ∃ form : DeclarationForm, start.Passes form.text stop ∧
        ∀ first last, declaredParameter ⟨first, last, captures⟩ = form.parameter := by
  obtain ⟨startsLine, reading⟩ := Pattern.mem_readings_follow_lineStart.mp reading
  obtain ⟨indent, afterIndent, indentWithin, passesIndent, reading⟩ :=
    (ReadsWords.many _).mem_readings_follow.mp reading
  obtain ⟨qualifier, afterQualifier, qualifierKnown, passesQualifier, reading⟩ :=
    readsWords_qualifier.mem_readings_follow.mp reading
  obtain ⟨gap, afterGap, gapBlank, passesGap, reading⟩ :=
    readsWords_blanks.mem_readings_follow.mp reading
  obtain ⟨_, afterModifier, ⟨constGap, constGapBlank, rfl⟩, passesModifier, reading⟩ :=
    readsWords_modifier.mem_readings_follow.mp reading
  obtain ⟨type, afterType, typeIdentifier, passesType, reading⟩ :=
    readsWords_identifier.mem_readings_follow_group.mp reading
  obtain ⟨typeGap, afterTypeGap, typeGapBlank, passesTypeGap, reading⟩ :=
    readsWords_blanks.mem_readings_follow.mp reading
  obtain ⟨name, afterName, nameIdentifier, passesName, reading⟩ :=
    readsWords_identifier.mem_readings_follow_group.mp reading
  obtain ⟨nameGap, afterNameGap, nameGapBlank, passesNameGap, reading⟩ :=
    (ReadsWords.many _).mem_readings_follow.mp reading
  obtain ⟨_, afterEquals, rfl, passesEquals, reading⟩ :=
    (ReadsWords.word _).mem_readings_follow.mp reading
  obtain ⟨leading, afterLeading, leadingWithin, passesLeading, reading⟩ :=
    (ReadsWords.many _).mem_readings_follow.mp reading
  obtain ⟨value, afterValue, valueWithin, passesValue, reading⟩ :=
    (ReadsWords.few _).mem_readings_follow_group.mp reading
  obtain ⟨trailing, afterTrailing, trailingWithin, passesTrailing, reading⟩ :=
    (ReadsWords.many _).mem_readings_follow.mp reading
  obtain ⟨_, afterSemicolon, rfl, passesSemicolon, reading⟩ :=
    (ReadsWords.word _).mem_readings_follow.mp reading
  obtain ⟨⟨_, rfl, passesNothing⟩, rfl⟩ := (ReadsWords.word _).mem_readings.mp reading
  cases passesNothing
  have cutWithin : Within isValueCharacter (leading ++ value ++ trailing) := by
    simp [valueWithin, leadingWithin.mono isValueCharacter_of_isSpaceOrTab,
      trailingWithin.mono isValueCharacter_of_isSpaceOrTab]
  refine ⟨startsLine,
    ⟨indent, qualifier, gap, constGap, type, typeGap, name, nameGap, leading ++ value ++ trailing,
      indentWithin, qualifierKnown, gapBlank, constGapBlank, typeIdentifier, typeGapBlank,
      nameIdentifier, nameGapBlank, cutWithin⟩, ?_, fun first last => ?_⟩
  · have passesCut := (passesLeading.append passesValue).append passesTrailing
    exact ((((((((((passesIndent.append passesQualifier).append passesGap).append
      passesModifier).append passesType).append passesTypeGap).append passesName).append
      passesNameGap).append passesEquals).append passesCut).append passesSemicolon)
  · simp [declaredParameter, DeclarationForm.parameter, captured_cons,
      passesType.capture_text, passesName.capture_text, passesValue.capture_text,
      trimBlanks_cut leadingWithin trailingWithin]

/-- A declaration at the start of a line is read by the pattern. -/
theorem reading_of_form
    {start stop : Cursor}
    (startsLine : start.startsLine = true)
    {form : DeclarationForm}
    (passes : start.Passes form.text stop) :
    ∃ captures, (stop, captures) ∈ declarationPattern.readings start [] := by
  simp only [DeclarationForm.text, Cursor.Passes.append_iff] at passes
  obtain ⟨afterValue, ⟨afterEquals, ⟨_, ⟨afterName, ⟨afterTypeGap, ⟨afterType,
    ⟨afterModifier, ⟨_, ⟨_, ⟨_, passesIndent, passesQualifier⟩,
    passesGap⟩, passesModifier⟩, passesType⟩, passesTypeGap⟩, passesName⟩, passesNameGap⟩,
    passesEquals⟩, passesValue⟩, passesSemicolon⟩ := passes
  refine ⟨[⟨"value", afterEquals, afterValue⟩, ⟨"name", afterTypeGap, afterName⟩,
    ⟨"type", afterModifier, afterType⟩], ?_⟩
  refine Pattern.mem_readings_follow_lineStart.mpr ⟨startsLine, ?_⟩
  refine (ReadsWords.many _).mem_readings_follow.mpr
    ⟨_, _, form.indent_within, passesIndent, ?_⟩
  refine readsWords_qualifier.mem_readings_follow.mpr
    ⟨_, _, form.qualifier_known, passesQualifier, ?_⟩
  refine readsWords_blanks.mem_readings_follow.mpr
    ⟨_, _, form.gap_blank, passesGap, ?_⟩
  refine readsWords_modifier.mem_readings_follow.mpr
    ⟨_, _, ⟨_, form.constGap_blank, rfl⟩, passesModifier, ?_⟩
  refine readsWords_identifier.mem_readings_follow_group.mpr
    ⟨_, _, form.type_identifier, passesType, ?_⟩
  refine readsWords_blanks.mem_readings_follow.mpr
    ⟨_, _, form.typeGap_blank, passesTypeGap, ?_⟩
  refine readsWords_identifier.mem_readings_follow_group.mpr
    ⟨_, _, form.name_identifier, passesName, ?_⟩
  refine (ReadsWords.many _).mem_readings_follow.mpr
    ⟨_, _, form.nameGap_blank, passesNameGap, ?_⟩
  refine (ReadsWords.word _).mem_readings_follow.mpr
    ⟨_, _, rfl, passesEquals, ?_⟩
  -- The blanks around the value may count as part of it.
  refine (ReadsWords.many _).mem_readings_follow.mpr
    ⟨[], _, .nil, .nil _, ?_⟩
  refine (ReadsWords.few _).mem_readings_follow_group.mpr
    ⟨_, _, form.value_within, passesValue, ?_⟩
  refine (ReadsWords.many _).mem_readings_follow.mpr
    ⟨[], _, .nil, .nil _, ?_⟩
  refine (ReadsWords.word _).mem_readings_follow.mpr
    ⟨_, _, rfl, passesSemicolon, ?_⟩
  exact (ReadsWords.word _).mem_readings.mpr ⟨⟨[], rfl, .nil _⟩, rfl⟩

end ExpertAdvisor.Indicator

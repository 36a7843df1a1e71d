import ExpertAdvisor.Proofs.Indicator.Reading
import Mathlib.Data.List.Basic

namespace ExpertAdvisor.Indicator

open Text

/-!
# Extraction

The scan for declarations finds, in order, every declaration that begins at the
start of a line, because no declaration reaches over the start of another one.
The parameters of an indicator are these declarations without those that repeat
a name.
-/

/-- A declaration begins at an offset of a text, which is the start of a line. -/
structure DeclaredAt
    (text : List Char)
    (offset : Nat)
    (form : DeclarationForm) : Prop where
  startsLine : offset = 0 ∨ text[offset - 1]? = some '\n'
  isPrefix : form.text <+: text.drop offset

/-- Where a declaration reaches over the start of a line, no other declaration begins there. -/
theorem not_declared_within
    {form other : DeclarationForm}
    {before later : List Char}
    (isPrefix : form.text <+: before ++ '\n' :: later)
    (inside : before.length < form.text.length) :
    ¬ other.text <+: later := by
  rintro ⟨otherRest, onward⟩
  obtain ⟨rest, shape⟩ := isPrefix
  rcases occurs_in_part shape with ⟨behind, broken, laterShape⟩ | ⟨past, beforeShape, _⟩
  · rw [laterShape] at onward
    exact DeclarationForm.not_behind_break broken onward.symm
  · simp only [beforeShape, List.length_append] at inside
    omega

namespace DeclaredAt

variable {text : List Char} {offset laterOffset : Nat} {form other : DeclarationForm}

/-- At one offset, no more than one form is declared. -/
theorem unique
    (declared : DeclaredAt text offset form)
    (otherDeclared : DeclaredAt text offset other) :
    form = other := by
  obtain ⟨rest, shape⟩ := declared.isPrefix
  obtain ⟨otherRest, otherShape⟩ := otherDeclared.isPrefix
  exact (DeclarationForm.unique (shape.trans otherShape.symm)).1

/-- Declarations do not overlap. -/
theorem apart
    (declared : DeclaredAt text offset form)
    (otherDeclared : DeclaredAt text laterOffset other)
    (later : offset < laterOffset) :
    offset + form.text.length ≤ laterOffset := by
  by_contra overlapping
  have broken : text[laterOffset - 1]? = some '\n' := by
    rcases otherDeclared.startsLine with first | afterBreak
    · omega
    · exact afterBreak
  obtain ⟨within, isBreak⟩ := List.getElem?_eq_some_iff.mp broken
  -- The text from the first declaration on passes over the break before the second one.
  have shape :
      text.drop offset =
        (text.drop offset).take (laterOffset - 1 - offset) ++
          '\n' :: text.drop laterOffset := by
    have behindTaken :
        (text.drop offset).drop (laterOffset - 1 - offset) = '\n' :: text.drop laterOffset := by
      rw [List.drop_drop, show offset + (laterOffset - 1 - offset) = laterOffset - 1 by omega,
        List.drop_eq_getElem_cons within, isBreak,
        show laterOffset - 1 + 1 = laterOffset by omega]
    rw [← behindTaken, List.take_append_drop]
  refine not_declared_within (shape ▸ declared.isPrefix) ?_ otherDeclared.isPrefix
  rw [List.length_take]
  omega

end DeclaredAt

/-- What the pattern finds at a place is a declaration that begins there. -/
theorem form_of_match?
    {cursor : Cursor}
    {found : Match}
    (matched : declarationPattern.match? cursor = some found) :
    cursor.startsLine = true ∧
      ∃ form : DeclarationForm, form.text <+: cursor.rest ∧
        found.start = cursor.offset ∧ found.stop = cursor.offset + form.text.length ∧
        declaredParameter found = form.parameter := by
  obtain ⟨stop, captures, reading, rfl⟩ := Pattern.exists_reading_of_match? matched
  obtain ⟨startsLine, form, passes, parameterOf⟩ := form_of_reading reading
  exact ⟨startsLine, form, ⟨stop.rest, passes.rest_eq.symm⟩, rfl, passes.offset_eq,
    parameterOf _ _⟩

/-- A declaration that begins at the start of a line is found there. -/
theorem match?_of_form
    {cursor : Cursor}
    {form : DeclarationForm}
    (startsLine : cursor.startsLine = true)
    (isPrefix : form.text <+: cursor.rest) :
    ∃ found, declarationPattern.match? cursor = some found ∧
      found.start = cursor.offset ∧ found.stop = cursor.offset + form.text.length ∧
      declaredParameter found = form.parameter := by
  obtain ⟨rest, shape⟩ := isPrefix
  obtain ⟨captures, reading⟩ :=
    reading_of_form startsLine (Cursor.Passes.of_rest_eq shape.symm).1
  cases matched : declarationPattern.match? cursor with
  | none => exact absurd reading (Pattern.match?_eq_none_iff.mp matched _)
  | some found =>
      obtain ⟨_, other, ⟨otherRest, otherShape⟩, isStart, isStop, parameterOf⟩ :=
        form_of_match? matched
      obtain ⟨rfl, _⟩ := DeclarationForm.unique (shape.trans otherShape.symm)
      exact ⟨found, rfl, isStart, isStop, parameterOf⟩

/-- A declaration never reaches over a place where another one is found. -/
theorem declarationPattern_neverOverlaps : declarationPattern.NeverOverlaps := by
  intro start later character word found matched passes inside
  rw [Option.eq_none_iff_forall_ne_some]
  intro otherFound otherMatched
  obtain ⟨_, form, isPrefix, _, isStop, _⟩ := form_of_match? matched
  obtain ⟨laterStartsLine, other, otherIsPrefix, _⟩ := form_of_match? otherMatched
  obtain ⟨before, last, wordShape⟩ : ∃ before last, character :: word = before ++ [last] :=
    ⟨_, _, (List.dropLast_concat_getLast (List.cons_ne_nil character word)).symm⟩
  rw [wordShape] at passes
  have isBreak : last = '\n' := by
    simpa [Cursor.startsLine, passes.previous_eq] using laterStartsLine
  subst last
  rw [passes.rest_eq, List.append_assoc, List.singleton_append] at isPrefix
  refine not_declared_within isPrefix ?_ otherIsPrefix
  have advanced := passes.offset_eq
  rw [List.length_append, List.length_singleton] at advanced
  omega

/-- The declarations of a text are found by looking at every place. -/
theorem declarations_eq_filterMap (text : List Char) :
    declarations text =
      (Cursor.every text).filterMap fun cursor =>
        (declarationPattern.match? cursor).map declaredParameter := by
  rw [declarations, Pattern.scan_eq_filterMap declarationPattern_neverOverlaps,
    List.map_filterMap]

/-! The declarations of a text with their places. -/

/-- The declarations of a text, each with its offset, from left to right. -/
structure Layout
    (text : List Char)
    (declared : List (Nat × DeclarationForm)) : Prop where
  mem_iff : ∀ offset form, (offset, form) ∈ declared ↔ DeclaredAt text offset form
  apart :
    declared.Pairwise fun earlier later =>
      earlier.1 + earlier.2.text.length ≤ later.1

theorem offset_lt_of_isPrefix
    {text : List Char}
    {offset : Nat}
    {form : DeclarationForm}
    (isPrefix : form.text <+: text.drop offset) :
    offset < text.length := by
  by_contra outside
  rw [List.drop_eq_nil_of_le (Nat.le_of_not_lt outside), List.prefix_nil] at isPrefix
  exact absurd isPrefix (by simp [DeclarationForm.text])

/-- A line starts at the beginning and behind every line break. -/
theorem startsLine_atOffset
    {text : List Char}
    {offset : Nat}
    (inside : offset < text.length) :
    (Cursor.atOffset text offset).startsLine = true ↔
      offset = 0 ∨ text[offset - 1]? = some '\n' := by
  by_cases first : offset = 0
  · simp [Cursor.startsLine, Cursor.atOffset, first]
  · have before : text[offset - 1]? = some text[offset - 1] :=
      List.getElem?_eq_getElem (by omega)
    simp [Cursor.startsLine, Cursor.atOffset, first, before]

/-- What the pattern finds at an offset is the declaration that begins there. -/
theorem declaredAt_of_match?
    {text : List Char}
    {offset : Nat}
    {found : Match}
    (matched : declarationPattern.match? (.atOffset text offset) = some found) :
    ∃ form, DeclaredAt text offset form ∧
      found.start = offset ∧ found.stop = offset + form.text.length ∧
      declaredParameter found = form.parameter := by
  obtain ⟨startsLine, form, isPrefix, isStart, isStop, parameterOf⟩ := form_of_match? matched
  have inside := offset_lt_of_isPrefix isPrefix
  exact ⟨form, ⟨(startsLine_atOffset inside).mp startsLine, isPrefix⟩,
    isStart, isStop, parameterOf⟩

/-- At every offset there is either the declaration that the pattern finds, or none. -/
theorem exists_lookup
    (text : List Char)
    (offset : Nat) :
    ∃ form? : Option DeclarationForm,
      (∀ form, form? = some form ↔ DeclaredAt text offset form) ∧
      (declarationPattern.match? (.atOffset text offset)).map (fun found =>
          (found.start, found.stop, declaredParameter found)) =
        form?.map fun form => (offset, offset + form.text.length, form.parameter) := by
  cases matched : declarationPattern.match? (.atOffset text offset) with
  | none =>
      refine ⟨none, fun form => ⟨nofun, fun declared => ?_⟩, rfl⟩
      have inside := offset_lt_of_isPrefix declared.isPrefix
      obtain ⟨found, otherwise, _⟩ :=
        match?_of_form ((startsLine_atOffset inside).mpr declared.startsLine) declared.isPrefix
      exact absurd (matched.symm.trans otherwise) nofun
  | some found =>
      obtain ⟨form, declared, isStart, isStop, parameterOf⟩ := declaredAt_of_match? matched
      refine ⟨some form, fun other => ⟨fun same => ?_, fun otherDeclared => ?_⟩, ?_⟩
      · exact Option.some.inj same ▸ declared
      · rw [declared.unique otherDeclared]
      · simp only [Option.map_some, isStart, isStop, parameterOf]

/--
The scan finds the declarations of a text and nothing else, each one where it
begins and up to where it ends.
-/
theorem exists_layout (text : List Char) :
    ∃ declared, Layout text declared ∧
      (declarationPattern.scan text).map (fun found =>
          (found.start, found.stop, declaredParameter found)) =
        declared.map fun place =>
          (place.1, place.1 + place.2.text.length, place.2.parameter) := by
  choose form? form?_eq_some_iff found_eq using exists_lookup text
  let declared : List (Nat × DeclarationForm) :=
    (List.range (text.length + 1)).filterMap fun offset =>
      (form? offset).map fun form => (offset, form)
  have mem_iff (offset : Nat) (form : DeclarationForm) :
      (offset, form) ∈ declared ↔ DeclaredAt text offset form := by
    simp only [declared, List.mem_filterMap, List.mem_range, Option.map_eq_some_iff,
      Prod.mk.injEq, form?_eq_some_iff]
    constructor
    · rintro ⟨_, _, _, declaredThere, rfl, rfl⟩
      exact declaredThere
    · intro declaredThere
      have inside := offset_lt_of_isPrefix declaredThere.isPrefix
      exact ⟨offset, by omega, form, declaredThere, rfl, rfl⟩
  refine ⟨declared, ⟨mem_iff, ?_⟩, ?_⟩
  · rw [List.pairwise_filterMap]
    refine List.pairwise_lt_range.imp fun {offset laterOffset} later => ?_
    simp only [Option.map_eq_some_iff, form?_eq_some_iff]
    rintro _ ⟨form, declaredThere, rfl⟩ _ ⟨other, otherDeclared, rfl⟩
    exact declaredThere.apart otherDeclared later
  · rw [Pattern.scan_eq_filterMap declarationPattern_neverOverlaps, Cursor.every_eq_map_range,
      List.filterMap_map, List.map_filterMap, List.map_filterMap]
    refine List.filterMap_congr fun offset _ => ?_
    simp only [Function.comp_apply, found_eq, Option.map_map]
    rfl

/-! The first declaration of a name counts. -/

/-- The parameters whose name was neither seen before nor declared by an earlier one. -/
def firstOfEachName (seen : List String) : List Parameter → List Parameter
  | [] => []
  | parameter :: rest =>
      let later := firstOfEachName (parameter.name :: seen) rest
      if parameter.name ∈ seen then later else parameter :: later

/-- Sorting declarations keeps the first one of each name. -/
theorem parameters_ofDeclarations (declared : List Parameter) :
    (Extraction.ofDeclarations declared).parameters = firstOfEachName [] declared := by
  -- The names seen are those of the parameters kept so far.
  have extended
      (seen : List String)
      (extraction : Extraction)
      (isSeen : ∀ name, name ∈ seen ↔ name ∈ Parameter.names extraction.parameters) :
      (declared.foldl Extraction.extend extraction).parameters.reverse =
        extraction.parameters.reverse ++ firstOfEachName seen declared := by
    induction declared generalizing seen extraction with
    | nil => simp [firstOfEachName]
    | cons parameter rest inductionHypothesis =>
        have known :
            (extraction.parameters.any fun known => known.name == parameter.name) = true ↔
              parameter.name ∈ seen := by
          simp [isSeen, Parameter.names]
        rw [List.foldl_cons, firstOfEachName, Extraction.extend]
        by_cases repeats : parameter.name ∈ seen
        · rw [if_pos (known.mpr repeats), if_pos repeats]
          refine inductionHypothesis _ _ fun name => ?_
          rw [List.mem_cons, isSeen]
          exact or_iff_right_of_imp fun same => (isSeen name).mp (same ▸ repeats)
        · rw [if_neg (mt known.mp repeats), if_neg repeats,
            inductionHypothesis (parameter.name :: seen)]
          · simp
          · simp [isSeen, Parameter.names, eq_comm]
  exact extended [] ⟨[], []⟩ (by simp [Parameter.names])

/-- The parameters of an indicator, read off the declarations of its text without comments. -/
theorem parameters_eq (source : String) :
    parameters source = firstOfEachName [] (declarations (blankComments source.toList)) := by
  rw [parameters, extraction, parameters_ofDeclarations]

/-- The first of each name are a selection of what is declared. -/
theorem firstOfEachName_sublist
    (seen : List String)
    (declared : List Parameter) :
    (firstOfEachName seen declared).Sublist declared := by
  induction declared generalizing seen with
  | nil => exact List.Sublist.refl _
  | cons parameter rest inductionHypothesis =>
      rw [firstOfEachName]
      split
      · exact (inductionHypothesis _).cons _
      · exact (inductionHypothesis _).cons_cons _

/-- A name that was seen before is not among them. -/
theorem not_seen_of_mem_firstOfEachName
    {seen : List String}
    {declared : List Parameter}
    {parameter : Parameter}
    (member : parameter ∈ firstOfEachName seen declared) :
    parameter.name ∉ seen := by
  induction declared generalizing seen with
  | nil => exact absurd member List.not_mem_nil
  | cons first rest inductionHypothesis =>
      rw [firstOfEachName] at member
      split at member
      · exact fun isSeen => inductionHypothesis member (List.mem_cons_of_mem _ isSeen)
      · rcases List.mem_cons.mp member with rfl | later
        · assumption
        · exact fun isSeen => inductionHypothesis later (List.mem_cons_of_mem _ isSeen)

/-- The first of each name have different names. -/
theorem nodup_names_firstOfEachName
    (seen : List String)
    (declared : List Parameter) :
    (Parameter.names (firstOfEachName seen declared)).Nodup := by
  induction declared generalizing seen with
  | nil => exact List.nodup_nil
  | cons parameter rest inductionHypothesis =>
      rw [firstOfEachName]
      split
      · exact inductionHypothesis _
      · refine List.nodup_cons.mpr ⟨fun member => ?_, inductionHypothesis _⟩
        obtain ⟨later, isKept, sameName⟩ := List.mem_map.mp member
        exact not_seen_of_mem_firstOfEachName isKept (sameName ▸ List.mem_cons_self)

/-- The parameters of a source have different names. -/
theorem nodup_names_parameters (source : String) :
    (Parameter.names (parameters source)).Nodup := by
  rw [parameters_eq]
  exact nodup_names_firstOfEachName _ _

/-- Every parameter of an indicator was declared in its text without comments. -/
theorem exists_declaredAt_of_mem_parameters
    {source : String}
    {parameter : Parameter}
    (member : parameter ∈ parameters source) :
    ∃ offset form, DeclaredAt (blankComments source.toList) offset form ∧
      parameter = form.parameter := by
  rw [parameters_eq] at member
  have declared := (firstOfEachName_sublist _ _).subset member
  rw [declarations_eq_filterMap, Cursor.every_eq_map_range, List.mem_filterMap] at declared
  obtain ⟨cursor, isPlace, isFound⟩ := declared
  obtain ⟨offset, _, rfl⟩ := List.mem_map.mp isPlace
  obtain ⟨found, matched, rfl⟩ := Option.map_eq_some_iff.mp isFound
  obtain ⟨form, declaredThere, _, _, parameterOf⟩ := declaredAt_of_match? matched
  exact ⟨offset, form, declaredThere, parameterOf⟩

/-- Where no name is declared twice, every declaration counts. -/
theorem firstOfEachName_eq_self
    {seen : List String}
    {declared : List Parameter}
    (distinct : (Parameter.names declared).Nodup)
    (unseen : ∀ name ∈ Parameter.names declared, name ∉ seen) :
    firstOfEachName seen declared = declared := by
  induction declared generalizing seen with
  | nil => rfl
  | cons parameter rest inductionHypothesis =>
      obtain ⟨isNew, restDistinct⟩ := List.nodup_cons.mp distinct
      rw [firstOfEachName, if_neg (unseen _ List.mem_cons_self),
        inductionHypothesis restDistinct fun name member => ?_]
      rw [List.mem_cons, not_or]
      exact ⟨fun same => isNew (same ▸ member), unseen name (List.mem_cons_of_mem _ member)⟩

/-- Each name that was not seen before is kept once. -/
theorem mem_names_firstOfEachName
    {seen : List String}
    {declared : List Parameter}
    {name : String} :
    name ∈ Parameter.names (firstOfEachName seen declared) ↔
      name ∈ Parameter.names declared ∧ name ∉ seen := by
  constructor
  · intro member
    obtain ⟨parameter, isKept, rfl⟩ := List.mem_map.mp member
    exact ⟨List.mem_map_of_mem ((firstOfEachName_sublist seen declared).subset isKept),
      not_seen_of_mem_firstOfEachName isKept⟩
  · rintro ⟨member, unseen⟩
    induction declared generalizing seen with
    | nil => exact absurd member List.not_mem_nil
    | cons parameter rest inductionHypothesis =>
        rw [firstOfEachName]
        rcases List.mem_cons.mp member with rfl | later
        · rw [if_neg unseen]
          exact List.mem_cons_self
        · by_cases same : name = parameter.name
          · subst same
            rw [if_neg unseen]
            exact List.mem_cons_self
          · have stillUnseen : name ∉ parameter.name :: seen :=
              List.not_mem_cons_of_ne_of_not_mem same unseen
            have kept := inductionHypothesis later stillUnseen
            split
            · exact kept
            · exact List.mem_cons_of_mem _ kept

/-- Which names were seen matters, and not how often or in which order. -/
theorem firstOfEachName_congr
    {seen otherSeen : List String}
    (same : ∀ name, name ∈ seen ↔ name ∈ otherSeen)
    (declared : List Parameter) :
    firstOfEachName seen declared = firstOfEachName otherSeen declared := by
  induction declared generalizing seen otherSeen with
  | nil => rfl
  | cons parameter rest inductionHypothesis =>
      have sameLater :
          firstOfEachName (parameter.name :: seen) rest =
            firstOfEachName (parameter.name :: otherSeen) rest :=
        inductionHypothesis fun name => by rw [List.mem_cons, List.mem_cons, same]
      rw [firstOfEachName, firstOfEachName, sameLater]
      simp only [same]

/-- A declaration that repeats an earlier name can be left out. -/
theorem firstOfEachName_repeated
    {seen : List String}
    {first : List Parameter}
    {parameter : Parameter}
    (repeated : parameter.name ∈ seen ∨ parameter.name ∈ Parameter.names first)
    (later : List Parameter) :
    firstOfEachName seen (first ++ parameter :: later) = firstOfEachName seen (first ++ later) := by
  induction first generalizing seen with
  | nil =>
      have isSeen := repeated.resolve_right List.not_mem_nil
      rw [List.nil_append, List.nil_append, firstOfEachName, if_pos isSeen]
      refine firstOfEachName_congr (fun name => ?_) later
      rw [List.mem_cons]
      exact or_iff_right_of_imp fun isName => isName ▸ isSeen
  | cons known rest inductionHypothesis =>
      have repeatedLater : parameter.name ∈ known.name :: seen ∨
          parameter.name ∈ Parameter.names rest := by
        rw [Parameter.names, List.map_cons, List.mem_cons] at repeated
        rw [List.mem_cons]
        tauto
      rw [List.cons_append, List.cons_append, firstOfEachName, firstOfEachName,
        inductionHypothesis repeatedLater]

/--
The parameters of an indicator are read off the declarations of its text without
comments.  At the start of a line at most one declaration begins, and no
declaration reaches into the next one; the scan finds them all and nothing else,
and of the declarations of one name the first one counts.
-/
theorem parameters_eq_firstOfEachName_declared (source : String) :
    (∀ offset form other,
      DeclaredAt (blankComments source.toList) offset form →
      DeclaredAt (blankComments source.toList) offset other →
      form = other) ∧
    ∃ declared : List (Nat × DeclarationForm),
      (∀ offset form,
        (offset, form) ∈ declared ↔ DeclaredAt (blankComments source.toList) offset form) ∧
      (declared.Pairwise fun earlier later =>
        earlier.1 + earlier.2.text.length ≤ later.1) ∧
      (declarationPattern.scan (blankComments source.toList)).map (fun found =>
          (found.start, found.stop, declaredParameter found)) =
        declared.map (fun place =>
          (place.1, place.1 + place.2.text.length, place.2.parameter)) ∧
      parameters source =
        firstOfEachName [] (declared.map fun place => place.2.parameter) ∧
      (Parameter.names (parameters source)).Nodup := by
  refine ⟨fun _ _ _ declared otherDeclared => declared.unique otherDeclared, ?_⟩
  obtain ⟨declared, layout, found⟩ := exists_layout (blankComments source.toList)
  have read :
      declarations (blankComments source.toList) =
        declared.map fun place => place.2.parameter := by
    simpa [declarations, List.map_map, Function.comp_def] using
      congrArg (List.map fun place => place.2.2) found
  refine ⟨declared, layout.mem_iff, layout.apart, found, ?_, nodup_names_parameters source⟩
  rw [parameters_eq, read]

end ExpertAdvisor.Indicator

import ExpertAdvisor.Proofs.Text.Classes
import ExpertAdvisor.Text.Pattern

namespace ExpertAdvisor.Text

/-!
# What patterns read

The readings of a pattern at a place are all ways to read it there, the
preferred ones first.  Running a pattern takes the first reading behind which
the rest can be read, so a run fails exactly when there is no such reading.
-/

/-- A word is passed over on the way from one place to another. -/
inductive Cursor.Passes : Cursor → List Char → Cursor → Prop where
  | nil (cursor : Cursor) :
      Passes cursor [] cursor
  | cons
      {offset : Nat}
      {previous : Option Char}
      {character : Char}
      {rest word : List Char}
      {stop : Cursor} :
      Passes ⟨offset + 1, some character, rest⟩ word stop →
      Passes ⟨offset, previous, character :: rest⟩ (character :: word) stop

namespace Cursor.Passes

/-- What a cursor passes stands in front of it. -/
theorem rest_eq
    {start stop : Cursor}
    {word : List Char}
    (passes : start.Passes word stop) :
    start.rest = word ++ stop.rest := by
  induction passes with
  | nil => rfl
  | cons _ inductionHypothesis =>
      simpa using inductionHypothesis

theorem offset_eq
    {start stop : Cursor}
    {word : List Char}
    (passes : start.Passes word stop) :
    stop.offset = start.offset + word.length := by
  induction passes with
  | nil => rfl
  | cons _ inductionHypothesis =>
      simp only [List.length_cons] at inductionHypothesis ⊢
      omega

/-- A word in front of the rest of a text can be passed over. -/
theorem of_rest_eq
    {start : Cursor}
    {word rest : List Char}
    (restShape : start.rest = word ++ rest) :
    start.Passes word (start.after word) ∧ (start.after word).rest = rest := by
  induction word generalizing start with
  | nil =>
      exact ⟨nil start, restShape⟩
  | cons character more inductionHypothesis =>
      obtain ⟨offset, previous, startRest⟩ := start
      cases restShape
      have following := @inductionHypothesis ⟨offset + 1, some character, more ++ rest⟩ rfl
      exact ⟨.cons following.1, following.2⟩

/-- A word leads a cursor to one place only. -/
theorem stop_eq
    {start stop : Cursor}
    {word : List Char}
    (passes : start.Passes word stop) :
    stop = start.after word := by
  induction passes with
  | nil => rfl
  | cons _ inductionHypothesis => exact inductionHypothesis

/-- Words are passed one after the other. -/
theorem append
    {start middle stop : Cursor}
    {first second : List Char}
    (passesFirst : start.Passes first middle)
    (passesSecond : middle.Passes second stop) :
    start.Passes (first ++ second) stop := by
  induction passesFirst with
  | nil => exact passesSecond
  | cons _ inductionHypothesis =>
      exact .cons (inductionHypothesis passesSecond)

/-- Words put together are passed by way of a place between them. -/
theorem append_iff
    {start stop : Cursor}
    {first second : List Char} :
    start.Passes (first ++ second) stop ↔
      ∃ middle, start.Passes first middle ∧ middle.Passes second stop := by
  constructor
  · intro passes
    induction first generalizing start with
    | nil => exact ⟨start, .nil start, passes⟩
    | cons character more inductionHypothesis =>
        cases passes with
        | cons following =>
            obtain ⟨middle, passesMore, passesSecond⟩ := inductionHypothesis following
            exact ⟨middle, .cons passesMore, passesSecond⟩
  · rintro ⟨middle, passesFirst, passesSecond⟩
    exact passesFirst.append passesSecond

/-- Behind a word whose last character is known that character comes before. -/
theorem previous_eq
    {start stop : Cursor}
    {word : List Char}
    {last : Char}
    (passes : start.Passes (word ++ [last]) stop) :
    stop.previous = some last := by
  obtain ⟨_, _, passesLast⟩ := append_iff.mp passes
  cases passesLast with
  | cons nothing =>
      cases nothing
      rfl

/-- The text captured between two places is the word passed over between them. -/
theorem capture_text
    {start stop : Cursor}
    {word : List Char}
    (passes : start.Passes word stop)
    (name : String) :
    (Capture.mk name start stop).text = word := by
  simp only [Capture.text, passes.offset_eq, passes.rest_eq,
    Nat.add_sub_cancel_left, List.take_left]

end Cursor.Passes

namespace Cursor

/-- The places within a run are those found before and those behind its leading parts. -/
theorem mem_alongFrom
    {belongs : Char → Bool}
    {found : List Cursor}
    {offset : Nat}
    {previous : Option Char}
    {rest : List Char}
    {stop : Cursor} :
    stop ∈ alongFrom belongs found offset previous rest ↔
      stop ∈ found ∨
        ∃ word, Within belongs word ∧ Passes ⟨offset, previous, rest⟩ word stop := by
  induction rest generalizing found offset previous with
  | nil =>
      simp only [alongFrom, List.mem_cons]
      constructor
      · rintro (rfl | member)
        · exact .inr ⟨[], by simp [Within], .nil _⟩
        · exact .inl member
      · rintro (member | ⟨word, _, passes⟩)
        · exact .inr member
        · cases passes
          exact .inl rfl
  | cons character rest inductionHypothesis =>
      by_cases firstBelongs : belongs character = true
      · simp only [alongFrom, firstBelongs, ↓reduceIte, inductionHypothesis, List.mem_cons]
        constructor
        · rintro ((rfl | member) | ⟨word, within, passes⟩)
          · exact .inr ⟨[], by simp [Within], .nil _⟩
          · exact .inl member
          · refine .inr ⟨character :: word, ?_, .cons passes⟩
            simpa [Within, firstBelongs] using within
        · rintro (member | ⟨word, within, passes⟩)
          · exact .inl (.inr member)
          · cases passes with
            | nil => exact .inl (.inl rfl)
            | cons following =>
                refine .inr ⟨_, ?_, following⟩
                exact fun next member => within next (List.mem_cons_of_mem _ member)
      · simp only [alongFrom, firstBelongs, Bool.false_eq_true, ↓reduceIte, List.mem_cons]
        constructor
        · rintro (rfl | member)
          · exact .inr ⟨[], by simp [Within], .nil _⟩
          · exact .inl member
        · rintro (member | ⟨word, within, passes⟩)
          · exact .inr member
          · cases passes with
            | nil => exact .inl rfl
            | cons _ => exact absurd (within _ List.mem_cons_self) firstBelongs

/-- Characters of a class lead exactly to the places behind words of that class. -/
theorem mem_along
    {belongs : Char → Bool}
    {start stop : Cursor} :
    stop ∈ start.along belongs ↔
      ∃ word, Within belongs word ∧ start.Passes word stop := by
  simp [along, mem_alongFrom]

end Cursor

namespace Pattern

/-- All ways to read a pattern at a place, the preferred ones first. -/
def readings :
    Pattern → Cursor → List Capture → List (Cursor × List Capture)
  | .lineStart, cursor, captures =>
      if cursor.startsLine then [(cursor, captures)] else []
  | .word characters, cursor, captures =>
      if beginsWith characters cursor.rest then [(cursor.after characters, captures)] else []
  | .one belongs, cursor, captures =>
      match cursor.rest with
      | [] => []
      | character :: _ => if belongs character then [(cursor.after [character], captures)] else []
  | .many belongs, cursor, captures =>
      (cursor.along belongs).map fun stop => (stop, captures)
  | .few belongs, cursor, captures =>
      (cursor.along belongs).reverse.map fun stop => (stop, captures)
  | .maybe inner, cursor, captures =>
      readings inner cursor captures ++ [(cursor, captures)]
  | .either first second, cursor, captures =>
      readings first cursor captures ++ readings second cursor captures
  | .follow first second, cursor, captures =>
      (readings first cursor captures).flatMap fun reading => readings second reading.1 reading.2
  | .group name inner, cursor, captures =>
      (readings inner cursor captures).map fun reading =>
        (reading.1, ⟨name, cursor, reading.1⟩ :: reading.2)

/-- A run takes the first reading behind which the rest can be read. -/
theorem run_eq_findSome?
    (pattern : Pattern)
    (goOn : Cursor → List Capture → Option α)
    (cursor : Cursor)
    (captures : List Capture) :
    pattern.run goOn cursor captures =
      (pattern.readings cursor captures).findSome? fun reading => goOn reading.1 reading.2 := by
  induction pattern generalizing goOn cursor captures with
  | lineStart =>
      simp only [run, readings]
      split <;> simp
  | word characters =>
      simp only [run, readings]
      split <;> simp
  | one belongs =>
      cases restShape : cursor.rest with
      | nil => simp [run, readings, restShape]
      | cons character rest =>
          simp only [run, readings, restShape]
          split <;> simp
  | many belongs =>
      simp only [run, readings, List.findSome?_map]
      rfl
  | few belongs =>
      simp only [run, readings, List.findSome?_map]
      rfl
  | maybe inner inductionHypothesis =>
      simp [run, readings, inductionHypothesis, List.findSome?_append]
  | either first second firstHypothesis secondHypothesis =>
      simp [run, readings, firstHypothesis, secondHypothesis, List.findSome?_append]
  | follow first second firstHypothesis secondHypothesis =>
      simp only [run, readings, firstHypothesis, secondHypothesis]
      induction first.readings cursor captures with
      | nil => rfl
      | cons reading more moreHypothesis =>
          rw [List.findSome?_cons, moreHypothesis, List.flatMap_cons, List.findSome?_append]
          cases (second.readings reading.1 reading.2).findSome? fun next => goOn next.1 next.2 with
          | none => rfl
          | some result => rfl
  | group name inner inductionHypothesis =>
      simp only [run, readings, inductionHypothesis, List.findSome?_map]
      rfl

/-- A pattern captures nothing and reads exactly the words of a language. -/
structure ReadsWords
    (pattern : Pattern)
    (language : List Char → Prop) : Prop where
  mem_readings :
    ∀ {start stop : Cursor} {captures kept : List Capture},
      (stop, kept) ∈ pattern.readings start captures ↔
        (∃ word, language word ∧ start.Passes word stop) ∧ kept = captures

namespace ReadsWords

theorem word (characters : List Char) :
    (word characters).ReadsWords (· = characters) := by
  refine ⟨fun {start stop captures kept} => ?_⟩
  have standsInFront :
      beginsWith characters start.rest = true ↔ ∃ rest, start.rest = characters ++ rest := by
    simp [beginsWith, Option.isSome_iff_exists, afterPrefix?_eq_some_iff]
  simp only [readings]
  constructor
  · intro member
    split at member
    case isTrue inFront =>
      obtain ⟨rest, restShape⟩ := standsInFront.mp inFront
      simp only [List.mem_singleton, Prod.mk.injEq] at member
      obtain ⟨rfl, rfl⟩ := member
      exact ⟨⟨characters, rfl, (Cursor.Passes.of_rest_eq restShape).1⟩, rfl⟩
    case isFalse => simp at member
  · rintro ⟨⟨_, rfl, passes⟩, rfl⟩
    rw [if_pos (standsInFront.mpr ⟨stop.rest, passes.rest_eq⟩), passes.stop_eq]
    exact List.mem_singleton_self _

theorem one (belongs : Char → Bool) :
    (one belongs).ReadsWords fun word =>
      ∃ character, word = [character] ∧ belongs character = true := by
  refine ⟨fun {start stop captures kept} => ?_⟩
  obtain ⟨offset, previous, rest⟩ := start
  cases rest with
  | nil =>
      simp only [readings, List.not_mem_nil, false_iff]
      rintro ⟨⟨_, ⟨character, rfl, _⟩, passes⟩, _⟩
      cases passes
  | cons next rest =>
      simp only [readings]
      constructor
      · intro member
        split at member
        case isTrue nextBelongs =>
          simp only [List.mem_singleton, Prod.mk.injEq] at member
          obtain ⟨rfl, rfl⟩ := member
          exact ⟨⟨[next], ⟨next, rfl, nextBelongs⟩, .cons (.nil _)⟩, rfl⟩
        case isFalse => simp at member
      · rintro ⟨⟨_, ⟨character, rfl, characterBelongs⟩, passes⟩, rfl⟩
        cases passes with
        | cons nothing =>
            cases nothing
            simp [characterBelongs, Cursor.after]

/-- Every word of a class in front of the rest is read, the longest first. -/
theorem many (belongs : Char → Bool) :
    (many belongs).ReadsWords (Within belongs) := by
  refine ⟨fun {start stop captures kept} => ?_⟩
  simp only [readings, List.mem_map, Cursor.mem_along, Prod.mk.injEq]
  constructor
  · rintro ⟨_, reached, rfl, rfl⟩
    exact ⟨reached, rfl⟩
  · rintro ⟨reached, rfl⟩
    exact ⟨stop, reached, rfl, rfl⟩

/-- Every word of a class in front of the rest is read, the shortest first. -/
theorem few (belongs : Char → Bool) :
    (few belongs).ReadsWords (Within belongs) := by
  refine ⟨fun {start stop captures kept} => ?_⟩
  rw [← (many belongs).mem_readings]
  simp only [readings, List.mem_map, List.mem_reverse]

/-- A pattern that may be left out reads its words, or nothing. -/
theorem maybe
    {inner : Pattern}
    {language : List Char → Prop}
    (reads : inner.ReadsWords language) :
    (maybe inner).ReadsWords fun word => language word ∨ word = [] := by
  refine ⟨fun {start stop captures kept} => ?_⟩
  simp only [readings, List.mem_append, List.mem_singleton, Prod.mk.injEq, reads.mem_readings]
  constructor
  · rintro (⟨⟨word, inLanguage, passes⟩, rfl⟩ | ⟨rfl, rfl⟩)
    · exact ⟨⟨word, .inl inLanguage, passes⟩, rfl⟩
    · exact ⟨⟨[], .inr rfl, .nil _⟩, rfl⟩
  · rintro ⟨⟨word, inLanguage | rfl, passes⟩, rfl⟩
    · exact .inl ⟨⟨word, inLanguage, passes⟩, rfl⟩
    · cases passes
      exact .inr ⟨rfl, rfl⟩

theorem either
    {first second : Pattern}
    {firstLanguage secondLanguage : List Char → Prop}
    (firstReads : first.ReadsWords firstLanguage)
    (secondReads : second.ReadsWords secondLanguage) :
    (either first second).ReadsWords fun word => firstLanguage word ∨ secondLanguage word := by
  refine ⟨fun {start stop captures kept} => ?_⟩
  simp only [readings, List.mem_append, firstReads.mem_readings, secondReads.mem_readings]
  constructor
  · rintro (⟨⟨word, inLanguage, passes⟩, rfl⟩ | ⟨⟨word, inLanguage, passes⟩, rfl⟩)
    · exact ⟨⟨word, .inl inLanguage, passes⟩, rfl⟩
    · exact ⟨⟨word, .inr inLanguage, passes⟩, rfl⟩
  · rintro ⟨⟨word, inLanguage | inLanguage, passes⟩, rfl⟩
    · exact .inl ⟨⟨word, inLanguage, passes⟩, rfl⟩
    · exact .inr ⟨⟨word, inLanguage, passes⟩, rfl⟩

/-- What comes next is read behind a word of the first pattern's language. -/
theorem mem_readings_follow
    {first second : Pattern}
    {language : List Char → Prop}
    (reads : first.ReadsWords language)
    {start stop : Cursor}
    {captures kept : List Capture} :
    (stop, kept) ∈ (follow first second).readings start captures ↔
      ∃ word middle, language word ∧ start.Passes word middle ∧
        (stop, kept) ∈ second.readings middle captures := by
  simp only [readings, List.mem_flatMap, Prod.exists, reads.mem_readings]
  constructor
  · rintro ⟨middle, _, ⟨⟨word, inLanguage, passes⟩, rfl⟩, onward⟩
    exact ⟨word, middle, inLanguage, passes, onward⟩
  · rintro ⟨word, middle, inLanguage, passes, onward⟩
    exact ⟨middle, captures, ⟨⟨word, inLanguage, passes⟩, rfl⟩, onward⟩

/-- What comes next is read behind a captured word of the first pattern's language. -/
theorem mem_readings_follow_group
    {name : String}
    {first second : Pattern}
    {language : List Char → Prop}
    (reads : first.ReadsWords language)
    {start stop : Cursor}
    {captures kept : List Capture} :
    (stop, kept) ∈ (follow (group name first) second).readings start captures ↔
      ∃ word middle, language word ∧ start.Passes word middle ∧
        (stop, kept) ∈ second.readings middle (⟨name, start, middle⟩ :: captures) := by
  simp only [readings, List.mem_flatMap, List.mem_map, Prod.exists, Prod.mk.injEq,
    reads.mem_readings]
  constructor
  · rintro ⟨middle, _, ⟨_, _, ⟨⟨word, inLanguage, passes⟩, rfl⟩, rfl, rfl⟩, onward⟩
    exact ⟨word, _, inLanguage, passes, onward⟩
  · rintro ⟨word, middle, inLanguage, passes, onward⟩
    exact ⟨middle, _, ⟨middle, captures, ⟨⟨word, inLanguage, passes⟩, rfl⟩, rfl, rfl⟩, onward⟩

/-- Patterns one after the other read words one after the other. -/
theorem follow
    {first second : Pattern}
    {firstLanguage secondLanguage : List Char → Prop}
    (firstReads : first.ReadsWords firstLanguage)
    (secondReads : second.ReadsWords secondLanguage) :
    (follow first second).ReadsWords fun word =>
      ∃ firstWord secondWord, word = firstWord ++ secondWord ∧
        firstLanguage firstWord ∧ secondLanguage secondWord := by
  refine ⟨fun {start stop captures kept} => ?_⟩
  simp only [mem_readings_follow firstReads, secondReads.mem_readings]
  constructor
  · rintro ⟨firstWord, middle, inFirst, passesFirst, ⟨secondWord, inSecond, passesSecond⟩, rfl⟩
    exact ⟨⟨_, ⟨firstWord, secondWord, rfl, inFirst, inSecond⟩,
      passesFirst.append passesSecond⟩, rfl⟩
  · rintro ⟨⟨_, ⟨firstWord, secondWord, rfl, inFirst, inSecond⟩, passes⟩, rfl⟩
    obtain ⟨middle, passesFirst, passesSecond⟩ := Cursor.Passes.append_iff.mp passes
    exact ⟨firstWord, middle, inFirst, passesFirst, ⟨secondWord, inSecond, passesSecond⟩, rfl⟩

/-- The words that a pattern reads may be described otherwise. -/
theorem of_iff
    {pattern : Pattern}
    {language described : List Char → Prop}
    (reads : pattern.ReadsWords language)
    (same : ∀ word, language word ↔ described word) :
    pattern.ReadsWords described := by
  refine ⟨fun {start stop captures kept} => ?_⟩
  simp only [reads.mem_readings, same]

end ReadsWords

/-- At the start of a line what comes next is read from there. -/
theorem mem_readings_follow_lineStart
    {second : Pattern}
    {start stop : Cursor}
    {captures kept : List Capture} :
    (stop, kept) ∈ (follow lineStart second).readings start captures ↔
      start.startsLine = true ∧ (stop, kept) ∈ second.readings start captures := by
  simp only [readings]
  split <;> simp_all

/-- The piece found at a place is the preferred reading there. -/
theorem match?_eq_head?
    (pattern : Pattern)
    (cursor : Cursor) :
    pattern.match? cursor =
      (pattern.readings cursor []).head?.map fun reading =>
        ⟨cursor.offset, reading.1.offset, reading.2⟩ := by
  rw [match?, run_eq_findSome?]
  cases pattern.readings cursor [] <;> rfl

/-- A pattern matches nowhere exactly where it has no reading. -/
theorem match?_eq_none_iff
    {pattern : Pattern}
    {cursor : Cursor} :
    pattern.match? cursor = none ↔ ∀ reading, reading ∉ pattern.readings cursor [] := by
  rw [match?_eq_head?, Option.map_eq_none_iff, List.head?_eq_none_iff,
    List.eq_nil_iff_forall_not_mem]

/-- What is matched is a reading of the pattern. -/
theorem exists_reading_of_match?
    {pattern : Pattern}
    {cursor : Cursor}
    {found : Match}
    (matched : pattern.match? cursor = some found) :
    ∃ stop captures, (stop, captures) ∈ pattern.readings cursor [] ∧
      found = ⟨cursor.offset, stop.offset, captures⟩ := by
  rw [match?_eq_head?, Option.map_eq_some_iff] at matched
  obtain ⟨⟨stop, captures⟩, isHead, rfl⟩ := matched
  exact ⟨stop, captures, List.mem_of_mem_head? isHead, rfl⟩

end Pattern

namespace Cursor

/-- Every place in the rest of a text, its end included. -/
def everyFrom
    (offset : Nat)
    (previous : Option Char) :
    List Char → List Cursor
  | [] => [⟨offset, previous, []⟩]
  | character :: rest =>
      ⟨offset, previous, character :: rest⟩ :: everyFrom (offset + 1) (some character) rest

/-- Every place in a text. -/
def every (text : List Char) : List Cursor :=
  everyFrom 0 none text

/-- The place at an offset of a text. -/
def atOffset
    (text : List Char)
    (offset : Nat) : Cursor where
  offset := offset
  previous := if offset = 0 then none else text[offset - 1]?
  rest := text.drop offset

/-- Every place in a text is the place at one of its offsets. -/
theorem every_eq_map_range (text : List Char) :
    every text = (List.range (text.length + 1)).map (atOffset text) := by
  have shifted (offset : Nat) (previous : Option Char) (rest : List Char) :
      everyFrom offset previous rest =
        (List.range (rest.length + 1)).map fun further =>
          ⟨offset + further, if further = 0 then previous else rest[further - 1]?,
            rest.drop further⟩ := by
    induction rest generalizing offset previous with
    | nil => rfl
    | cons character rest inductionHypothesis =>
        rw [everyFrom, inductionHypothesis, List.length_cons,
          @List.range_succ_eq_map (rest.length + 1), List.map_cons, List.map_map]
        refine congrArg₂ List.cons rfl (List.map_congr_left fun further _ => ?_)
        cases further <;> simp [Nat.add_assoc, Nat.add_comm 1]
  rw [every, shifted]
  exact List.map_congr_left fun offset _ => by simp [atOffset]

end Cursor

namespace Pattern

/-- The pieces that a pattern finds never reach over a place where it finds another one. -/
def NeverOverlaps (pattern : Pattern) : Prop :=
  ∀ {start later : Cursor} {character : Char} {word : List Char} {found : Match},
    pattern.match? start = some found →
    start.Passes (character :: word) later →
    later.offset < found.stop →
    pattern.match? later = none

/--
A scan that resumes where nothing is found before the offset up to which the
text is taken finds what is found by looking at every place.
-/
theorem scanFrom_eq_filterMap
    {pattern : Pattern}
    (apart : pattern.NeverOverlaps)
    {taken offset : Nat}
    {previous : Option Char}
    {rest : List Char}
    (nothingTaken :
      ∀ {word : List Char} {later : Cursor},
        Cursor.Passes ⟨offset, previous, rest⟩ word later →
        later.offset < taken →
        pattern.match? later = none) :
    pattern.scanFrom taken offset previous rest =
      (Cursor.everyFrom offset previous rest).filterMap pattern.match? := by
  induction rest generalizing taken offset previous with
  | nil =>
      rw [scanFrom, Cursor.everyFrom]
      cases matched : pattern.match? ⟨offset, previous, []⟩ <;> simp [matched]
  | cons character rest inductionHypothesis =>
      rw [scanFrom, Cursor.everyFrom, List.filterMap_cons]
      by_cases isTaken : offset < taken
      · rw [if_pos isTaken, nothingTaken (.nil _) isTaken]
        exact inductionHypothesis fun passes => nothingTaken (.cons passes)
      · rw [if_neg isTaken]
        cases matched : pattern.match? ⟨offset, previous, character :: rest⟩ with
        | none =>
            refine inductionHypothesis fun passes before => ?_
            have advanced := passes.offset_eq
            simp only at advanced
            omega
        | some found =>
            exact congrArg (List.cons found)
              (inductionHypothesis fun passes => apart matched (.cons passes))

/-- A scan for pieces that never overlap finds what is found by looking at every place. -/
theorem scan_eq_filterMap
    {pattern : Pattern}
    (apart : pattern.NeverOverlaps)
    (text : List Char) :
    pattern.scan text = (Cursor.every text).filterMap pattern.match? :=
  scanFrom_eq_filterMap apart fun _ before => absurd before (Nat.not_lt_zero _)

end Pattern

end ExpertAdvisor.Text

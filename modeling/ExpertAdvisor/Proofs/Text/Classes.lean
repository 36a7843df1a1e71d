import ExpertAdvisor.Text.Alphanumeric
import ExpertAdvisor.Text.Blank
import Mathlib.Data.List.TakeWhile

namespace ExpertAdvisor.Text

/-!
# Runs of a character class

A text that begins with a run of a class can be split behind the run in one way
only.  Blanks and word characters are apart, so words and the blanks between
them are such runs.  Trimming depends only on what stands between the blanks.
-/

/-- A word consists of characters of a class. -/
def Within (belongs : Char → Bool) (word : List Char) : Prop :=
  ∀ character ∈ word, belongs character = true

/-- Whether a word stays within a class can be decided. -/
instance (belongs : Char → Bool) (word : List Char) : Decidable (Within belongs word) :=
  List.decidableBAll (fun character => belongs character = true) word

/-- A text does not go on with a character of a class. -/
def Leaves (belongs : Char → Bool) (text : List Char) : Prop :=
  ∀ character ∈ text.head?, belongs character = false

namespace Within

variable {belongs : Char → Bool} {first second : List Char} {character : Char}

@[simp]
theorem nil : Within belongs [] := by
  simp [Within]

@[simp]
theorem cons_iff :
    Within belongs (character :: first) ↔
      belongs character = true ∧ Within belongs first := by
  simp [Within]

@[simp]
theorem append_iff :
    Within belongs (first ++ second) ↔ Within belongs first ∧ Within belongs second := by
  simp [Within, or_imp, forall_and]

theorem mono
    {wider : Char → Bool}
    (within : Within belongs first)
    (widens : ∀ {character}, belongs character = true → wider character = true) :
    Within wider first :=
  fun character member => widens (within character member)

theorem not_mem
    (within : Within belongs first)
    (outside : belongs character = false) :
    character ∉ first := by
  intro member
  rw [within character member] at outside
  exact Bool.noConfusion outside

end Within

namespace Leaves

variable {belongs : Char → Bool} {character : Char} {rest : List Char}

@[simp]
theorem nil : Leaves belongs [] := by
  simp [Leaves]

@[simp]
theorem cons_iff : Leaves belongs (character :: rest) ↔ belongs character = false := by
  simp [Leaves]

end Leaves

/-- Two ways to split a text behind a run of one class are the same. -/
theorem run_unique
    {belongs : Char → Bool}
    {first second firstRest secondRest : List Char}
    (same : first ++ firstRest = second ++ secondRest)
    (firstWithin : Within belongs first)
    (secondWithin : Within belongs second)
    (firstLeaves : Leaves belongs firstRest)
    (secondLeaves : Leaves belongs secondRest) :
    first = second ∧ firstRest = secondRest := by
  induction first generalizing second with
  | nil =>
      cases second with
      | nil => exact ⟨rfl, same⟩
      | cons character more =>
          rw [List.nil_append] at same
          subst firstRest
          rw [List.cons_append, Leaves.cons_iff, (Within.cons_iff.mp secondWithin).1] at firstLeaves
          exact Bool.noConfusion firstLeaves
  | cons character more inductionHypothesis =>
      cases second with
      | nil =>
          rw [List.nil_append] at same
          subst secondRest
          rw [List.cons_append, Leaves.cons_iff, (Within.cons_iff.mp firstWithin).1] at secondLeaves
          exact Bool.noConfusion secondLeaves
      | cons otherCharacter otherMore =>
          rw [List.cons_append, List.cons_append, List.cons.injEq] at same
          obtain ⟨rfl, sameMore⟩ := same
          obtain ⟨rfl, sameRest⟩ :=
            inductionHypothesis sameMore (Within.cons_iff.mp firstWithin).2
              (Within.cons_iff.mp secondWithin).2
          exact ⟨rfl, sameRest⟩

/-- A character that occurs in a text of two parts occurs in one of the parts. -/
theorem occurs_in_part
    {character : Char}
    {first second before behind : List Char}
    (occurs : first ++ second = before ++ character :: behind) :
    (∃ rest, first = before ++ character :: rest ∧ behind = rest ++ second) ∨
      ∃ past, before = first ++ past ∧ second = past ++ character :: behind := by
  induction first generalizing before with
  | nil => exact .inr ⟨before, rfl, occurs⟩
  | cons firstCharacter more inductionHypothesis =>
      cases before with
      | nil =>
          rw [List.nil_append, List.cons_append, List.cons.injEq] at occurs
          exact .inl ⟨more, by rw [occurs.1, List.nil_append], occurs.2.symm⟩
      | cons beforeCharacter beforeMore =>
          rw [List.cons_append, List.cons_append, List.cons.injEq] at occurs
          obtain ⟨rfl, onward⟩ := occurs
          rcases inductionHypothesis onward with
              ⟨rest, moreShape, behindShape⟩ | ⟨past, beforeShape, secondShape⟩
          · exact .inl ⟨rest, by rw [moreShape, List.cons_append], behindShape⟩
          · exact .inr ⟨past, by rw [beforeShape, List.cons_append], secondShape⟩

/-- A character that does not occur in the first of two parts occurs in the second. -/
theorem occurs_behind
    {character : Char}
    {first second before behind : List Char}
    (occurs : first ++ second = before ++ character :: behind)
    (absent : character ∉ first) :
    ∃ past, before = first ++ past ∧ second = past ++ character :: behind := by
  rcases occurs_in_part occurs with ⟨rest, firstShape, _⟩ | inSecond
  · exact absurd (by simp [firstShape]) absent
  · exact inSecond

/-- The code points of the blanks. -/
def blankCodePoints : List Nat := [
  0x09, 0x0A, 0x0B, 0x0C, 0x0D, 0x1C, 0x1D, 0x1E, 0x1F, 0x20, 0x85, 0xA0, 0x1680,
  0x2000, 0x2001, 0x2002, 0x2003, 0x2004, 0x2005, 0x2006, 0x2007, 0x2008, 0x2009, 0x200A,
  0x2028, 0x2029, 0x202F, 0x205F, 0x3000]

/-- Every blank is listed. -/
theorem mem_blankCodePoints_of_isBlank
    {character : Char}
    (blank : isBlank character = true) :
    character.toNat ∈ blankCodePoints := by
  simp only [isBlank, isWhiteSpace, isPlainBlank, isForeignBlank, Bool.or_eq_true,
    Bool.and_eq_true, decide_eq_true_eq, beq_iff_eq] at blank
  simp only [blankCodePoints, List.mem_cons, List.not_mem_nil, or_false]
  omega

theorem isWord_of_mem_blankCodePoints :
    ∀ codePoint ∈ blankCodePoints, isWord (Char.ofNat codePoint) = false := by
  decide +kernel

/-- No blank stands in a word. -/
theorem isWord_eq_false_of_isBlank
    {character : Char}
    (blank : isBlank character = true) :
    isWord character = false := by
  have excluded :=
    isWord_of_mem_blankCodePoints _ (mem_blankCodePoints_of_isBlank blank)
  rwa [Char.ofNat_toNat] at excluded

/-- No character is both a blank and a character of a word. -/
theorem not_isWord_of_isBlank
    {character : Char}
    (blank : isBlank character = true) :
    ¬ isWord character = true := by
  rw [isWord_eq_false_of_isBlank blank]
  exact Bool.false_ne_true

theorem isBlank_eq_false_of_isWord
    {character : Char}
    (word : isWord character = true) :
    isBlank character = false := by
  by_contra blank
  rw [Bool.not_eq_false] at blank
  rw [isWord_eq_false_of_isBlank blank] at word
  exact Bool.noConfusion word

section Trimming

variable {belongs : Char → Bool} {leading middle trailing : List Char}

/-- Characters of the class in front do not matter. -/
theorem trimWhere_append_left (within : Within belongs leading) :
    trimWhere belongs (leading ++ middle) = trimWhere belongs middle := by
  rw [trimWhere, List.dropWhile_append_of_pos within]
  rfl

/-- Characters of the class at the end do not matter. -/
theorem trimWhere_append_right (within : Within belongs trailing) :
    trimWhere belongs (middle ++ trailing) = trimWhere belongs middle := by
  have withinReversed : Within belongs trailing.reverse :=
    fun character member => within character (List.mem_reverse.mp member)
  simp only [trimWhere, List.dropWhile_append]
  split
  case isTrue emptied =>
    have nothingLeft : middle.dropWhile belongs = [] := List.isEmpty_iff.mp emptied
    have dropped : trailing.dropWhile belongs = [] :=
      List.dropWhile_eq_nil_iff.mpr within
    rw [nothingLeft, dropped]
  case isFalse =>
    rw [List.reverse_append, List.dropWhile_append_of_pos withinReversed]

/-- Trimming takes nothing from between what it does not take away at either end. -/
theorem trimWhere_around
    {first last : List Char}
    (firstKeeps : ¬ Within belongs first)
    (lastKeeps : ¬ Within belongs last)
    (middle : List Char) :
    trimWhere belongs (first ++ (middle ++ last)) =
      first.dropWhile belongs ++ (middle ++ (last.reverse.dropWhile belongs).reverse) := by
  have firstLeft : (first.dropWhile belongs).isEmpty = false :=
    List.isEmpty_eq_false_iff.mpr fun nothing =>
      firstKeeps (List.dropWhile_eq_nil_iff.mp nothing)
  have lastLeft : (last.reverse.dropWhile belongs).isEmpty = false :=
    List.isEmpty_eq_false_iff.mpr fun nothing => lastKeeps fun character member =>
      List.dropWhile_eq_nil_iff.mp nothing character (List.mem_reverse.mpr member)
  simp [trimWhere, List.dropWhile_append, firstLeft, lastLeft]

theorem within_trimWhere
    {kept : Char → Bool}
    (within : Within kept middle) :
    Within kept (trimWhere belongs middle) := by
  intro character member
  rw [trimWhere, List.mem_reverse] at member
  have behindTrailing := List.mem_reverse.mp ((List.dropWhile_suffix belongs).subset member)
  exact within character ((List.dropWhile_suffix belongs).subset behindTrailing)

/-- A text that neither begins nor ends in the class stays as it is. -/
theorem trimWhere_of_leaves
    (leavesFront : Leaves belongs middle)
    (leavesBack : Leaves belongs middle.reverse) :
    trimWhere belongs middle = middle := by
  have kept {text : List Char} (leaves : Leaves belongs text) :
      text.dropWhile belongs = text := by
    cases text with
    | nil => rfl
    | cons character rest =>
        rw [Leaves.cons_iff] at leaves
        simp [List.dropWhile, leaves]
  rw [trimWhere, kept leavesFront, kept leavesBack, List.reverse_reverse]

/-- Behind the run of a class, the class is left. -/
theorem leaves_dropWhile (text : List Char) :
    Leaves belongs (text.dropWhile belongs) := by
  induction text with
  | nil => simp
  | cons character rest inductionHypothesis =>
      rw [List.dropWhile_cons]
      split
      case isTrue => exact inductionHypothesis
      case isFalse outside => simpa using outside

/-- A trimmed text neither begins nor ends in the class. -/
theorem leaves_trimWhere (text : List Char) :
    Leaves belongs (trimWhere belongs text) ∧ Leaves belongs (trimWhere belongs text).reverse := by
  have leavesBack : Leaves belongs (trimWhere belongs text).reverse := by
    rw [trimWhere, List.reverse_reverse]
    exact leaves_dropWhile _
  refine ⟨?_, leavesBack⟩
  -- Trimming the end keeps the front, unless it keeps nothing at all.
  have isPrefix : trimWhere belongs text <+: text.dropWhile belongs := by
    rw [trimWhere, ← List.reverse_suffix, List.reverse_reverse]
    exact List.dropWhile_suffix _
  intro character atHead
  cases shape : trimWhere belongs text with
  | nil => simp [shape] at atHead
  | cons first more =>
      obtain ⟨after, rest⟩ := isPrefix
      rw [shape, List.cons_append] at rest
      have leaves : Leaves belongs (text.dropWhile belongs) := leaves_dropWhile text
      rw [← rest, Leaves.cons_iff] at leaves
      simp only [shape, List.head?_cons, Option.mem_some] at atHead
      rw [← atHead]
      exact leaves

/-- What is trimmed is trimmed of nothing more. -/
theorem trimWhere_trimWhere (text : List Char) :
    trimWhere belongs (trimWhere belongs text) = trimWhere belongs text :=
  trimWhere_of_leaves (leaves_trimWhere text).1 (leaves_trimWhere text).2

/-- What trimming takes away stood in front of the rest and behind it. -/
theorem exists_trimmed (text : List Char) :
    ∃ leading trailing, Within belongs leading ∧ Within belongs trailing ∧
      text = leading ++ (trimWhere belongs text ++ trailing) := by
  have within (part : List Char) : Within belongs (part.takeWhile belongs) := fun _ member =>
    List.mem_takeWhile_imp member
  let behindLeading := text.dropWhile belongs
  refine ⟨text.takeWhile belongs, (behindLeading.reverse.takeWhile belongs).reverse, within text,
    fun character member => within _ character (List.mem_reverse.mp member), ?_⟩
  rw [trimWhere, ← List.reverse_append, List.takeWhile_append_dropWhile, List.reverse_reverse,
    List.takeWhile_append_dropWhile]

end Trimming

end ExpertAdvisor.Text

namespace ExpertAdvisor.Text

/-!
# Blank characters and trimming

Two classes of blanks matter.  The wide class is what separates tokens of
indicator source and what trimming removes.  The narrow class leaves out the
four information separators `U+001C` to `U+001F`.
-/

/-- The blank characters outside ASCII. -/
def isForeignBlank (character : Char) : Bool :=
  let codePoint := character.toNat
  codePoint == 0x85 || codePoint == 0xA0 || codePoint == 0x1680 ||
    (0x2000 ≤ codePoint && codePoint ≤ 0x200A) ||
    codePoint == 0x2028 || codePoint == 0x2029 || codePoint == 0x202F ||
    codePoint == 0x205F || codePoint == 0x3000

/-- The blank characters of ASCII: tab, the line and page breaks, and the space. -/
def isPlainBlank (character : Char) : Bool :=
  (0x09 ≤ character.toNat && character.toNat ≤ 0x0D) || character.toNat == 0x20

/-- Whether a character is white space as character data defines it. -/
def isWhiteSpace (character : Char) : Bool :=
  isPlainBlank character || isForeignBlank character

/-- Whether a character separates tokens: white space or an information separator. -/
def isBlank (character : Char) : Bool :=
  isWhiteSpace character || (0x1C ≤ character.toNat && character.toNat ≤ 0x1F)

/-- Whether a character is a space or a tab. -/
def isSpaceOrTab (character : Char) : Bool :=
  character == ' ' || character == '\t'

/-- Removes the characters of a class from both ends. -/
def trimWhere
    (belongs : Char → Bool)
    (characters : List Char) : List Char :=
  ((characters.dropWhile belongs).reverse.dropWhile belongs).reverse

/-- Removes blanks from both ends. -/
def trimBlanks (characters : List Char) : List Char :=
  trimWhere isBlank characters

/-- Whether a text holds nothing but blanks. -/
def isAllBlank (text : String) : Bool :=
  text.toList.all isBlank

/-- Space and tab are blanks. -/
theorem isBlank_of_isSpaceOrTab
    {character : Char}
    (spaceOrTab : isSpaceOrTab character = true) :
    isBlank character = true := by
  simp only [isSpaceOrTab, Bool.or_eq_true, beq_iff_eq] at spaceOrTab
  rcases spaceOrTab with rfl | rfl <;> decide

/-- Trimming nothing away leaves no characters behind. -/
@[simp]
theorem trimWhere_nil (belongs : Char → Bool) :
    trimWhere belongs [] = [] := rfl

end ExpertAdvisor.Text

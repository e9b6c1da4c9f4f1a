import RankedSql.Text.Basic
import RankedSql.Text.CharacterRange

/-!
# Blanks and words

Blank characters are those with the Unicode property `White_Space`. A text is cut into words at its
blanks, and `singleSpaced` writes each maximal run of blanks between words as one space.
-/

namespace RankedSql.Text

/-- The code points with the property `White_Space`. -/
def blankRanges : List (Nat × Nat) :=
  [(0x9, 0xD), (0x20, 0x20), (0x85, 0x85), (0xA0, 0xA0), (0x1680, 0x1680), (0x2000, 0x200A),
    (0x2028, 0x2029), (0x202F, 0x202F), (0x205F, 0x205F), (0x3000, 0x3000)]

/-- Whether a character separates words. -/
def isBlank (char : Char) : Bool := inRanges blankRanges char

/-- Every character that is white space in ASCII is blank. -/
theorem isBlank_of_isWhitespace {char : Char} (white : char.isWhitespace = true) :
    isBlank char = true := by
  simp only [Char.isWhitespace, Bool.or_eq_true, decide_eq_true_eq] at white
  rcases white with ((rfl | rfl) | rfl) | rfl <;> decide

theorem not_isBlank_of_isDigit {char : Char} (digit : char.isDigit = true) :
    isBlank char = false := by
  have bounds := toNat_of_isDigit digit
  simp only [isBlank, inRanges, blankRanges, List.any_cons, List.any_nil, Bool.or_false,
    Bool.or_eq_false_iff, Bool.and_eq_false_iff, decide_eq_false_iff_not]
  omega

/-- The pieces of a text between its blanks, empty ones included. -/
def splitAtBlanks : List Char → List (List Char)
  | [] => [[]]
  | head :: tail =>
      if isBlank head then [] :: splitAtBlanks tail
      else
        match splitAtBlanks tail with
        | [] => [[head]]
        | piece :: pieces => (head :: piece) :: pieces

/-- The maximal runs of characters that are not blank, in order. -/
def words (text : List Char) : List (List Char) :=
  (splitAtBlanks text).filter fun piece => !piece.isEmpty

/-- The first word, or nothing at all in a blank text. -/
def firstWord (text : List Char) : List Char := (words text).headD []

/-- The words of a text with one space between neighbours. -/
def singleSpaced (text : String) : String :=
  joinWith " " ((words text.toList).map String.ofList)

theorem splitAtBlanks_ne_nil (text : List Char) : splitAtBlanks text ≠ [] := by
  cases text with
  | nil => simp [splitAtBlanks]
  | cons head tail =>
      unfold splitAtBlanks
      split
      · simp
      · split <;> simp

@[simp]
theorem words_nil : words [] = [] := rfl

theorem words_cons_of_isBlank {head : Char} (blank : isBlank head = true) (tail : List Char) :
    words (head :: tail) = words tail := by
  simp [words, splitAtBlanks, blank]

/-- No word is empty and no word holds a blank. -/
theorem not_isBlank_of_mem_words {text word : List Char} (member : word ∈ words text) :
    word ≠ [] ∧ ∀ char ∈ word, isBlank char = false := by
  simp only [words, List.mem_filter, Bool.not_eq_true', List.isEmpty_eq_false_iff] at member
  refine ⟨member.2, ?_⟩
  replace member := member.1
  induction text generalizing word with
  | nil => simp_all [splitAtBlanks]
  | cons head tail ih =>
      unfold splitAtBlanks at member
      split at member
      · rcases List.mem_cons.1 member with rfl | later
        · simp
        · exact ih later
      · next notBlank =>
          split at member
          · next none => exact absurd none (splitAtBlanks_ne_nil tail)
          · next piece pieces pieces_eq =>
              rcases List.mem_cons.1 member with rfl | later
              · have pieceClear := @ih piece (pieces_eq ▸ List.mem_cons_self)
                simpa [notBlank] using pieceClear
              · exact ih (by simp [pieces_eq, later])

end RankedSql.Text

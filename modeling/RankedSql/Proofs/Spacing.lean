import RankedSql.Text.Blank

/-!
# Single spacing

Writing the words of a text with one space between them is the same as shrinking each run of blanks
to one space, for texts that neither start nor end with a blank (`toList_singleSpaced`). In this
form spacing can be followed character by character: it leaves all other characters in place
(`spaced_append_cons`), and with them the words (`words_spaced`).
-/

namespace RankedSql.Text

/-- The text with each run of blanks shrunk to one space. -/
def spaced : List Char → List Char
  | [] => []
  | head :: tail =>
      if isBlank head then
        if tail.head?.any isBlank then spaced tail else ' ' :: spaced tail
      else head :: spaced tail

@[simp]
theorem spaced_nil : spaced [] = [] := rfl

theorem spaced_cons_of_not_isBlank {head : Char} (visible : isBlank head = false)
    (tail : List Char) : spaced (head :: tail) = head :: spaced tail := by
  simp [spaced, visible]

/-- Spacing works separately on the two sides of a character that is not blank. -/
theorem spaced_append_cons {char : Char} (visible : isBlank char = false)
    (before after : List Char) :
    spaced (before ++ char :: after) = spaced before ++ char :: spaced after := by
  induction before with
  | nil => exact spaced_cons_of_not_isBlank visible after
  | cons head tail ih =>
      have sameNext : (tail ++ char :: after).head?.any isBlank = tail.head?.any isBlank := by
        cases tail <;> simp [visible]
      simp only [List.cons_append, spaced, sameNext, ih]
      split
      · split <;> rfl
      · rfl

/-- Spacing works separately on two texts unless a blank at the end of the first meets one at the
start of the second. -/
theorem spaced_append {left right : List Char}
    (seam : left.getLast?.any isBlank = false ∨ right.head?.any isBlank = false) :
    spaced (left ++ right) = spaced left ++ spaced right := by
  rcases seam with ends | starts
  · rcases List.eq_nil_or_concat left with rfl | ⟨front, last, rfl⟩
    · rfl
    · have visible : isBlank last = false := by simpa using ends
      rw [List.concat_eq_append, List.append_assoc, List.singleton_append,
        spaced_append_cons visible, spaced_append_cons visible, spaced_nil, List.append_assoc]
      rfl
  · cases right with
    | nil => simp
    | cons first rest =>
        have visible : isBlank first = false := by simpa using starts
        rw [spaced_append_cons visible, spaced_cons_of_not_isBlank visible]

theorem isBlank_space : isBlank ' ' = true := by decide

theorem ne_of_isBlank {blank char : Char} (isBlank_blank : isBlank blank = true)
    (visible : isBlank char = false) : blank ≠ char := by
  rintro rfl
  rw [visible] at isBlank_blank
  cases isBlank_blank

theorem spaced_of_head_isBlank {text : List Char} (starts : text.head?.any isBlank = true) :
    spaced text = ' ' :: spaced (text.dropWhile isBlank) := by
  induction text with
  | nil => cases starts
  | cons head tail ih =>
      have blank : isBlank head = true := by simpa using starts
      rw [List.dropWhile_cons_of_pos blank]
      simp only [spaced, blank, if_true]
      split
      · next tailStarts => exact ih tailStarts
      · next visible =>
          have stays : tail.dropWhile isBlank = tail := by
            cases tail with
            | nil => rfl
            | cons next rest => exact List.dropWhile_cons_of_neg (by simpa using visible)
          rw [stays]

/-! ## Words -/

theorem splitAtBlanks_append_cons {blank : Char} (isBlank_blank : isBlank blank = true)
    (before after : List Char) :
    splitAtBlanks (before ++ blank :: after) = splitAtBlanks before ++ splitAtBlanks after := by
  induction before with
  | nil => simp [splitAtBlanks, isBlank_blank]
  | cons head tail ih =>
      simp only [List.cons_append, splitAtBlanks, ih]
      split
      · rfl
      · cases pieces : splitAtBlanks tail with
        | nil => exact absurd pieces (splitAtBlanks_ne_nil tail)
        | cons piece rest => rfl

/-- A blank ends the words before it. -/
theorem words_append_cons {blank : Char} (isBlank_blank : isBlank blank = true)
    (before after : List Char) :
    words (before ++ blank :: after) = words before ++ words after := by
  rw [words, splitAtBlanks_append_cons isBlank_blank, List.filter_append]
  rfl

/-- A character before a blank, or at the end, is a word of its own. -/
theorem words_cons_of_blank_follows {head : Char} (visible : isBlank head = false)
    {tail : List Char} (ends : tail = [] ∨ tail.head?.any isBlank = true) :
    words (head :: tail) = [head] :: words tail := by
  rcases ends with rfl | starts
  · simp [words, splitAtBlanks, visible]
  · cases tail with
    | nil => cases starts
    | cons blank rest =>
        have isBlank_blank : isBlank blank = true := by simpa using starts
        have alone : words [head] = [[head]] := by simp [words, splitAtBlanks, visible]
        rw [words_cons_of_isBlank isBlank_blank, ← List.singleton_append,
          words_append_cons isBlank_blank, alone]
        rfl

/-- A character before another one extends its word. -/
theorem words_cons_of_not_isBlank {head : Char} (visible : isBlank head = false)
    {tail : List Char} (continues : tail.head?.any isBlank = false) (notEnd : tail ≠ []) :
    ∃ word rest, words tail = word :: rest ∧ words (head :: tail) = (head :: word) :: rest := by
  cases tail with
  | nil => exact absurd rfl notEnd
  | cons next after =>
      have nextVisible : isBlank next = false := by simpa using continues
      cases pieces_eq : splitAtBlanks after with
      | nil => exact absurd pieces_eq (splitAtBlanks_ne_nil after)
      | cons piece pieces =>
          refine ⟨next :: piece, pieces.filter (!·.isEmpty), ?_, ?_⟩
          · simp [words, splitAtBlanks, nextVisible, pieces_eq]
          · simp [words, splitAtBlanks, visible, nextVisible, pieces_eq]

/-- A character is a word of its own or the start of the next word. -/
theorem words_cons_cases {head : Char} (visible : isBlank head = false) (tail : List Char) :
    ((tail = [] ∨ tail.head?.any isBlank = true) ∧ words (head :: tail) = [head] :: words tail) ∨
      (tail ≠ [] ∧ tail.head?.any isBlank = false) ∧
        ∃ word rest, words tail = word :: rest ∧ words (head :: tail) = (head :: word) :: rest := by
  by_cases ends : tail = [] ∨ tail.head?.any isBlank = true
  · exact .inl ⟨ends, words_cons_of_blank_follows visible ends⟩
  · rcases not_or.1 ends with ⟨notEnd, continues⟩
    rw [Bool.not_eq_true] at continues
    exact .inr ⟨⟨notEnd, continues⟩, words_cons_of_not_isBlank visible continues notEnd⟩

theorem head?_spaced (text : List Char) :
    (spaced text).head?.any isBlank = text.head?.any isBlank := by
  cases text with
  | nil => rfl
  | cons head tail =>
      cases visible : isBlank head with
      | false => simp [spaced_cons_of_not_isBlank visible]
      | true =>
          have starts : (head :: tail).head?.any isBlank = true := by simpa using visible
          rw [spaced_of_head_isBlank starts, starts]
          simpa using isBlank_space

theorem spaced_eq_nil_iff {text : List Char} : spaced text = [] ↔ text = [] := by
  cases text with
  | nil => simp
  | cons head tail =>
      cases visible : isBlank head with
      | false => simp [spaced_cons_of_not_isBlank visible]
      | true =>
          have starts : (head :: tail).head?.any isBlank = true := by simpa using visible
          simp [spaced_of_head_isBlank starts]

/-- Spacing leaves the words as they are. -/
theorem words_spaced (text : List Char) : words (spaced text) = words text := by
  induction text with
  | nil => rfl
  | cons head tail ih =>
      cases visible : isBlank head with
      | true =>
          rw [words_cons_of_isBlank visible]
          simp only [spaced, visible, if_true]
          split
          · exact ih
          · rw [words_cons_of_isBlank isBlank_space, ih]
      | false =>
          rw [spaced_cons_of_not_isBlank visible]
          -- Whether the character ends its word shows in what follows, and spacing keeps that.
          rcases words_cons_cases visible tail with
            ⟨ends, alone⟩ | ⟨⟨notEnd, continues⟩, word, rest, words_tail, words_head⟩
          · have endsSpaced : spaced tail = [] ∨ (spaced tail).head?.any isBlank = true := by
              rwa [spaced_eq_nil_iff, head?_spaced]
            rw [alone, words_cons_of_blank_follows visible endsSpaced, ih]
          · rcases words_cons_of_not_isBlank visible ((head?_spaced tail).trans continues)
                (mt spaced_eq_nil_iff.1 notEnd) with
              ⟨spacedWord, spacedRest, words_spacedTail, words_spacedHead⟩
            rw [words_spacedTail, words_tail] at ih
            rcases List.cons.inj ih with ⟨rfl, rfl⟩
            rw [words_head, words_spacedHead]

/-! ## Single spacing -/

theorem words_ne_nil {text : List Char} {char : Char} (member : char ∈ text)
    (visibleChar : isBlank char = false) : words text ≠ [] := by
  induction text with
  | nil => cases member
  | cons head tail ih =>
      cases visible : isBlank head with
      | true =>
          rw [words_cons_of_isBlank visible]
          exact ih ((List.mem_cons.1 member).resolve_left (ne_of_isBlank visible visibleChar).symm)
      | false =>
          rcases words_cons_cases visible tail with ⟨_, alone⟩ | ⟨_, word, rest, _, words_head⟩
          · simp [alone]
          · simp [words_head]

theorem intercalate_words {text : List Char} (ends : ∀ last ∈ text.getLast?, isBlank last = false) :
    [' '].intercalate (words text) = spaced (text.dropWhile isBlank) := by
  induction text with
  | nil => rfl
  | cons head tail ih =>
      have endsTail : ∀ last ∈ tail.getLast?, isBlank last = false := by
        cases tail with
        | nil => simp
        | cons next rest => simpa using ends
      have tailJoined := ih endsTail
      cases visible : isBlank head with
      | true => rw [words_cons_of_isBlank visible, List.dropWhile_cons_of_pos visible, tailJoined]
      | false =>
          rw [List.dropWhile_cons_of_neg (by simp [visible]), spaced_cons_of_not_isBlank visible]
          rcases words_cons_cases visible tail with
            ⟨rfl | starts, alone⟩ | ⟨⟨_, continues⟩, word, rest, words_tail, words_head⟩
          · rw [alone]
            rfl
          · have notEnd : tail ≠ [] := by rintro rfl; cases starts
            -- A blank at the end is ruled out, so the shrunk run has a word after it to separate.
            have wordsLeft : words tail ≠ [] :=
              words_ne_nil (List.getLast_mem notEnd)
                (endsTail _ (List.getLast?_eq_some_getLast notEnd))
            rw [alone, spaced_of_head_isBlank starts, ← tailJoined,
              List.intercalate_cons_of_ne_nil wordsLeft]
            rfl
          · have stays : tail.dropWhile isBlank = tail := by
              cases tail with
              | nil => rfl
              | cons next rest => exact List.dropWhile_cons_of_neg (by simpa using continues)
            rw [stays] at tailJoined
            rw [← tailJoined, words_head, words_tail, List.intercalate_cons_cons_left]

theorem toList_joinWith_space (texts : List (List Char)) :
    (joinWith " " (texts.map String.ofList)).toList = [' '].intercalate texts := by
  induction texts with
  | nil => rfl
  | cons first rest ih =>
      cases rest with
      | nil => simp
      | cons second rest =>
          rw [List.intercalate_cons_cons, ← ih, List.map_cons, List.map_cons, joinWith_cons_cons]
          simp

/-- A text without blanks at its ends is single spaced by shrinking its runs of blanks. -/
theorem toList_singleSpaced {text : String}
    (starts : ∀ first ∈ text.toList.head?, isBlank first = false)
    (ends : ∀ last ∈ text.toList.getLast?, isBlank last = false) :
    (singleSpaced text).toList = spaced text.toList := by
  have stays : text.toList.dropWhile isBlank = text.toList := by
    cases chars : text.toList with
    | nil => rfl
    | cons head tail => exact List.dropWhile_cons_of_neg (by simpa [chars] using starts)
  rw [singleSpaced, toList_joinWith_space, intercalate_words ends, stays]

end RankedSql.Text

import RankedSql.Proofs.Spacing
import RankedSql.Text.Quoted

/-!
# Phrases of two words

A phrase of two words with one space between them occurs in a single spaced text where two words
follow each other of which the first ends and the second starts as the phrase does
(`follows_of_mentions_spaced`). Words can be told text by text, so whether a phrase occurs in a text
that is put together shows in its pieces and at their seams (`follows_append`). Where pieces meet at
a character that the phrase does not have, there is nothing to look for at the seam
(`mentions_append_cons`).
-/

namespace RankedSql.Text

/-! ## Phrases in any text -/

section

variable {phrase text : List Char} {mark : Char}

theorem mentions_eq_false_of_not_mem {char : Char} (inside : char ∈ phrase) (absent : char ∉ text) :
    mentions phrase text = false := by
  rw [Bool.eq_false_iff]
  intro mentioned
  rcases mentions_iff.1 mentioned with ⟨before, after, rfl⟩
  apply absent
  simp [inside]

/-- A phrase in the back of a text is in the text. -/
theorem mentions_append_left (mentioned : mentions phrase text = true) (front : List Char) :
    mentions phrase (front ++ text) = true := by
  rcases mentions_iff.1 mentioned with ⟨before, after, rfl⟩
  exact mentions_iff.2 ⟨front ++ before, after, by simp⟩

theorem isSome_stripStart?_append_cons (absent : mark ∉ phrase) (front back : List Char) :
    (stripStart? phrase (front ++ mark :: back)).isSome = (stripStart? phrase front).isSome := by
  induction phrase generalizing front with
  | nil => rfl
  | cons first rest ih =>
      rw [List.mem_cons, not_or] at absent
      cases front with
      | nil => simp [stripStart?, absent.1]
      | cons head tail =>
          simp only [List.cons_append, stripStart?]
          split
          · exact ih absent.2 tail
          · rfl

/-- A phrase does not reach across a mark that it does not have. -/
theorem mentions_append_cons (absent : mark ∉ phrase) (front back : List Char) :
    mentions phrase (front ++ mark :: back) = (mentions phrase front || mentions phrase back) := by
  induction front with
  | nil =>
      have start := isSome_stripStart?_append_cons absent [] back
      rw [List.nil_append] at start ⊢
      rw [mentions, mentions, start]
      cases phrase <;> rfl
  | cons head tail ih =>
      have start := isSome_stripStart?_append_cons absent (head :: tail) back
      rw [List.cons_append] at start ⊢
      rw [mentions, mentions, start, ih, Bool.or_assoc]

theorem isSome_stripStart?_doubled (absent : mark ∉ phrase) (text : List Char) :
    (stripStart? phrase (doubled mark text)).isSome = (stripStart? phrase text).isSome := by
  induction phrase generalizing text with
  | nil => rfl
  | cons first rest ih =>
      rw [List.mem_cons, not_or] at absent
      cases text with
      | nil => rfl
      | cons head tail =>
          by_cases same : head = mark
          · simp [doubled, stripStart?, same, absent.1]
          · simp only [doubled, if_neg same, stripStart?]
            split
            · exact ih absent.2 tail
            · rfl

/-- Writing marks twice neither makes nor breaks a phrase without them. -/
theorem mentions_doubled (absent : mark ∉ phrase) (text : List Char) :
    mentions phrase (doubled mark text) = mentions phrase text := by
  induction text with
  | nil => rfl
  | cons head tail ih =>
      by_cases same : head = mark
      · have across (back : List Char) :
            mentions phrase (mark :: back) = (mentions phrase [] || mentions phrase back) :=
          mentions_append_cons absent [] back
        rw [doubled, if_pos same, same, across, across, across, ih, ← Bool.or_assoc, Bool.or_self]
      · have start := isSome_stripStart?_doubled absent (head :: tail)
        rw [doubled, if_neg same] at start ⊢
        rw [mentions, mentions, start, ih]

/-- The marks of a literal cut its text off from what is around it. -/
theorem mentions_append_quoted (absent : mark ∉ phrase) (front : List Char) (literal : String)
    (back : List Char) :
    mentions phrase (front ++ (quoted mark literal).toList ++ back) =
      (mentions phrase front || mentions phrase literal.toList || mentions phrase back) := by
  have pieces : front ++ (quoted mark literal).toList ++ back =
      front ++ mark :: (doubled mark literal.toList ++ mark :: back) := by simp
  rw [pieces, mentions_append_cons absent, mentions_append_cons absent, mentions_doubled absent,
    Bool.or_assoc]

end

/-! ## Words that follow each other -/

/-- A text without blanks. -/
def Visible (text : List Char) : Prop := ∀ char ∈ text, isBlank char = false

instance (text : List Char) : Decidable (Visible text) := List.decidableBAll _ text

/-- Two words that follow each other among some words, of which the first ends in a given way and
the second starts in a given way. -/
def Follows (first second : List Char) (texts : List (List Char)) : Prop :=
  ∃ before left right after, texts = before ++ left :: right :: after ∧ first <:+ left ∧
    second <+: right

/-- Two words follow each other in one of two lists or at the seam between them. -/
theorem follows_append {first second : List Char} {front back : List (List Char)}
    (follows : Follows first second (front ++ back)) :
    Follows first second front ∨ Follows first second back ∨
      ∃ left right, front.getLast? = some left ∧ back.head? = some right ∧ first <:+ left ∧
        second <+: right := by
  rcases follows with ⟨before, left, right, after, whole, ends, starts⟩
  rcases List.append_eq_append_iff.1 whole with
    ⟨middle, before_eq, inBack⟩ | ⟨middle, front_eq, rest⟩
  · exact .inr (.inl ⟨middle, left, right, after, inBack, ends, starts⟩)
  · cases middle with
    | nil => exact .inr (.inl ⟨[], left, right, after, rest.symm, ends, starts⟩)
    | cons one later =>
        rw [List.cons_append] at rest
        rcases List.cons.inj rest with ⟨rfl, behind⟩
        cases later with
        | nil =>
            refine .inr (.inr ⟨left, right, ?_, ?_, ends, starts⟩)
            · rw [front_eq, List.getLast?_concat]
            · rw [← List.nil_append back, ← behind, List.head?_cons]
        | cons two later =>
            rw [List.cons_append] at behind
            rcases List.cons.inj behind with ⟨rfl, _⟩
            exact .inl ⟨before, left, right, later, front_eq, ends, starts⟩

theorem not_follows_singleton {first second : List Char} (word : List Char) :
    ¬Follows first second [word] := by
  rintro ⟨before, left, right, after, whole, _⟩
  have lengths := congrArg List.length whole
  simp only [List.length_append, List.length_cons, List.length_nil] at lengths
  omega

theorem not_follows_of_forall {first second : List Char} {texts : List (List Char)}
    (quiet : ∀ word ∈ texts, ¬first <:+ word) : ¬Follows first second texts := by
  rintro ⟨before, left, right, after, rfl, ends, _⟩
  exact quiet left (by simp) ends

/-- Where the words behind a seam start otherwise, no two words follow each other at it. -/
theorem not_follows_append {first second : List Char} {front back : List (List Char)}
    (quietFront : ¬Follows first second front) (quietBack : ¬Follows first second back)
    (seam : ∀ word ∈ back.head?, ¬second <+: word) : ¬Follows first second (front ++ back) := by
  intro follows
  rcases follows_append follows with inFront | inBack | ⟨_, right, _, leads, _, starts⟩
  · exact quietFront inFront
  · exact quietBack inBack
  · exact seam right leads starts

/-! ## Words around a seam -/

/-- A text that starts with a blank goes behind other words. -/
theorem words_append {front back : List Char} (gap : ∀ next ∈ back.head?, isBlank next = true) :
    words (front ++ back) = words front ++ words back := by
  cases back with
  | nil => simp
  | cons head tail =>
      have blank : isBlank head = true := gap head rfl
      rw [words_append_cons blank, words_cons_of_isBlank blank]

theorem mem_of_mem_words {text word : List Char} {char : Char} (member : word ∈ words text)
    (inside : char ∈ word) : char ∈ text := by
  induction text generalizing word with
  | nil => cases member
  | cons head tail ih =>
      cases visible : isBlank head with
      | true =>
          rw [words_cons_of_isBlank visible] at member
          exact List.mem_cons_of_mem head (ih member inside)
      | false =>
          rcases words_cons_cases visible tail with
            ⟨_, alone⟩ | ⟨_, first, rest, words_tail, words_head⟩
          · rw [alone] at member
            rcases List.mem_cons.1 member with rfl | later
            · exact List.mem_singleton.1 inside ▸ List.mem_cons_self
            · exact List.mem_cons_of_mem head (ih later inside)
          · rw [words_tail] at ih
            rw [words_head] at member
            rcases List.mem_cons.1 member with rfl | later
            · rcases List.mem_cons.1 inside with rfl | inFirst
              · exact List.mem_cons_self
              · exact List.mem_cons_of_mem head (ih List.mem_cons_self inFirst)
            · exact List.mem_cons_of_mem head (ih (List.mem_cons_of_mem first later) inside)

/-- A chunk without blanks is one word. -/
theorem words_of_not_isBlank {chunk : List Char} (notEmpty : chunk ≠ [])
    (visible : Visible chunk) : words chunk = [chunk] := by
  induction chunk with
  | nil => exact absurd rfl notEmpty
  | cons head tail ih =>
      rcases List.forall_mem_cons.1 visible with ⟨headVisible, tailVisible⟩
      cases tail with
      | nil => exact words_cons_of_blank_follows headVisible (.inl rfl)
      | cons next more =>
          have continues : (next :: more).head?.any isBlank = false := by
            simpa using tailVisible next List.mem_cons_self
          rcases words_cons_of_not_isBlank headVisible continues (List.cons_ne_nil next more) with
            ⟨word, rest, words_tail, words_head⟩
          rw [ih (List.cons_ne_nil next more) tailVisible] at words_tail
          rcases List.cons.inj words_tail with ⟨rfl, rfl⟩
          exact words_head

/-- A chunk without blanks at the end of a text ends its last word. -/
theorem exists_last_word {chunk : List Char} (notEmpty : chunk ≠ [])
    (visible : Visible chunk) (before : List Char) :
    ∃ front last, words (before ++ chunk) = front ++ [last] ∧ chunk <:+ last := by
  induction before with
  | nil => exact ⟨[], chunk, words_of_not_isBlank notEmpty visible, List.suffix_refl chunk⟩
  | cons head tail ih =>
      rcases ih with ⟨front, last, words_eq, ends⟩
      cases blank : isBlank head with
      | true =>
          refine ⟨front, last, ?_, ends⟩
          rw [List.cons_append, words_cons_of_isBlank blank, words_eq]
      | false =>
          rcases words_cons_cases blank (tail ++ chunk) with
            ⟨_, alone⟩ | ⟨_, word, rest, words_tail, words_head⟩
          · refine ⟨[head] :: front, last, ?_, ends⟩
            rw [List.cons_append, alone, words_eq, List.cons_append]
          · rw [words_eq] at words_tail
            cases front with
            | nil =>
                rcases List.cons.inj words_tail with ⟨rfl, rfl⟩
                exact ⟨[], head :: last, words_head, ends.trans (List.suffix_cons head last)⟩
            | cons first later =>
                rcases List.cons.inj words_tail with ⟨rfl, rfl⟩
                exact ⟨(head :: first) :: later, last, words_head, ends⟩

/-- A chunk without blanks at the start of a text starts its first word. -/
theorem exists_first_word {chunk : List Char} (notEmpty : chunk ≠ [])
    (visible : Visible chunk) (after : List Char) :
    ∃ first rest, words (chunk ++ after) = first :: rest ∧ chunk <+: first := by
  induction chunk with
  | nil => exact absurd rfl notEmpty
  | cons head tail ih =>
      rcases List.forall_mem_cons.1 visible with ⟨headVisible, tailVisible⟩
      cases tail with
      | nil =>
          rcases words_cons_cases headVisible after with
            ⟨_, alone⟩ | ⟨_, word, rest, _, words_head⟩
          · exact ⟨[head], words after, alone, List.prefix_refl _⟩
          · exact ⟨head :: word, rest, words_head, word, rfl⟩
      | cons next more =>
          rcases ih (List.cons_ne_nil next more) tailVisible with ⟨first, rest, words_eq, starts⟩
          have nextVisible : isBlank next = false := tailVisible next List.mem_cons_self
          have continues : (next :: more ++ after).head?.any isBlank = false := by
            simpa using nextVisible
          rcases words_cons_of_not_isBlank headVisible continues (by simp) with
            ⟨word, later, words_tail, words_head⟩
          rw [words_eq] at words_tail
          rcases List.cons.inj words_tail with ⟨rfl, rfl⟩
          exact ⟨head :: first, rest, words_head, List.cons_prefix_cons.2 ⟨rfl, starts⟩⟩

/-! ## Phrases in single spaced texts -/

section

variable {first second : List Char}

/-- A phrase in a single spaced text consists of the end of a word and the start of the next. -/
theorem follows_of_mentions_spaced (firstNotEmpty : first ≠ []) (secondNotEmpty : second ≠ [])
    (firstVisible : Visible first)
    (secondVisible : Visible second) {text : List Char}
    (mentioned : mentions (first ++ ' ' :: second) (spaced text) = true) :
    Follows first second (words text) := by
  rcases mentions_iff.1 mentioned with ⟨before, after, whole⟩
  have split : spaced text = (before ++ first) ++ ' ' :: (second ++ after) := by
    rw [whole]
    simp
  rcases exists_last_word firstNotEmpty firstVisible before with ⟨front, left, words_front, ends⟩
  rcases exists_first_word secondNotEmpty secondVisible after with ⟨right, back, words_back, starts⟩
  refine ⟨front, left, right, back, ?_, ends, starts⟩
  rw [← words_spaced, split, words_append_cons isBlank_space, words_front, words_back,
    List.append_assoc, List.singleton_append]

/-- Words that follow each other have a phrase between them once they are joined by spaces. -/
theorem mentions_of_follows {texts : List (List Char)} (follows : Follows first second texts) :
    mentions (first ++ ' ' :: second) ([' '].intercalate texts) = true := by
  rcases follows with ⟨before, left, right, after, rfl, ⟨front, rfl⟩, ⟨back, rfl⟩⟩
  have seam : ∃ more, [' '].intercalate ((front ++ first) :: (second ++ back) :: after) =
      front ++ (first ++ ' ' :: second) ++ more := by
    cases after with
    | nil => exact ⟨back, by simp⟩
    | cons next later => exact ⟨back ++ ' ' :: [' '].intercalate (next :: later), by simp⟩
  induction before with
  | nil =>
      rcases seam with ⟨more, joined⟩
      exact mentions_iff.2 ⟨front, more, joined⟩
  | cons word rest ih =>
      rcases mentions_iff.1 ih with ⟨earlier, later, joined⟩
      refine mentions_iff.2 ⟨word ++ [' '] ++ earlier, later, ?_⟩
      rw [List.cons_append, List.intercalate_cons_of_ne_nil (by simp), joined]
      simp only [List.append_assoc]

end

/-- A phrase that starts and ends with visible characters and has single spaces is left in place by
spacing. -/
theorem mentions_spaced {phrase : List Char} {first last : Char} {middle : List Char}
    (phrase_eq : phrase = first :: (middle ++ [last])) (firstVisible : isBlank first = false)
    (lastVisible : isBlank last = false) (single : spaced middle = middle) {text : List Char}
    (mentioned : mentions phrase text = true) : mentions phrase (spaced text) = true := by
  rcases mentions_iff.1 mentioned with ⟨before, after, whole⟩
  refine mentions_iff.2 ⟨spaced before, spaced after, ?_⟩
  have split : text = before ++ first :: (middle ++ last :: after) := by
    rw [whole, phrase_eq]
    simp
  rw [split, spaced_append_cons firstVisible, spaced_append_cons lastVisible, single, phrase_eq]
  simp

end RankedSql.Text

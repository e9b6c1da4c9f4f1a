import RankedSql.Proofs.OpenSemicolon

/-!
# The language of the signatures

What the guard looks for behind its scan for semicolons, told without a search: a signature occurs
in a text that can be cut so that one of its phrases stands between two further texts
(`Signature.OccursIn`). Letters are compared by their case folding, and a word counts only where no
word character touches it.

The search of the guard goes through a text once and commits to the first place at which each piece
of a phrase fits. That loses no occurrence (`Signature.occurs_iff`): the spelling of a word is as
long as the word, and no truth or sign starts with a blank. So the guard accepts a statement without
open semicolons exactly if no signature occurs in it, and otherwise reports the first one that does
(`Guard.first_occurring_signature_reported`).
-/

namespace RankedSql

namespace Signature

/-! ## Case folding -/

/-- The simple case folding of a character, as far as it leads to ASCII: beside the capitals, only
the long s and the Kelvin sign are case forms of ASCII letters. -/
def folded (char : Char) : Char :=
  if char = '\u017f' then 's' else if char = '\u212a' then 'k' else char.toLower

/-- A character of which the case forms are itself, its capital and, for `s`, the long s. -/
def IsPlainLetter (small : Char) : Prop := small = '_' ∨ small.isLower = true ∧ small ≠ 'k'

instance (small : Char) : Decidable (IsPlainLetter small) :=
  inferInstanceAs (Decidable (small = '_' ∨ small.isLower = true ∧ small ≠ 'k'))

/-- A word of such characters. -/
def IsPlainWord (word : List Char) : Prop := ∀ small ∈ word, IsPlainLetter small

instance (word : List Char) : Decidable (IsPlainWord word) := List.decidableBAll _ word

theorem toNat_toLower (char : Char) :
    char.toLower.toNat =
      if 65 ≤ char.toNat ∧ char.toNat ≤ 90 then char.toNat + 32 else char.toNat := by
  unfold Char.toLower
  split
  · next capital =>
      have bounds : 65 ≤ char.val.toNat ∧ char.val.toNat ≤ 90 := by
        simpa [UInt32.le_iff_toNat_le] using capital
      simp only [Char.toNat, UInt32.toNat_add, if_pos bounds]
      change (char.val.toNat + 32) % 4294967296 = _
      omega
  · next other =>
      have bounds : ¬(65 ≤ char.val.toNat ∧ char.val.toNat ≤ 90) := by
        simpa [UInt32.le_iff_toNat_le] using other
      simp only [Char.toNat, if_neg bounds]

section Letters

variable {small char : Char}

theorem IsPlainLetter.bounds (letter : IsPlainLetter small) :
    small.toNat = 95 ∨ 97 ≤ small.toNat ∧ small.toNat ≤ 122 := by
  rcases letter with rfl | ⟨lower, _⟩
  · exact .inl rfl
  · right
    change (decide ('a'.val ≤ small.val) && decide (small.val ≤ 'z'.val)) = true at lower
    simpa [UInt32.le_iff_toNat_le] using lower

theorem IsPlainLetter.toLower_eq_iff (letter : IsPlainLetter small) :
    char.toLower = small ↔ char = small ∨ char = small.toUpper := by
  have bounds := letter.bounds
  simp only [← Char.toNat_inj, toNat_toLower, Text.toNat_toUpper]
  grind

/-- A character beyond ASCII folds to a letter only as one of the two further case forms. -/
theorem IsPlainLetter.toLower_ne_of_beyond (letter : IsPlainLetter small)
    (beyond : 128 ≤ char.toNat) : char.toLower ≠ small := by
  have bounds := letter.bounds
  simp only [ne_eq, ← Char.toNat_inj, toNat_toLower]
  grind

/-- A letter of a signature's word matches exactly the characters that fold to it. -/
theorem IsPlainLetter.isLetter_iff (letter : IsPlainLetter small) :
    isLetter small char = true ↔ folded char = small := by
  have notKelvin : 'k' ≠ small := by
    rcases letter with rfl | ⟨_, different⟩
    · decide
    · exact different.symm
  have matches_iff : isLetter small char = true ↔
      char.toLower = small ∨ small = 's' ∧ char = '\u017f' := by
    simp only [isLetter, Bool.or_eq_true, Bool.and_eq_true, beq_iff_eq, letter.toLower_eq_iff]
  rw [matches_iff, folded]
  by_cases long : char = '\u017f'
  · have other := letter.toLower_ne_of_beyond (long ▸ (by decide : 128 ≤ '\u017f'.toNat))
    rw [if_pos long]
    grind
  · by_cases kelvin : char = '\u212a'
    · have other := letter.toLower_ne_of_beyond (kelvin ▸ (by decide : 128 ≤ '\u212a'.toNat))
      rw [if_neg long, if_pos kelvin]
      grind
    · rw [if_neg long, if_neg kelvin]
      grind

end Letters

/-! ## Phrases -/

/-- A word that stands as such between two further texts, in any letter case: no word character
comes directly before it or behind it. -/
structure StandsAsWord (word before spelled after : List Char) : Prop where
  spells : spelled.map folded = word
  starts : ∀ last ∈ before.getLast?, Text.isWordCharacter last = false
  ends : ∀ next ∈ after.head?, Text.isWordCharacter next = false

/-- A text with a word in it, behind which something holds of the text. -/
def WordThen (word : List Char) (follows : List Char → Prop) (text : List Char) : Prop :=
  ∃ before spelled after, text = before ++ spelled ++ after ∧
    StandsAsWord word before spelled after ∧ follows after

/-- A text of blanks only, possibly of none. -/
def AllBlank (text : List Char) : Prop := ∀ char ∈ text, Text.isBlank char = true

/-- A way to write what is always true. -/
inductive Truth : List Char → Prop where
  | digit : Truth ['1']
  | word {spelled : List Char} (spells : spelled.map folded = "true".toList) : Truth spelled

/-- A text that starts with at least one blank and an equation of two truths, which may have blanks
around its sign. -/
def StartsEquation (text : List Char) : Prop :=
  ∃ gap left before after right rest,
    text = gap ++ (left ++ (before ++ '=' :: (after ++ (right ++ rest)))) ∧
      gap ≠ [] ∧ AllBlank gap ∧ Truth left ∧ AllBlank before ∧ AllBlank after ∧ Truth right

/-- Whether a phrase of a signature stands anywhere in a text. -/
def OccursIn (signature : Signature) (text : List Char) : Prop :=
  match signature with
  | .inlineComment => ∃ mark ∈ ["--".toList, "#".toList, "/*".toList], mark <:+: text
  | .union => WordThen "union".toList (fun _ => True) text
  | .tautology => WordThen "or".toList StartsEquation text
  | .exec => WordThen "exec".toList (fun _ => True) text
  | .executeSql => WordThen "sp_executesql".toList (fun _ => True) text

/-! ## Words -/

/-- The spelling of a word is matched exactly at the start of the texts that start with it. -/
theorem afterLetters?_eq_some_iff {word text rest : List Char}
    (letters : IsPlainWord word) :
    afterLetters? word text = some rest ↔
      ∃ spelled, text = spelled ++ rest ∧ spelled.map folded = word := by
  induction word generalizing text with
  | nil => simp [afterLetters?, eq_comm]
  | cons small word ih =>
      rcases List.forall_mem_cons.1 letters with ⟨letter, lettersRest⟩
      cases text with
      | nil => simp [afterLetters?]
      | cons head tail =>
          simp only [afterLetters?, letter.isLetter_iff, Option.ite_none_right_eq_some,
            ih lettersRest]
          constructor
          · rintro ⟨matched, spelled, rfl, spells⟩
            exact ⟨head :: spelled, rfl, by rw [List.map_cons, matched, spells]⟩
          · rintro ⟨spelled, whole, spells⟩
            cases spelled with
            | nil => cases spells
            | cons first spelled =>
                rcases List.cons.inj whole with ⟨rfl, rfl⟩
                rcases List.cons.inj spells with ⟨matched, spellsRest⟩
                exact ⟨matched, spelled, rfl, spellsRest⟩

theorem continuesWord_eq_false_iff {text : List Char} :
    continuesWord text = false ↔ ∀ next ∈ text.head?, Text.isWordCharacter next = false := by
  cases text <;> simp [continuesWord]

theorem afterWord?_eq_some_iff {word text rest : List Char}
    (letters : IsPlainWord word) :
    afterWord? word text = some rest ↔
      ∃ spelled, text = spelled ++ rest ∧ spelled.map folded = word ∧
        ∀ next ∈ rest.head?, Text.isWordCharacter next = false := by
  simp only [afterWord?, Option.bind_eq_some_iff, afterLetters?_eq_some_iff letters,
    ← continuesWord_eq_false_iff]
  grind

/-- A test is tried at every place of a text behind which no word goes on. -/
theorem atWordStart_iff {test : List Char → Bool} {insideWord : Bool} {text : List Char} :
    atWordStart test insideWord text = true ↔
      ∃ before rest, text = before ++ rest ∧ rest ≠ [] ∧ test rest = true ∧
        (before = [] → insideWord = false) ∧
        ∀ last ∈ before.getLast?, Text.isWordCharacter last = false := by
  induction text generalizing insideWord with
  | nil => simp [atWordStart]
  | cons head tail ih =>
      simp only [atWordStart, Bool.or_eq_true, Bool.and_eq_true, Bool.not_eq_true', ih]
      constructor
      · rintro (⟨outside, passes⟩ | ⟨before, rest, rfl, notEnd, passes, first, last⟩)
        · exact ⟨[], head :: tail, rfl, by simp, passes, fun _ => outside, by simp⟩
        · refine ⟨head :: before, rest, rfl, notEnd, passes, nofun, ?_⟩
          cases before with
          | nil => simpa using first rfl
          | cons next before => simpa using last
      · rintro ⟨before, rest, whole, notEnd, passes, first, last⟩
        cases before with
        | nil => exact .inl ⟨first rfl, whole ▸ passes⟩
        | cons next before =>
            rcases List.cons.inj whole with ⟨rfl, rfl⟩
            refine .inr ⟨before, rest, rfl, notEnd, passes, ?_, ?_⟩
            · rintro rfl
              simpa using last
            · cases before with
              | nil => simp
              | cons second before => simpa using last

/-- Whole words are found wherever they stand. -/
theorem atWordStart_afterWord?_iff {word text : List Char} {follows : List Char → Bool}
    (letters : IsPlainWord word) (notEmpty : word ≠ []) :
    atWordStart (fun rest => (afterWord? word rest).any follows) false text = true ↔
      WordThen word (fun rest => follows rest = true) text := by
  simp only [atWordStart_iff, Option.any_eq_true, afterWord?_eq_some_iff letters, WordThen]
  constructor
  · rintro ⟨before, _, rfl, _, ⟨after, ⟨spelled, rfl, spells, ends⟩, follow⟩, _, starts⟩
    exact ⟨before, spelled, after, by simp, ⟨spells, starts, ends⟩, follow⟩
  · rintro ⟨before, spelled, after, rfl, ⟨spells, starts, ends⟩, follow⟩
    have spelledNotEmpty : spelled ≠ [] := by
      rintro rfl
      exact notEmpty spells.symm
    exact ⟨before, spelled ++ after, by simp, by simp [spelledNotEmpty],
      ⟨after, ⟨spelled, rfl, spells, ends⟩, follow⟩, fun _ => trivial, starts⟩

theorem wordOccurs_iff {word text : List Char} (letters : IsPlainWord word)
    (notEmpty : word ≠ []) :
    wordOccurs word text = true ↔ WordThen word (fun _ => True) text := by
  have found := @atWordStart_afterWord?_iff word text (fun _ => true) letters notEmpty
  simp only [Option.any_true] at found
  exact found

/-! ## Comments -/

theorem opensComment_iff {text : List Char} :
    opensComment text = true ↔ ∃ mark ∈ ["--".toList, "#".toList, "/*".toList], mark <+: text := by
  match text with
  | [] => simp [opensComment]
  | [only] =>
      simp only [opensComment]
      split <;> simp_all [eq_comm]
  | first :: second :: rest =>
      simp only [opensComment]
      split <;> simp_all [eq_comm]

theorem commentOccurs_iff {text : List Char} :
    commentOccurs text = true ↔ OccursIn .inlineComment text := by
  induction text with
  | nil => simp [commentOccurs, OccursIn]
  | cons head tail ih =>
      simp only [commentOccurs, Bool.or_eq_true, opensComment_iff, ih, OccursIn,
        List.infix_cons_iff]
      grind

/-! ## Equations -/

theorem exists_skipBlanks (text : List Char) :
    ∃ blanks, text = blanks ++ skipBlanks text ∧ AllBlank blanks :=
  ⟨text.takeWhile Text.isBlank, List.takeWhile_append_dropWhile.symm,
    List.all_eq_true.1 List.all_takeWhile⟩

theorem skipBlanks_append {blanks rest : List Char} (blank : AllBlank blanks)
    (visible : ∀ next ∈ rest.head?, Text.isBlank next = false) :
    skipBlanks (blanks ++ rest) = rest := by
  rw [skipBlanks, List.dropWhile_append_of_pos blank]
  cases rest with
  | nil => rfl
  | cons next rest => exact List.dropWhile_cons_of_neg (by simpa using visible)

/-- A truth starts with a digit or a letter. -/
theorem Truth.exists_cons {truth : List Char} (holds : Truth truth) :
    ∃ head tail, truth = head :: tail ∧ (head = '1' ∨ head = 't' ∨ head = 'T') := by
  cases holds with
  | digit => exact ⟨'1', [], rfl, .inl rfl⟩
  | word spells =>
      cases truth with
      | nil => cases spells
      | cons head tail =>
          have letter : IsPlainLetter 't' := by decide
          have matched := letter.isLetter_iff.2 (List.cons.inj spells).1
          exact ⟨head, tail, rfl, .inr (by simpa [isLetter] using matched)⟩

theorem Truth.visible {truth : List Char} (holds : Truth truth) (rest : List Char) :
    ∀ next ∈ (truth ++ rest).head?, Text.isBlank next = false := by
  rcases holds.exists_cons with ⟨head, tail, rfl, rfl | rfl | rfl⟩ <;> simp <;> decide

theorem afterTruth?_eq_some_iff {text rest : List Char} :
    afterTruth? text = some rest ↔ ∃ truth, text = truth ++ rest ∧ Truth truth := by
  have letters : IsPlainWord "true".toList := by decide
  unfold afterTruth?
  split
  · next tail =>
      constructor
      · rintro same
        exact ⟨['1'], congrArg _ (Option.some.inj same), .digit⟩
      · rintro ⟨truth, whole, holds⟩
        cases holds with
        | digit => simpa using whole
        | word spells =>
            cases truth with
            | nil => cases spells
            | cons head truth =>
                rcases List.cons.inj whole with ⟨rfl, _⟩
                exact absurd (List.cons.inj spells).1 (by decide)
  · next notDigit =>
      rw [afterLetters?_eq_some_iff letters]
      constructor
      · rintro ⟨truth, whole, spells⟩
        exact ⟨truth, whole, .word spells⟩
      · rintro ⟨truth, whole, holds⟩
        cases holds with
        | digit => exact absurd whole (notDigit rest)
        | word spells => exact ⟨truth, whole, spells⟩

/-- The search for an equation reads its pieces one after the other. -/
theorem truthEquationFollows_iff {text : List Char} :
    truthEquationFollows text = true ↔
      text.head?.any Text.isBlank = true ∧ ∃ behindLeft behindSign rest,
        afterTruth? (skipBlanks text) = some behindLeft ∧
          skipBlanks behindLeft = '=' :: behindSign ∧
            afterTruth? (skipBlanks behindSign) = some rest := by
  rw [truthEquationFollows, Bool.and_eq_true]
  refine and_congr_right fun _ => ?_
  rw [Option.any_eq_true]
  refine exists_congr fun behindLeft => ?_
  split
  · next behindSign sign => simp [sign, Option.isSome_iff_exists]
  · next noSign =>
      refine iff_of_false (by simp) ?_
      rintro ⟨behindSign, _, _, sign, _⟩
      exact noSign behindSign sign

theorem startsEquation_iff {text : List Char} :
    truthEquationFollows text = true ↔ StartsEquation text := by
  simp only [truthEquationFollows_iff, afterTruth?_eq_some_iff]
  constructor
  · rintro ⟨starts, behindLeft, behindSign, rest, ⟨left, left_eq, leftHolds⟩, sign,
      right, right_eq, rightHolds⟩
    rcases exists_skipBlanks text with ⟨gap, text_eq, gapBlank⟩
    rcases exists_skipBlanks behindLeft with ⟨before, before_eq, beforeBlank⟩
    rcases exists_skipBlanks behindSign with ⟨after, after_eq, afterBlank⟩
    refine ⟨gap, left, before, after, right, rest, ?_, ?_, gapBlank, leftHolds, beforeBlank,
      afterBlank, rightHolds⟩
    · rw [← right_eq, ← after_eq, ← sign, ← before_eq, ← left_eq, ← text_eq]
    · rintro rfl
      -- Without a gap the text starts with the truth, and so with no blank.
      rw [List.nil_append] at text_eq
      rw [text_eq, left_eq] at starts
      rcases leftHolds.exists_cons with ⟨head, tail, rfl, rfl | rfl | rfl⟩ <;> cases starts
  · rintro ⟨gap, left, before, after, right, rest, rfl, gapNotEmpty, gapBlank, leftHolds,
      beforeBlank, afterBlank, rightHolds⟩
    have signVisible : ∀ next ∈ ('=' :: (after ++ (right ++ rest))).head?,
        Text.isBlank next = false := by
      simp only [List.head?_cons, Option.mem_some_iff]
      rintro next rfl
      decide
    rw [skipBlanks_append gapBlank (leftHolds.visible _)]
    refine ⟨?_, _, _, rest, ⟨left, rfl, leftHolds⟩, skipBlanks_append beforeBlank signVisible,
      right, skipBlanks_append afterBlank (rightHolds.visible _), rightHolds⟩
    rcases List.exists_cons_of_ne_nil gapNotEmpty with ⟨blank, gapRest, rfl⟩
    exact gapBlank blank List.mem_cons_self

theorem occurs_iff {signature : Signature} {text : List Char} :
    signature.occurs text = true ↔ signature.OccursIn text := by
  cases signature with
  | inlineComment => exact commentOccurs_iff
  | union => exact wordOccurs_iff (by decide) (by decide)
  | exec => exact wordOccurs_iff (by decide) (by decide)
  | executeSql => exact wordOccurs_iff (by decide) (by decide)
  | tautology =>
      have found := @atWordStart_afterWord?_iff "or".toList text truthEquationFollows
        (by decide) (by decide)
      simp only [startsEquation_iff] at found
      exact found

end Signature

/-! ## The guard -/

namespace Guard

/-- Behind the scan for semicolons, the outcome is that of the search for a signature. -/
theorem validate_eq_of_unchained {sql : String} (unchained : .code ';' ∉ lex sql) :
    validate sql =
      match Signature.all.find? fun signature => signature.occurs sql.toList with
      | none => .ok ()
      | some signature => .error (.rejected (.suspect signature) sql) := by
  have clear : openSemicolon? sql = none := by
    rw [openSemicolon?_eq]
    exact codeSemicolonFrom?_eq_none_iff.2 unchained
  rw [validate, inspect?, clear]
  cases Signature.all.find? fun signature => signature.occurs sql.toList <;> rfl

end Guard

end RankedSql

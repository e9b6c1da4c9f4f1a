import Mathlib
import RankedSql.ColumnType
import RankedSql.Proofs.Phrases

/-!
# Names of column types

A column type is read from the first word of a declaration, in capitals. The spelling of a type that
was read so is such a word itself, and it names the type that it spells, whatever follows behind a
blank (`Canonical.ofDeclaration_append`). This holds of every type with a fixed word and of every
length (`canonical_of_not_custom`), and of a type under a name of its own as far as the name comes
from a word (`canonical_ofWord`).

A length is taken from a word exactly if its numeral denotes a number below `2 ^ 32`. Any other
word of that form names itself (`varcharLength?_of_spellsLength`).
-/

namespace RankedSql

namespace Text

/-- Blanks are no letters. -/
theorem isBlank_toUpper (char : Char) : isBlank char.toUpper = isBlank char := by
  by_cases letter : 97 ≤ char.toNat ∧ char.toNat ≤ 122
  · have capital : char.toUpper.toNat = char.toNat - 32 := by rw [toNat_toUpper, if_pos letter]
    have notBlank {other : Char} (low : 65 ≤ other.toNat) (high : other.toNat ≤ 122) :
        isBlank other = false := by
      simp only [isBlank, inRanges, blankRanges, List.any_cons, List.any_nil, Bool.or_false,
        Bool.or_eq_false_iff, Bool.and_eq_false_iff, decide_eq_false_iff_not]
      omega
    rw [notBlank (by omega) (by omega), notBlank (by omega) (by omega)]
  · have same : char.toUpper = char := by rw [← Char.toNat_inj, toNat_toUpper, if_neg letter]
    rw [same]

/-- Characters in front of the letters are the capitals of themselves only. -/
theorem eq_of_map_toUpper_eq {text marks : List Char} (low : ∀ mark ∈ marks, mark.toNat < 65)
    (same : text.map Char.toUpper = marks) : text = marks := by
  subst same
  suffices unchanged : ∀ char ∈ text, char.toUpper = char by
    rw [List.map_congr_left unchanged, List.map_id']
  intro char member
  have small := low char.toUpper (List.mem_map_of_mem member)
  rw [← Char.toNat_inj]
  rw [toNat_toUpper] at small ⊢
  split <;> split at small <;> omega

theorem map_toUpper_eq_self {text : List Char} (low : ∀ char ∈ text, char.toNat < 65) :
    text.map Char.toUpper = text := by
  have unchanged : ∀ char ∈ text, char.toUpper = char := by
    intro char member
    have small := low char member
    rw [← Char.toNat_inj, toNat_toUpper, if_neg (by omega)]
  rw [List.map_congr_left unchanged, List.map_id']

theorem firstWord_mem_words {text : List Char} {char : Char} (member : char ∈ text)
    (visible : isBlank char = false) : firstWord text ∈ words text := by
  rcases List.exists_cons_of_ne_nil (words_ne_nil member visible) with ⟨word, rest, words_eq⟩
  simp [firstWord, words_eq]

/-- A text without blanks is the first word of what it starts, up to a blank. -/
theorem firstWord_append {word : List Char} (notEmpty : word ≠ []) (visible : Visible word)
    {suffix : List Char} (gap : ∀ next ∈ suffix.head?, isBlank next = true) :
    firstWord (word ++ suffix) = word := by
  rw [firstWord, words_append gap, words_of_not_isBlank notEmpty visible]
  rfl

end Text

namespace ColumnType

/-- A type whose spelling is a word in capitals that names the type. -/
structure Canonical (type : ColumnType) : Prop where
  notEmpty : type.sql.toList ≠ []
  visible : Text.Visible type.sql.toList
  capital : type.sql.toList.map Char.toUpper = type.sql.toList
  named : ofWord type.sql = type

/-- The spelling of a canonical type declares it, whatever follows behind a blank. -/
theorem Canonical.ofDeclaration_append {type : ColumnType} (canonical : type.Canonical)
    {suffix : String} (gap : ∀ next ∈ suffix.toList.head?, Text.isBlank next = true) :
    ofDeclaration (type.sql ++ suffix) = type := by
  rw [ofDeclaration, String.toList_append,
    Text.firstWord_append canonical.notEmpty canonical.visible gap, Text.upperAscii,
    String.toList_ofList, canonical.capital, String.ofList_toList, canonical.named]

/-- No letter stands behind the opening bracket of a length. -/
theorem toNat_lt_of_mem_argument {plus digits : List Char} (sign : plus = [] ∨ plus = ['+'])
    (allDigits : digits.all Char.isDigit = true) :
    ∀ char ∈ plus ++ digits ++ [')'], char.toNat < 65 := by
  intro char member
  rw [List.mem_append, List.mem_append] at member
  rcases member with (inPlus | digit) | close
  · rcases sign with rfl | rfl
    · cases inPlus
    · exact List.mem_singleton.1 inPlus ▸ by decide
  · have bounds := Text.toNat_of_isDigit (List.all_eq_true.1 allDigits char digit)
    omega
  · exact List.mem_singleton.1 close ▸ by decide

theorem canonical_varchar (length : UInt32) : (ColumnType.varchar length).Canonical := by
  have spelled : (ColumnType.varchar length).sql.toList =
      "VARCHAR(".toList ++ (Nat.toDigits 10 length.toNat ++ [')']) := by
    simp [sql]
  have digits : ∀ char ∈ Nat.toDigits 10 length.toNat, char.isDigit = true :=
    fun _ member => Nat.isDigit_of_mem_toDigits (by decide) (by decide) member
  have stays : (Nat.toDigits 10 length.toNat ++ [')']).map Char.toUpper =
      Nat.toDigits 10 length.toNat ++ [')'] :=
    Text.map_toUpper_eq_self (toNat_lt_of_mem_argument (.inl rfl) (List.all_eq_true.2 digits))
  refine ⟨by simp [spelled], ?_, ?_, ?_⟩
  · intro char member
    rw [spelled, List.mem_append, List.mem_append] at member
    rcases member with name | digit | close
    · exact (by decide : Text.Visible "VARCHAR(".toList) char name
    · exact Text.not_isBlank_of_isDigit (digits char digit)
    · exact List.mem_singleton.1 close ▸ by decide
  · rw [spelled, List.map_append, stays]
    rfl
  · rw [ofWord, varcharLength?_sql]

/-- A type that has a fixed word or a length is canonical. -/
theorem canonical_of_not_custom {type : ColumnType} (fixed : ∀ name, type ≠ .custom name) :
    type.Canonical := by
  cases type with
  | varchar length => exact canonical_varchar length
  | custom name => exact absurd rfl (fixed name)
  | _ => exact ⟨by decide, by decide, by decide, by decide +kernel⟩

theorem mem_spellings_of_lookup {word : String} {type : ColumnType}
    (found : spellings.lookup word = some type) : (word, type) ∈ spellings := by
  rcases List.lookup_eq_some_iff.1 found with ⟨before, after, spellings_eq, _⟩
  exact spellings_eq ▸ List.mem_append_right before List.mem_cons_self

theorem not_custom_of_mem_spellings {entry : String × ColumnType} (member : entry ∈ spellings)
    (name : String) : entry.2 ≠ .custom name := by
  revert entry
  simp [spellings]

/-- A word in capitals names a canonical type. -/
theorem canonical_ofWord {word : String} (notEmpty : word.toList ≠ [])
    (visible : Text.Visible word.toList) (capital : word.toList.map Char.toUpper = word.toList) :
    (ofWord word).Canonical := by
  cases sized : varcharLength? word.toList with
  | some length =>
      rw [ofWord, sized]
      exact canonical_varchar length
  | none =>
      cases found : spellings.lookup word with
      | some type =>
          rw [ofWord, sized, found]
          exact canonical_of_not_custom
            (not_custom_of_mem_spellings (mem_spellings_of_lookup found))
      | none =>
          have itself : ofWord word = .custom word := by rw [ofWord, sized, found]; rfl
          rw [itself]
          exact ⟨notEmpty, visible, capital, itself⟩

/-- What a declaration with any word declares is canonical. -/
theorem canonical_ofDeclaration {declaration : String}
    (visible : ∃ char ∈ declaration.toList, Text.isBlank char = false) :
    (ofDeclaration declaration).Canonical := by
  rcases visible with ⟨char, member, visibleChar⟩
  rcases Text.not_isBlank_of_mem_words (Text.firstWord_mem_words member visibleChar) with
    ⟨notEmpty, visibleWord⟩
  apply canonical_ofWord
  · simpa using notEmpty
  · intro capital inside
    rw [Text.toList_upperAscii, String.toList_ofList] at inside
    rcases List.mem_map.1 inside with ⟨letter, letterInside, rfl⟩
    rw [Text.isBlank_toUpper]
    exact visibleWord letter letterInside
  · simp

/-! ## Lengths -/

/-- A word of the form `VARCHAR(n)`, in any ASCII case, where the numeral of a number may follow a
plus sign. -/
def SpellsLength (word : List Char) (number : Nat) : Prop :=
  ∃ name plus digits, word = name ++ plus ++ digits ++ [')'] ∧
    name.map Char.toUpper = "VARCHAR(".toList ∧ (plus = [] ∨ plus = ['+']) ∧ digits ≠ [] ∧
    digits.all Char.isDigit = true ∧ Nat.ofDigitChars 10 digits 0 = number

theorem withoutPlus_append {plus digits : List Char} (sign : plus = [] ∨ plus = ['+'])
    (allDigits : digits.all Char.isDigit = true) :
    Numeral.withoutPlus (plus ++ digits) = digits := by
  rcases sign with rfl | rfl
  · unfold Numeral.withoutPlus
    split
    · next rest signed =>
        rw [← List.nil_append digits, signed] at allDigits
        exact absurd allDigits (by simp [Char.isDigit])
    · rfl
  · rfl

theorem exists_withoutPlus (text : List Char) :
    ∃ plus, (plus = [] ∨ plus = ['+']) ∧ text = plus ++ Numeral.withoutPlus text := by
  unfold Numeral.withoutPlus
  split
  · exact ⟨['+'], .inr rfl, rfl⟩
  · exact ⟨[], .inl rfl, rfl⟩

/-- A length is read from a word of its form, unless it is too large. -/
theorem varcharLength?_of_spellsLength {word : List Char} {number : Nat}
    (spells : SpellsLength word number) :
    varcharLength? (word.map Char.toUpper) =
      if number < UInt32.size then some (UInt32.ofNat number) else none := by
  rcases spells with ⟨name, plus, digits, rfl, name_eq, sign, notEmpty, allDigits, rfl⟩
  have capitals : (name ++ plus ++ digits ++ [')']).map Char.toUpper =
      "VARCHAR(".toList ++ (plus ++ digits ++ [')']) := by
    rw [← name_eq, List.append_assoc, List.append_assoc, List.map_append, ← List.append_assoc plus,
      Text.map_toUpper_eq_self (toNat_lt_of_mem_argument sign allDigits)]
  have stripped := Text.stripStart?_eq_some_iff.2 capitals
  have read : Numeral.natural? digits = some (Nat.ofDigitChars 10 digits 0) := by
    simp [Numeral.natural?, notEmpty, allDigits]
  rw [varcharLength?, stripped, Option.bind_some, if_pos (by simp), List.dropLast_concat,
    Numeral.size?, withoutPlus_append sign allDigits, read, Option.bind_some]

theorem spellsLength_of_varcharLength? {word : List Char} {length : UInt32}
    (sized : varcharLength? (word.map Char.toUpper) = some length) :
    SpellsLength word length.toNat := by
  rcases Option.bind_eq_some_iff.1 sized with ⟨rest, stripped, read⟩
  rcases List.map_eq_append_iff.1 (Text.stripStart?_eq_some_iff.1 stripped) with
    ⟨name, argument, rfl, name_eq, argument_eq⟩
  split at read
  · next closed =>
      rcases List.getLast?_eq_some_iff.1 closed with ⟨numeral, rfl⟩
      rw [List.dropLast_concat] at read
      rcases Numeral.size?_eq_some_iff.1 read with ⟨notEmpty, allDigits, denotes⟩
      rcases exists_withoutPlus numeral with ⟨plus, sign, numeral_eq⟩
      have low := toNat_lt_of_mem_argument sign allDigits
      rw [← numeral_eq] at low
      refine ⟨name, plus, Numeral.withoutPlus numeral, ?_, name_eq, sign, notEmpty, allDigits,
        denotes⟩
      rw [Text.eq_of_map_toUpper_eq low argument_eq, List.append_assoc name, ← numeral_eq,
        List.append_assoc]
  · cases read

theorem toList_upperAscii_ofList (word : List Char) :
    (Text.upperAscii (String.ofList word)).toList = word.map Char.toUpper := by simp

/-- Only a word that holds a length names a type with a length. -/
theorem ofWord_eq_varchar_iff {word : String} {length : UInt32} :
    ofWord word = .varchar length ↔ varcharLength? word.toList = some length := by
  cases sized : varcharLength? word.toList with
  | some other => simp [ofWord, sized]
  | none =>
      have plain : (spellings.lookup word).getD (.custom word) ≠ .varchar length := by
        cases found : spellings.lookup word with
        | none => simp
        | some type =>
            have noLength : ∀ entry ∈ spellings, entry.2 ≠ .varchar length := by
              simp [spellings]
            exact noLength _ (mem_spellings_of_lookup found)
      simp [ofWord, sized, plain]

theorem ofDeclaration_eq_varchar_iff {declaration : String} {length : UInt32} :
    ofDeclaration declaration = .varchar length ↔
      SpellsLength (Text.firstWord declaration.toList) length.toNat := by
  rw [ofDeclaration, ofWord_eq_varchar_iff, toList_upperAscii_ofList]
  constructor
  · exact spellsLength_of_varcharLength?
  · intro spells
    have small : length.toNat < UInt32.size := length.toNat_lt
    rw [varcharLength?_of_spellsLength spells, if_pos small, UInt32.ofNat_toNat]

/-- A length that is too large is not cut down: its word names itself. -/
theorem ofDeclaration_of_oversized {declaration : String} {number : Nat}
    (spells : SpellsLength (Text.firstWord declaration.toList) number)
    (oversized : UInt32.size ≤ number) :
    ofDeclaration declaration =
      .custom (Text.upperAscii (String.ofList (Text.firstWord declaration.toList))) := by
  have noLength := varcharLength?_of_spellsLength spells
  rw [if_neg (Nat.not_lt.2 oversized), ← toList_upperAscii_ofList] at noLength
  have closed : ∀ entry ∈ spellings, entry.1.toList.getLast? ≠ some ')' := by decide
  rcases spells with ⟨name, plus, digits, word_eq, _⟩
  have ending :
      (Text.upperAscii (String.ofList (Text.firstWord declaration.toList))).toList.getLast? =
        some ')' := by
    rw [toList_upperAscii_ofList, word_eq, List.map_append, List.map_singleton,
      List.getLast?_concat]
    rfl
  rw [ofDeclaration, ofWord, noLength]
  cases found : spellings.lookup
      (Text.upperAscii (String.ofList (Text.firstWord declaration.toList))) with
  | none => rfl
  | some type =>
      have notClosed := closed _ (mem_spellings_of_lookup found)
      exact absurd ending notClosed

/-- What a declaration declares is declared again by its spelling, whatever follows behind a blank,
and a length is read exactly from the words that spell it. -/
theorem ofDeclaration_sql_canonical :
    (∀ declaration suffix : String, (∃ char ∈ declaration.toList, Text.isBlank char = false) →
      (∀ next ∈ suffix.toList.head?, Text.isBlank next = true) →
      ofDeclaration ((ofDeclaration declaration).sql ++ suffix) = ofDeclaration declaration) ∧
    (∀ type : ColumnType, (∀ name, type ≠ .custom name) → ofDeclaration type.sql = type) ∧
    (∀ declaration length, ofDeclaration declaration = .varchar length ↔
      SpellsLength (Text.firstWord declaration.toList) length.toNat) ∧
    ∀ declaration number, SpellsLength (Text.firstWord declaration.toList) number →
      UInt32.size ≤ number → ofDeclaration declaration =
        .custom (Text.upperAscii (String.ofList (Text.firstWord declaration.toList))) := by
  refine ⟨fun declaration suffix visible gap => ?_, fun type fixed => ?_,
    fun _ _ => ofDeclaration_eq_varchar_iff, fun _ _ => ofDeclaration_of_oversized⟩
  · exact (canonical_ofDeclaration visible).ofDeclaration_append gap
  · have alone : ofDeclaration (type.sql ++ "") = type :=
      (canonical_of_not_custom fixed).ofDeclaration_append (by simp)
    rwa [String.append_empty] at alone

theorem ofDeclaration_sql_canonical_of_signed_length :
    ofDeclaration ((ofDeclaration "varchar(+007)\tUNIQUE").sql ++ " NOT NULL") =
        ofDeclaration "varchar(+007)\tUNIQUE" ∧
      ofDeclaration (ColumnType.varchar 7).sql = .varchar 7 ∧
      SpellsLength "VarChar(4294967296)".toList 4294967296 ∧
      ofDeclaration "VarChar(4294967296) NOT NULL" =
        .custom (Text.upperAscii (String.ofList (Text.firstWord
          "VarChar(4294967296) NOT NULL".toList))) := by
  have first : Text.firstWord "VarChar(4294967296) NOT NULL".toList =
      "VarChar(4294967296)".toList := by decide +kernel
  have spells : SpellsLength "VarChar(4294967296)".toList 4294967296 :=
    ⟨"VarChar(".toList, [], "4294967296".toList, by decide, by decide, .inl rfl, by decide,
      by decide, by decide⟩
  have gap : ∀ next ∈ " NOT NULL".toList.head?, Text.isBlank next = true := by
    rintro next ⟨⟩
    decide
  rcases ofDeclaration_sql_canonical with ⟨again, fixed, _, oversized⟩
  exact ⟨again _ " NOT NULL" ⟨'v', by decide, by decide⟩ gap,
    fixed (.varchar 7) (by simp), spells,
    oversized _ 4294967296 (first ▸ spells) (by decide)⟩

end ColumnType

end RankedSql

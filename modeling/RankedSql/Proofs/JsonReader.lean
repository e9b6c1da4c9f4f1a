import RankedSql.Json
import RankedSql.Numeral
import RankedSql.Text.CharacterRange
import Mathlib.Data.List.TakeWhile

/-!
# Reading JSON

A reader of JSON documents. It accepts the whole language: blanks, the three constants, numbers with
fractions and exponents, texts with every escape, surrogate pairs among them, arrays and objects.

A text is first cut into lexemes, and then one lexeme after another is shifted onto a stack of the
arrays and objects that are open. So both halves of the reader consume what is left step by step,
and what it does on a text that was written can be followed value by value (`lexemesFrom_chars`,
`foldlM_lexemes`). Main statement: every value is read back from its compact spelling
(`read?_render`).
-/

namespace RankedSql.Json

/-- A JSON document. A number is a sign, digits, and the power of ten they are scaled by. -/
inductive Document where
  | null
  | bool (value : Bool)
  | number (negative : Bool) (digits : Nat) (exponent : Int)
  | text (content : String)
  | array (entries : List Document)
  | object (members : List (String × Document))

/-! ## Texts -/

/-- The number that a hexadecimal digit stands for. -/
def hexDigit? (char : Char) : Option Nat :=
  if '0' ≤ char ∧ char ≤ '9' then some (char.toNat - 48)
  else if 'a' ≤ char ∧ char ≤ 'f' then some (char.toNat - 87)
  else if 'A' ≤ char ∧ char ≤ 'F' then some (char.toNat - 55)
  else none

/-- The number that four hexadecimal digits stand for. -/
def unit? (first second third fourth : Char) : Option Nat := do
  let first ← hexDigit? first
  let second ← hexDigit? second
  let third ← hexDigit? third
  let fourth ← hexDigit? fourth
  return 4096 * first + 256 * second + 16 * third + fourth

/-- The characters that one letter behind a backslash stands for. -/
def escapes : List (Char × Char) :=
  [('"', '"'), ('\\', '\\'), ('/', '/'), ('b', '\x08'), ('f', '\x0c'), ('n', '\n'), ('r', '\r'),
    ('t', '\t')]

/-- The content that the body of a text stands for. A surrogate counts only as half of a pair, and
control characters do not stand for themselves. -/
def unescape? : List Char → Option (List Char)
  | [] => some []
  | '\\' :: 'u' :: first :: second :: third :: fourth :: rest =>
      match unit? first second third fourth with
      | none => none
      | some unit =>
          if 0xD800 ≤ unit ∧ unit < 0xDC00 then
            match rest with
            | '\\' :: 'u' :: fifth :: sixth :: seventh :: eighth :: after =>
                match unit? fifth sixth seventh eighth with
                | none => none
                | some low =>
                    if 0xDC00 ≤ low ∧ low < 0xE000 then
                      (unescape? after).map
                        (Char.ofNat (0x10000 + 0x400 * (unit - 0xD800) + (low - 0xDC00)) :: ·)
                    else none
            | _ => none
          else if 0xDC00 ≤ unit ∧ unit < 0xE000 then none
          else (unescape? rest).map (Char.ofNat unit :: ·)
  | '\\' :: letter :: rest =>
      (escapes.lookup letter).bind fun char => (unescape? rest).map (char :: ·)
  | char :: rest =>
      if char = '\\' ∨ char.toNat < 0x20 then none else (unescape? rest).map (char :: ·)

/-! ## Lexemes -/

/-- A piece of a document: a mark of its structure, a word (a constant or a number), or a text. -/
inductive Lexeme where
  | mark (char : Char)
  | word (chars : List Char)
  | text (content : String)

/-- The characters that may stand between lexemes. -/
def isSpace (char : Char) : Bool := char == ' ' || char == '\t' || char == '\n' || char == '\r'

/-- The marks that give a document its structure. -/
def isMark (char : Char) : Bool := "[]\x7b\x7d:,".toList.contains char

/-- Where a reader stands, with what it has read of a word or of the body of a text. -/
inductive Place where
  | between
  | word (chars : List Char)
  | text (body : List Char)

/-- The lexemes of what is left of a document. A text has to be closed. -/
def lexemesFrom : Place → List Char → Option (List Lexeme)
  | .between, [] => some []
  | .word chars, [] => some [.word chars]
  | .text _, [] => none
  | .between, head :: tail =>
      if isSpace head then lexemesFrom .between tail
      else if isMark head then (lexemesFrom .between tail).map (.mark head :: ·)
      else if head = '"' then lexemesFrom (.text []) tail
      else lexemesFrom (.word [head]) tail
  | .word chars, head :: tail =>
      if isSpace head then (lexemesFrom .between tail).map (.word chars :: ·)
      else if isMark head then
        (lexemesFrom .between tail).map fun lexemes => .word chars :: .mark head :: lexemes
      else if head = '"' then (lexemesFrom (.text []) tail).map (.word chars :: ·)
      else lexemesFrom (.word (chars ++ [head])) tail
  | .text body, head :: tail =>
      if head = '"' then
        (unescape? body).bind fun content =>
          (lexemesFrom .between tail).map (.text (String.ofList content) :: ·)
      else if head = '\\' then
        match tail with
        | [] => none
        | next :: rest => lexemesFrom (.text (body ++ [head, next])) rest
      else lexemesFrom (.text (body ++ [head])) tail

/-! ## Words -/

/-- The digits in front of a text, of which there has to be one at least, and what follows them. -/
def digits? (text : List Char) : Option (List Char × List Char) :=
  if (text.takeWhile Char.isDigit).isEmpty then none
  else some (text.takeWhile Char.isDigit, text.dropWhile Char.isDigit)

/-- The digits behind a point, if there is one, and what follows them. -/
def fraction? : List Char → Option (List Char × List Char)
  | '.' :: rest => digits? rest
  | rest => some ([], rest)

/-- The power of ten that ends a number. -/
def exponent? : List Char → Option Int
  | [] => some 0
  | mark :: rest =>
      if mark = 'e' ∨ mark = 'E' then
        match rest with
        | '-' :: digits => (Numeral.natural? digits).map fun number => -(number : Int)
        | _ => (Numeral.natural? (Numeral.withoutPlus rest)).map Int.ofNat
      else none

/-- The number that a word spells. No zero stands in front of other digits. -/
def number? (word : List Char) : Option Document := do
  let negative := word.head? == some '-'
  let (whole, rest) ← digits? (if negative then word.tail else word)
  if whole.head? = some '0' ∧ whole ≠ ['0'] then none
  let (fraction, rest) ← fraction? rest
  let exponent ← exponent? rest
  return .number negative (Nat.ofDigitChars 10 (whole ++ fraction) 0) (exponent - fraction.length)

/-- The constant or number that a word spells. -/
def scalar? (word : List Char) : Option Document :=
  if word = "null".toList then some .null
  else if word = "true".toList then some (.bool true)
  else if word = "false".toList then some (.bool false)
  else number? word

/-! ## Structure -/

/-- An array or an object that is open, with what stands in it so far. -/
inductive Open where
  | array (entries : List Document)
  | object (members : List (String × Document)) (name : String)

/-- What a reader expects next: a value, the first entry of an array or its end, the first name in
an object or its end, a further name, a colon, or what may follow a value. -/
inductive Stage where
  | value
  | entry
  | member
  | name (members : List (String × Document))
  | colon (members : List (String × Document)) (name : String)
  | after (value : Document)

/-- A reader: what is open, innermost first, and what comes next. -/
structure Reader where
  opened : List Open
  stage : Stage

namespace Reader

/-- A lexeme that starts a value. -/
def start (opened : List Open) : Lexeme → Option Reader
  | .text content => some ⟨opened, .after (.text content)⟩
  | .word chars => (scalar? chars).map fun value => ⟨opened, .after value⟩
  | .mark char =>
      if char = '[' then some ⟨opened, .entry⟩
      else if char = '\x7b' then some ⟨opened, .member⟩
      else none

/-- A mark behind a value, which belongs to the innermost array or object that is open. -/
def follow (value : Document) (char : Char) : List Open → Option Reader
  | [] => none
  | .array entries :: outer =>
      if char = ',' then some ⟨.array (entries ++ [value]) :: outer, .value⟩
      else if char = ']' then some ⟨outer, .after (.array (entries ++ [value]))⟩
      else none
  | .object members name :: outer =>
      if char = ',' then some ⟨outer, .name (members ++ [(name, value)])⟩
      else if char = '\x7d' then some ⟨outer, .after (.object (members ++ [(name, value)]))⟩
      else none

/-- Reads one lexeme. -/
def step (reader : Reader) (lexeme : Lexeme) : Option Reader :=
  match reader.stage, lexeme with
  | .value, lexeme => start reader.opened lexeme
  | .entry, .mark ']' => some ⟨reader.opened, .after (.array [])⟩
  | .entry, lexeme => start (.array [] :: reader.opened) lexeme
  | .member, .mark '\x7d' => some ⟨reader.opened, .after (.object [])⟩
  | .member, .text name => some ⟨reader.opened, .colon [] name⟩
  | .name members, .text name => some ⟨reader.opened, .colon members name⟩
  | .colon members name, .mark ':' => some ⟨.object members name :: reader.opened, .value⟩
  | .after value, .mark char => follow value char reader.opened
  | _, _ => none

/-- The document that was read, once nothing is open. -/
def document? : Reader → Option Document
  | ⟨[], .after value⟩ => some value
  | _ => none

end Reader

/-- The document that a text spells. -/
def read? (text : String) : Option Document := do
  let lexemes ← lexemesFrom .between text.toList
  let reader ← lexemes.foldlM Reader.step ⟨[], .value⟩
  reader.document?

/-! ## Texts that were written -/

/-- The ways in which a character stands in a text. -/
inductive Escaped (char : Char) : List Char → Prop where
  /-- A letter behind a backslash stands for the character. -/
  | letter {letter : Char} (stands : escapes.lookup letter = some char) :
      Escaped char ['\\', letter]
  /-- Any control character can be given by its number. -/
  | unit (control : char.toNat < 0x20) :
      Escaped char
        ['\\', 'u', '0', '0', (char.toNat / 16).digitChar, (char.toNat % 16).digitChar]
  /-- All other characters stand for themselves. -/
  | plain (notQuote : char ≠ '"') (notBackslash : char ≠ '\\') (printed : ¬char.toNat < 0x20) :
      Escaped char [char]

theorem escaped_escapedChar (char : Char) : Escaped char (escapedChar char) := by
  unfold escapedChar
  by_cases short : char ∈ ['"', '\\', '\x08', '\t', '\n', '\x0c', '\r']
  · simp only [List.mem_cons, List.not_mem_nil, or_false] at short
    rcases short with rfl | rfl | rfl | rfl | rfl | rfl | rfl <;> exact .letter (by decide)
  · simp only [List.mem_cons, List.not_mem_nil, or_false, not_or] at short
    rcases short with ⟨notQuote, notBackslash, backspace, tab, newline, formFeed, carriageReturn⟩
    simp only [notQuote, notBackslash, backspace, tab, newline, formFeed, carriageReturn, if_false]
    split
    · next control => exact .unit control
    · next printed => exact .plain notQuote notBackslash printed

theorem unit?_digitChar :
    ∀ high < 16, ∀ low < 16,
      unit? '0' '0' (Nat.digitChar high) (Nat.digitChar low) = some (16 * high + low) := by
  decide

/-- A written character is read back, whatever follows. -/
theorem unescape?_escapedChar (char : Char) (rest : List Char) :
    unescape? (escapedChar char ++ rest) = (unescape? rest).map (char :: ·) := by
  have escaped := escaped_escapedChar char
  generalize escapedChar char = written at escaped ⊢
  cases escaped with
  | @letter letter stands =>
      have notUnit : letter ≠ 'u' := by
        rintro rfl
        exact absurd stands (by simp [escapes, List.lookup_cons])
      simp [unescape?, notUnit, stands]
  | unit control =>
      have unit := unit?_digitChar (char.toNat / 16) (by omega) (char.toNat % 16) (by omega)
      have same : 16 * (char.toNat / 16) + char.toNat % 16 = char.toNat := by omega
      rw [same] at unit
      have noHigh : ¬(0xD800 ≤ char.toNat ∧ char.toNat < 0xDC00) := by omega
      have noLow : ¬(0xDC00 ≤ char.toNat ∧ char.toNat < 0xE000) := by omega
      simp only [List.cons_append, List.nil_append, unescape?, unit, noHigh, noLow, if_false,
        Char.ofNat_toNat]
  | plain _ notBackslash printed => simp [unescape?, notBackslash, printed]

theorem unescape?_flatMap_escapedChar (text : List Char) :
    unescape? (text.flatMap escapedChar) = some text := by
  induction text with
  | nil => rfl
  | cons head tail ih => rw [List.flatMap_cons, unescape?_escapedChar, ih, Option.map_some]

example :
    unescape? "\\ud83d\\uDE00\\/".toList = some ['😀', '/'] ∧
      unescape? "\\ud83d".toList = none := by
  decide +kernel

theorem lexemesFrom_text_char (body : List Char) {char : Char} (notQuote : char ≠ '"')
    (notBackslash : char ≠ '\\') (rest : List Char) :
    lexemesFrom (.text body) (char :: rest) = lexemesFrom (.text (body ++ [char])) rest := by
  rw [lexemesFrom.eq_def]
  simp [notQuote, notBackslash]

theorem lexemesFrom_text_backslash (body : List Char) (next : Char) (rest : List Char) :
    lexemesFrom (.text body) ('\\' :: next :: rest) =
      lexemesFrom (.text (body ++ ['\\', next])) rest := by
  simp [lexemesFrom]

/-- A written character neither ends the text that it stands in nor escapes what follows. -/
theorem lexemesFrom_escapedChar (body : List Char) (char : Char) (rest : List Char) :
    lexemesFrom (.text body) (escapedChar char ++ rest) =
      lexemesFrom (.text (body ++ escapedChar char)) rest := by
  have escaped := escaped_escapedChar char
  generalize escapedChar char = written at escaped ⊢
  cases escaped with
  | @letter letter => exact lexemesFrom_text_backslash body letter rest
  | unit control =>
      have digits : ∀ number < 16, Nat.digitChar number ≠ '"' ∧ Nat.digitChar number ≠ '\\' := by
        decide
      have zero : '0' ≠ '"' ∧ '0' ≠ '\\' := by decide
      have high := digits (char.toNat / 16) (by omega)
      have low := digits (char.toNat % 16) (by omega)
      simp only [List.cons_append, List.nil_append, lexemesFrom_text_backslash]
      rw [lexemesFrom_text_char _ zero.1 zero.2, lexemesFrom_text_char _ zero.1 zero.2,
        lexemesFrom_text_char _ high.1 high.2, lexemesFrom_text_char _ low.1 low.2]
      simp only [List.append_assoc, List.cons_append, List.nil_append]
  | plain notQuote notBackslash => exact lexemesFrom_text_char body notQuote notBackslash rest

theorem lexemesFrom_flatMap_escapedChar (body text rest : List Char) :
    lexemesFrom (.text body) (text.flatMap escapedChar ++ rest) =
      lexemesFrom (.text (body ++ text.flatMap escapedChar)) rest := by
  induction text generalizing body with
  | nil => simp
  | cons head tail ih =>
      rw [List.flatMap_cons, List.append_assoc, lexemesFrom_escapedChar, ih, List.append_assoc]

/-- A written text is read as one lexeme. -/
theorem lexemesFrom_textChars (text : String) (rest : List Char) :
    lexemesFrom .between (textChars text ++ rest) =
      (lexemesFrom .between rest).map (.text text :: ·) := by
  have opens : lexemesFrom .between (textChars text ++ rest) =
      lexemesFrom (.text []) (text.toList.flatMap escapedChar ++ '"' :: rest) := by
    simp [textChars, lexemesFrom, isSpace, isMark]
  rw [opens, lexemesFrom_flatMap_escapedChar, List.nil_append, lexemesFrom.eq_def]
  simp [unescape?_flatMap_escapedChar]

/-! ## Words that were written -/

/-- Whether a character belongs to a word wherever it stands. -/
def isPlain (char : Char) : Bool := !isSpace char && !isMark char && char != '"'

theorem isSpace_of_isMark {char : Char} (mark : isMark char = true) : isSpace char = false := by
  have table : "[]\x7b\x7d:,".toList.all (fun mark => !isSpace mark) = true := by decide
  simpa using List.all_eq_true.1 table char (List.contains_iff_mem.1 mark)

theorem lexemesFrom_between_mark {char : Char} (mark : isMark char = true) (rest : List Char) :
    lexemesFrom .between (char :: rest) = (lexemesFrom .between rest).map (.mark char :: ·) := by
  simp [lexemesFrom, isSpace_of_isMark mark, mark]

/-- A word ends at a mark or at the end of the document. -/
theorem lexemesFrom_word (chars : List Char) {rest : List Char}
    (stops : ∀ next ∈ rest.head?, isMark next = true) :
    lexemesFrom (.word chars) rest = (lexemesFrom .between rest).map (.word chars :: ·) := by
  cases rest with
  | nil => rfl
  | cons next after =>
      have mark : isMark next = true := stops next rfl
      rw [lexemesFrom_between_mark mark]
      simp [lexemesFrom, isSpace_of_isMark mark, mark, Function.comp_def]

theorem lexemesFrom_plain (chars : List Char) {word : List Char}
    (plain : ∀ char ∈ word, isPlain char = true) (rest : List Char) :
    lexemesFrom (.word chars) (word ++ rest) = lexemesFrom (.word (chars ++ word)) rest := by
  induction word generalizing chars with
  | nil => simp
  | cons head tail ih =>
      rcases List.forall_mem_cons.1 plain with ⟨plainHead, plainTail⟩
      have extends_ : lexemesFrom (.word chars) (head :: (tail ++ rest)) =
          lexemesFrom (.word (chars ++ [head])) (tail ++ rest) := by
        simp only [isPlain, Bool.and_eq_true, Bool.not_eq_true', bne_iff_ne] at plainHead
        simp [lexemesFrom, plainHead]
      rw [List.cons_append, extends_, ih _ plainTail, List.append_assoc, List.singleton_append]

/-- A word of plain characters is read as one lexeme. -/
theorem lexemesFrom_append_word {word : List Char} (notEmpty : word ≠ [])
    (plain : word.all isPlain = true) {rest : List Char}
    (stops : ∀ next ∈ rest.head?, isMark next = true) :
    lexemesFrom .between (word ++ rest) = (lexemesFrom .between rest).map (.word word :: ·) := by
  rcases List.exists_cons_of_ne_nil notEmpty with ⟨head, tail, rfl⟩
  rcases List.forall_mem_cons.1 (List.all_eq_true.1 plain) with ⟨plainHead, plainTail⟩
  have starts : lexemesFrom .between (head :: (tail ++ rest)) =
      lexemesFrom (.word [head]) (tail ++ rest) := by
    simp only [isPlain, Bool.and_eq_true, Bool.not_eq_true', bne_iff_ne] at plainHead
    simp [lexemesFrom, plainHead]
  rw [List.cons_append, starts, lexemesFrom_plain [head] plainTail, List.singleton_append,
    lexemesFrom_word _ stops]

theorem isPlain_of_isDigit {char : Char} (digit : char.isDigit = true) : isPlain char = true := by
  have bounds := Text.toNat_of_isDigit digit
  simp [isPlain, isSpace, isMark, ← Char.toNat_inj]
  omega

/-- A number is written without zeros in front. -/
theorem head?_toDigits {number : Nat} (positive : 0 < number) :
    (Nat.toDigits 10 number).head? ≠ some '0' := by
  induction number using Nat.strongRecOn with
  | ind number ih =>
      by_cases small : number < 10
      · have notZero : ∀ digit < 10, 0 < digit → Nat.digitChar digit ≠ '0' := by decide
        rw [Nat.toDigits_of_lt_base small]
        simpa using notZero number small positive
      · have shorter := ih (number / 10) (by omega) (by omega)
        rw [Nat.toDigits_of_base_le (by decide) (by omega), List.head?_append]
        cases front : (Nat.toDigits 10 (number / 10)).head? with
        | none => simp [Nat.toDigits_ne_nil] at front
        | some digit => simpa [front] using shorter

theorem number?_toDigits (number : Nat) :
    number? (Nat.toDigits 10 number) = some (.number false number 0) := by
  have allDigits : ∀ char ∈ Nat.toDigits 10 number, char.isDigit = true := fun _ member =>
    Nat.isDigit_of_mem_toDigits (by decide) (by decide) member
  have unsigned : ((Nat.toDigits 10 number).head? == some '-') = false := by
    rw [beq_eq_false_iff_ne]
    intro signed
    exact absurd (allDigits '-' (List.mem_of_head? signed)) (by decide)
  have taken : (Nat.toDigits 10 number).takeWhile Char.isDigit = Nat.toDigits 10 number := by
    exact List.takeWhile_eq_self_iff.2 allDigits
  have dropped : (Nat.toDigits 10 number).dropWhile Char.isDigit = [] := by
    exact List.dropWhile_eq_nil_iff.2 allDigits
  have digits : digits? (Nat.toDigits 10 number) = some (Nat.toDigits 10 number, []) := by
    rw [digits?, taken, dropped, if_neg (by simp)]
  have noZero : ¬((Nat.toDigits 10 number).head? = some '0' ∧ Nat.toDigits 10 number ≠ ['0']) := by
    rcases Nat.eq_zero_or_pos number with rfl | positive
    · simp
    · exact fun leading => head?_toDigits positive leading.1
  simp [number?, unsigned, digits, noZero, fraction?, exponent?]

theorem scalar?_toDigits (number : Nat) :
    scalar? (Nat.toDigits 10 number) = some (.number false number 0) := by
  have notConstant {word : List Char} {char : Char} (member : char ∈ word)
      (letter : char.isDigit = false) : Nat.toDigits 10 number ≠ word := by
    rintro rfl
    rw [Nat.isDigit_of_mem_toDigits (by decide) (by decide) member] at letter
    cases letter
  rw [scalar?, if_neg (notConstant (by decide : 'n' ∈ _) (by decide)),
    if_neg (notConstant (by decide : 't' ∈ _) (by decide)),
    if_neg (notConstant (by decide : 'f' ∈ _) (by decide)), number?_toDigits]

/-! ## Values that were written -/

mutual

/-- The document that a value is written as. -/
def document : Json → Document
  | .bool value => .bool value
  | .number value => .number false value 0
  | .text value => .text value
  | .object members => .object (memberDocuments members)

/-- The documents of the members of an object. -/
def memberDocuments : List (String × Json) → List (String × Document)
  | [] => []
  | (name, value) :: rest => (name, value.document) :: memberDocuments rest

end

theorem memberDocuments_eq_map (members : List (String × Json)) :
    memberDocuments members = members.map fun member => (member.1, member.2.document) := by
  induction members with
  | nil => rfl
  | cons member rest ih => simp [memberDocuments, ih]

mutual

/-- The lexemes of the compact spelling of a value. -/
def lexemes : Json → List Lexeme
  | .bool true => [.word "true".toList]
  | .bool false => [.word "false".toList]
  | .number value => [.word (Nat.toDigits 10 value)]
  | .text value => [.text value]
  | .object members => .mark '\x7b' :: (memberLexemes members ++ [.mark '\x7d'])

/-- The lexemes of the members of an object, with commas between them. -/
def memberLexemes : List (String × Json) → List Lexeme
  | [] => []
  | [(name, value)] => .text name :: .mark ':' :: value.lexemes
  | (name, value) :: next :: rest =>
      .text name :: .mark ':' :: (value.lexemes ++ .mark ',' :: memberLexemes (next :: rest))

end

mutual

/-- The compact spelling of a value is cut into its lexemes where a mark or nothing follows. -/
theorem lexemesFrom_chars (value : Json) {rest : List Char}
    (stops : ∀ next ∈ rest.head?, isMark next = true) :
    lexemesFrom .between (value.chars ++ rest) =
      (lexemesFrom .between rest).map (value.lexemes ++ ·) := by
  match value with
  | .bool true => exact lexemesFrom_append_word (by decide) (by decide) stops
  | .bool false => exact lexemesFrom_append_word (by decide) (by decide) stops
  | .number digits =>
      refine lexemesFrom_append_word Nat.toDigits_ne_nil (List.all_eq_true.2 ?_) stops
      intro char member
      exact isPlain_of_isDigit (Nat.isDigit_of_mem_toDigits (by decide) (by decide) member)
  | .text content => exact lexemesFrom_textChars content rest
  | .object members =>
      have opens : (Json.object members).chars ++ rest =
          '\x7b' :: (memberChars members ++ '\x7d' :: rest) := by simp [chars]
      rw [opens, lexemesFrom_between_mark (by decide), lexemesFrom_memberChars members,
        lexemesFrom_between_mark (by decide)]
      simp [lexemes, Function.comp_def]

theorem lexemesFrom_memberChars (members : List (String × Json)) {rest : List Char} :
    lexemesFrom .between (memberChars members ++ '\x7d' :: rest) =
      (lexemesFrom .between ('\x7d' :: rest)).map (memberLexemes members ++ ·) := by
  match members with
  | [] => simp [memberChars, memberLexemes]
  | [(name, value)] =>
      simp only [memberChars, List.append_assoc, List.cons_append, lexemesFrom_textChars]
      rw [lexemesFrom_between_mark (by decide), lexemesFrom_chars value (by simp [isMark])]
      simp [memberLexemes, Function.comp_def]
  | (name, value) :: next :: more =>
      simp only [memberChars, List.append_assoc, List.cons_append, lexemesFrom_textChars]
      rw [lexemesFrom_between_mark (by decide), lexemesFrom_chars value (by simp [isMark]),
        lexemesFrom_between_mark (by decide), lexemesFrom_memberChars (next :: more)]
      simp [memberLexemes, Function.comp_def]

end

namespace Reader

section Steps

variable (opened : List Open) (members : List (String × Document)) (name : String)
  (value : Document)

@[simp]
theorem step_open : step ⟨opened, .value⟩ (.mark '\x7b') = some ⟨opened, .member⟩ := rfl

@[simp]
theorem step_member : step ⟨opened, .member⟩ (.text name) = some ⟨opened, .colon [] name⟩ := rfl

@[simp]
theorem step_name :
    step ⟨opened, .name members⟩ (.text name) = some ⟨opened, .colon members name⟩ := rfl

@[simp]
theorem step_colon :
    step ⟨opened, .colon members name⟩ (.mark ':') =
      some ⟨.object members name :: opened, .value⟩ := rfl

@[simp]
theorem step_comma :
    step ⟨.object members name :: opened, .after value⟩ (.mark ',') =
      some ⟨opened, .name (members ++ [(name, value)])⟩ := rfl

@[simp]
theorem step_close :
    step ⟨.object members name :: opened, .after value⟩ (.mark '\x7d') =
      some ⟨opened, .after (.object (members ++ [(name, value)]))⟩ := rfl

end Steps

mutual

/-- Where a value is expected, the lexemes of one are read as the value. -/
theorem foldlM_lexemes (opened : List Open) (value : Json) :
    value.lexemes.foldlM step ⟨opened, .value⟩ = some ⟨opened, .after value.document⟩ := by
  match value with
  | .bool true => rfl
  | .bool false => rfl
  | .number digits => simp [lexemes, step, start, scalar?_toDigits, document]
  | .text content => rfl
  | .object [] => rfl
  | .object (member :: rest) =>
      have members := foldlM_memberLexemes opened [] (member :: rest) (List.cons_ne_nil member rest)
      -- The first name is read at another stage than the others, but to the same effect.
      have first : (memberLexemes (member :: rest) ++ [Lexeme.mark '\x7d']).foldlM step
          ⟨opened, .member⟩ =
          (memberLexemes (member :: rest) ++ [Lexeme.mark '\x7d']).foldlM step
            ⟨opened, .name []⟩ := by
        cases rest <;> simp [memberLexemes]
      rw [lexemes, List.foldlM_cons, step_open]
      exact first.trans members

/-- Where a name is expected, the lexemes of members are read as the rest of an object. -/
theorem foldlM_memberLexemes (opened : List Open) (before : List (String × Document))
    (members : List (String × Json)) (notEmpty : members ≠ []) :
    (memberLexemes members ++ [Lexeme.mark '\x7d']).foldlM step ⟨opened, .name before⟩ =
      some ⟨opened, .after (.object (before ++ memberDocuments members))⟩ := by
  match members with
  | [] => exact absurd rfl notEmpty
  | [(name, value)] =>
      have read := foldlM_lexemes (.object before name :: opened) value
      simp [memberLexemes, List.foldlM_append, read, memberDocuments]
  | (name, value) :: next :: more =>
      have read := foldlM_lexemes (.object before name :: opened) value
      have others := foldlM_memberLexemes opened (before ++ [(name, value.document)])
        (next :: more) (List.cons_ne_nil next more)
      rw [List.append_assoc] at others
      simpa [memberLexemes, List.foldlM_append, read, memberDocuments] using others

end

end Reader

/-- Every value is read back from its compact spelling. -/
theorem read?_render (value : Json) : read? value.render = some value.document := by
  have lexemes_eq : lexemesFrom .between value.chars = some value.lexemes := by
    have alone : lexemesFrom .between (value.chars ++ []) =
        (lexemesFrom .between []).map (value.lexemes ++ ·) := lexemesFrom_chars value (by simp)
    simpa [lexemesFrom] using alone
  simp [read?, render, lexemes_eq, Reader.foldlM_lexemes, Reader.document?]

end RankedSql.Json

import Mathlib.Data.List.Forall2
import RankedSql.Proofs.Lexer
import RankedSql.Value

/-!
# Sealed texts

A text is plain when it has neither quotation marks nor semicolons, and sealed when all its literals
are closed and no semicolon is code. Sealed texts are what a statement is put together from: where
plain text stands between them, the tokens of the whole are the tokens of the pieces.

Two sealed texts are alike when they differ at most inside their literals. The written forms of a
value are sealed, hold the text that the value stands for and nothing else, and stay alike when a
text is replaced by any other.
-/

namespace RankedSql

/-- A text without quotation marks and semicolons. -/
def Plain (text : String) : Prop :=
  ∀ char ∈ text.toList, char ≠ '\'' ∧ char ≠ '"' ∧ char ≠ ';'

instance (text : String) : Decidable (Plain text) := List.decidableBAll _ text.toList

/-- A text of digits, points and signs. -/
def NumberText (text : String) : Prop :=
  ∀ char ∈ text.toList, char.isDigit = true ∨ char = '.' ∨ char = '-'

/-- Whether a token neither runs into the end of the text nor chains a statement. -/
def Token.isSealed : Token → Bool
  | .code char => char != ';'
  | .enclosed _ _ closed => closed
  | .comment _ => true

/-- A text with closed literals and no semicolon in code. -/
def Sealed (text : String) : Prop := ∀ token ∈ lex text, token.isSealed = true

/-- The tokens of a text without what its literals hold. -/
def outline (text : String) : List Token := (lex text).map Token.hollow

/-- What the literals of a text stand for, in order. -/
def contents (text : String) : List String := (lex text).filterMap Token.content?

/-- Two sealed texts that differ at most inside their literals. -/
structure Alike (left right : String) : Prop where
  sealed : Sealed left
  outline_eq : outline left = outline right

/-! ## Tokens of composed texts -/

theorem plain_append {left right : String} : Plain (left ++ right) ↔ Plain left ∧ Plain right := by
  simp only [Plain, String.toList_append, List.mem_append]
  grind

theorem Plain.append {left right : String} (plainLeft : Plain left) (plainRight : Plain right) :
    Plain (left ++ right) :=
  plain_append.2 ⟨plainLeft, plainRight⟩

theorem Plain.enclosure?_eq_none {text : String} (plain : Plain text) {char : Char}
    (member : char ∈ text.toList) : (Dialect.literals false).enclosure? char = none := by
  rcases plain char member with ⟨notSingle, notDouble, _⟩
  exact Dialect.enclosure?_literals_eq_none_iff.2 ⟨notSingle, notDouble⟩

theorem Token.isComplete_of_isSealed {token : Token} (sealed : token.isSealed = true) :
    token.isComplete = true := by
  cases token <;> simp_all [isSealed, isComplete]

theorem lexFrom_code_append {text rest : List Char}
    (plain : ∀ char ∈ text, (Dialect.literals false).enclosure? char = none) :
    lexFrom (.literals false) .code (text ++ rest) =
      text.map Token.code ++ lexFrom (.literals false) .code rest := by
  induction text with
  | nil => rfl
  | cons head tail ih =>
      rw [List.cons_append, lexFrom_code_char rfl (plain head List.mem_cons_self),
        ih fun char member => plain char (List.mem_cons_of_mem _ member)]
      rfl

theorem Plain.lex_append {left : String} (plain : Plain left) (right : String) :
    lex (left ++ right) = left.toList.map Token.code ++ lex right := by
  rw [lex, String.toList_append,
    lexFrom_code_append fun _ member => plain.enclosure?_eq_none member]
  rfl

theorem Plain.lex_eq {text : String} (plain : Plain text) :
    lex text = text.toList.map Token.code := by
  simpa [lex, lexFrom] using plain.lex_append ""

theorem Sealed.lex_append {left right : String} (sealed : Sealed left)
    (codeFollows : ∀ next ∈ right.toList.head?, (Dialect.literals false).enclosure? next = none) :
    lex (left ++ right) = lex left ++ lex right := by
  rw [lex, String.toList_append]
  refine lexFrom_append rfl trivial ?_ codeFollows
  intro token member
  exact Token.isComplete_of_isSealed (sealed token member)

/-- A written literal is read as one. -/
theorem lex_quoted_opening {enclosure : Enclosure}
    (known : enclosure ∈ (Dialect.literals false).enclosures) (text : String) :
    lex (Text.quoted enclosure.opening text) = [.enclosed enclosure text.toList true] := by
  have doubles := Dialect.doubles_of_mem_literals known
  have read := @lexFrom_doubled (.literals false) enclosure [] [] text.toList doubles (by simp)
  rw [Enclosure.closing_eq_opening doubles] at read
  simpa [lex, lexFrom_code_opening (Dialect.enclosure?_opening known), lexFrom] using read

theorem lex_quoted (text : String) :
    lex (Text.quoted '"' text) = [.enclosed .double text.toList true] :=
  @lex_quoted_opening .double (by simp [Dialect.literals]) text

theorem Plain.startsInCode {text : String} (plain : Plain text) :
    ∀ next ∈ text.toList.head?, (Dialect.literals false).enclosure? next = none :=
  fun _ follows => plain.enclosure?_eq_none (List.mem_of_mem_head? follows)

theorem Plain.codeFollows {left right : String} (plain : Plain left) (notEmpty : left ≠ "") :
    ∀ next ∈ (left ++ right).toList.head?, (Dialect.literals false).enclosure? next = none := by
  intro next follows
  apply plain.enclosure?_eq_none
  cases chars : left.toList with
  | nil => simp_all
  | cons head tail => simp_all

/-! ## Plain texts -/

theorem Plain.sealed {text : String} (plain : Plain text) : Sealed text := by
  intro token member
  rw [plain.lex_eq] at member
  rcases List.mem_map.1 member with ⟨char, charMember, rfl⟩
  simp [Token.isSealed, (plain char charMember).2.2]

theorem Plain.contents_eq {text : String} (plain : Plain text) : contents text = [] := by
  simp [contents, plain.lex_eq, Token.content?]

theorem Plain.alike {text : String} (plain : Plain text) : Alike text text :=
  ⟨plain.sealed, rfl⟩

theorem Plain.joinWith {separator : String} {texts : List String} (plain : Plain separator)
    (plainTexts : ∀ text ∈ texts, Plain text) : Plain (Text.joinWith separator texts) := by
  fun_induction Text.joinWith separator texts with
  | case1 => simp [Plain]
  | case2 only => exact plainTexts only (by simp)
  | case3 first second rest ih =>
      refine ((plainTexts first (by simp)).append plain).append (ih ?_)
      exact fun text member => plainTexts text (List.mem_cons_of_mem _ member)

theorem NumberText.plain {text : String} (number : NumberText text) : Plain text := by
  intro char member
  refine ⟨?_, ?_, ?_⟩ <;>
    · rintro rfl
      simpa using number _ member

theorem numberText_natRepr (number : Nat) : NumberText number.repr := by
  intro char member
  have digits : char ∈ Nat.toDigits 10 number := by simpa using member
  exact Or.inl (Nat.isDigit_of_mem_toDigits (by decide) (by decide) digits)

theorem numberText_intRepr (number : Int) : NumberText number.repr := by
  cases number with
  | ofNat number => exact numberText_natRepr number
  | negSucc number =>
      intro char member
      have split : (Int.negSucc number).repr = "-" ++ (number + 1).repr := rfl
      rw [split, String.toList_append] at member
      rcases List.mem_append.1 member with sign | digits
      · exact Or.inr (Or.inr (List.mem_singleton.1 sign))
      · exact numberText_natRepr (number + 1) char digits

theorem numberText_floatText {value : Float} {text : String}
    (written : Value.floatText? value = some text) : NumberText text := by
  rcases Option.map_eq_some_iff.1 written with ⟨number, _, rfl⟩
  exact fun char member => Binary64.plain_of_mem_text member

/-! ## Sealed texts -/

theorem sealed_iff_outline {text : String} :
    Sealed text ↔ ∀ token ∈ outline text, token.isSealed = true := by
  have unchanged (token : Token) : token.hollow.isSealed = token.isSealed := by cases token <;> rfl
  simp [Sealed, outline, unchanged]

theorem Alike.sealed_right {left right : String} (alike : Alike left right) : Sealed right := by
  rw [sealed_iff_outline, ← alike.outline_eq]
  exact sealed_iff_outline.1 alike.sealed

theorem alike_quoted (left right : String) :
    Alike (Text.quoted '"' left) (Text.quoted '"' right) := by
  refine ⟨?_, ?_⟩
  · simp [Sealed, lex_quoted, Token.isSealed]
  · simp [outline, lex_quoted, Token.hollow]

theorem contents_quoted (text : String) : contents (Text.quoted '"' text) = [text] := by
  simp [contents, lex_quoted, Token.content?]

theorem Sealed.append {left right : String} (sealedLeft : Sealed left) (sealedRight : Sealed right)
    (codeFollows : ∀ next ∈ right.toList.head?, (Dialect.literals false).enclosure? next = none) :
    Sealed (left ++ right) := by
  intro token member
  rw [sealedLeft.lex_append codeFollows] at member
  rcases List.mem_append.1 member with first | second
  · exact sealedLeft token first
  · exact sealedRight token second

theorem Sealed.contents_append {left right : String} (sealed : Sealed left)
    (codeFollows : ∀ next ∈ right.toList.head?, (Dialect.literals false).enclosure? next = none) :
    contents (left ++ right) = contents left ++ contents right := by
  simp [contents, sealed.lex_append codeFollows]

theorem Plain.contents_append {left : String} (plain : Plain left) (right : String) :
    contents (left ++ right) = contents right := by
  simp [contents, plain.lex_append, Token.content?]

theorem Sealed.contents_append_plain {left right : String} (sealed : Sealed left)
    (plain : Plain right) : contents (left ++ right) = contents left := by
  rw [sealed.contents_append plain.startsInCode, plain.contents_eq, List.append_nil]

theorem Plain.outline_append {left : String} (plain : Plain left) (right : String) :
    outline (left ++ right) = left.toList.map Token.code ++ outline right := by
  simp [outline, plain.lex_append, Token.hollow]

/-- Plain text can be put in front of anything. -/
theorem Alike.plain_append {text left right : String} (plain : Plain text)
    (alike : Alike left right) : Alike (text ++ left) (text ++ right) := by
  refine ⟨?_, ?_⟩
  · intro token member
    rw [plain.lex_append] at member
    rcases List.mem_append.1 member with code | rest
    · exact plain.sealed token (plain.lex_eq ▸ code)
    · exact alike.sealed token rest
  · rw [plain.outline_append, plain.outline_append, alike.outline_eq]

theorem Alike.append {left right leftNext rightNext : String} (alike : Alike left right)
    (alikeNext : Alike leftNext rightNext)
    (codeFollows : ∀ next ∈ leftNext.toList.head?, (Dialect.literals false).enclosure? next = none)
    (codeFollowsRight :
      ∀ next ∈ rightNext.toList.head?, (Dialect.literals false).enclosure? next = none) :
    Alike (left ++ leftNext) (right ++ rightNext) := by
  refine ⟨alike.sealed.append alikeNext.sealed codeFollows, ?_⟩
  have outlines : outline left ++ outline leftNext = outline right ++ outline rightNext := by
    rw [alike.outline_eq, alikeNext.outline_eq]
  simpa [outline, alike.sealed.lex_append codeFollows,
    alike.sealed_right.lex_append codeFollowsRight] using outlines

theorem Alike.append_plain {text left right : String} (alike : Alike left right)
    (plain : Plain text) : Alike (left ++ text) (right ++ text) :=
  alike.append plain.alike plain.startsInCode plain.startsInCode

theorem Alike.joinWith {separator : String} {left right : List String} (plain : Plain separator)
    (notEmpty : separator ≠ "") (alike : List.Forall₂ Alike left right) :
    Alike (Text.joinWith separator left) (Text.joinWith separator right) := by
  induction alike with
  | nil => exact (show Plain "" by decide).alike
  | @cons first firstRight rest restRight head tail ih =>
      cases tail with
      | nil => exact head
      | cons second tail =>
          rw [Text.joinWith_cons_cons, Text.joinWith_cons_cons, String.append_assoc,
            String.append_assoc]
          exact head.append (ih.plain_append plain) (plain.codeFollows notEmpty)
            (plain.codeFollows notEmpty)

theorem sealed_of_forall₂_alike {left right : List String} (alike : List.Forall₂ Alike left right) :
    ∀ text ∈ left, Sealed text := by
  induction alike with
  | nil => simp
  | cons head _ ih => exact List.forall_mem_cons.2 ⟨head.sealed, ih⟩

theorem contents_joinWith {separator : String} {texts : List String} (plain : Plain separator)
    (notEmpty : separator ≠ "") (sealed : ∀ text ∈ texts, Sealed text) :
    contents (Text.joinWith separator texts) = texts.flatMap contents := by
  fun_induction Text.joinWith separator texts with
  | case1 => rfl
  | case2 only => simp
  | case3 first second rest ih =>
      rw [String.append_assoc, (sealed first (by simp)).contents_append
        (plain.codeFollows notEmpty), plain.contents_append,
        ih fun text member => sealed text (List.mem_cons_of_mem _ member)]
      rfl

/-! ## Written values -/

namespace Value

/-- The text that a literal in a condition stands for, if the value is written as one. -/
def inlineText? : Value → Option String
  | .text value => some value
  | .instant value => some value.rfc3339
  | _ => none

/-- The text that a stored literal stands for, if the value is stored as one. -/
def storedText? (value : Value) (type : Option ColumnType) : Option String :=
  match value with
  | .text value => some value
  | .instant value => some (instantText value type)
  | _ => none

/-- Two values of which one is the other, or both are texts. -/
inductive Retexted : Value → Value → Prop where
  | same (value : Value) : Retexted value value
  | text (left right : String) : Retexted (.text left) (.text right)

theorem inline_eq (value : Value) :
    (∃ text, value.inlineText? = some text ∧ value.inline = Text.quoted '"' text) ∨
      (value.inlineText? = none ∧ Plain value.inline) := by
  cases value with
  | null => exact Or.inr ⟨rfl, by decide⟩
  | bool value => cases value <;> exact Or.inr ⟨rfl, by decide⟩
  | int value => exact Or.inr ⟨rfl, (numberText_intRepr value).plain⟩
  | float value =>
      refine Or.inr ⟨rfl, ?_⟩
      change Plain ((floatText? value).getD "NULL")
      cases written : floatText? value with
      | none => exact (by decide : Plain "NULL")
      | some text => exact (numberText_floatText written).plain
  | text value => exact Or.inl ⟨value, rfl, rfl⟩
  | instant value => exact Or.inl ⟨value.rfc3339, rfl, rfl⟩

theorem stored_eq (value : Value) (type : Option ColumnType) :
    (∃ text, value.storedText? type = some text ∧ value.stored type = Text.quoted '"' text) ∨
      (value.storedText? type = none ∧ Plain (value.stored type)) := by
  cases value with
  | bool value =>
      cases value with
      | false => exact Or.inr ⟨rfl, (by decide : Plain "0")⟩
      | true => exact Or.inr ⟨rfl, (by decide : Plain "1")⟩
  | instant value => exact Or.inl ⟨instantText value type, rfl, rfl⟩
  | null => exact inline_eq .null
  | int value => exact inline_eq (.int value)
  | float value => exact inline_eq (.float value)
  | text value => exact inline_eq (.text value)

theorem contents_inline (value : Value) : contents value.inline = value.inlineText?.toList := by
  rcases value.inline_eq with ⟨text, held, written⟩ | ⟨held, plain⟩
  · rw [held, written, contents_quoted]
    rfl
  · rw [held, plain.contents_eq]
    rfl

theorem contents_stored (value : Value) (type : Option ColumnType) :
    contents (value.stored type) = (value.storedText? type).toList := by
  rcases value.stored_eq type with ⟨text, held, written⟩ | ⟨held, plain⟩
  · rw [held, written, contents_quoted]
    rfl
  · rw [held, plain.contents_eq]
    rfl

theorem Retexted.alike_inline {left right : Value} (retexted : Retexted left right) :
    Alike left.inline right.inline := by
  cases retexted with
  | same =>
      rcases left.inline_eq with ⟨text, _, written⟩ | ⟨_, plain⟩
      · rw [written]
        exact alike_quoted text text
      · exact plain.alike
  | text left right => exact alike_quoted left right

theorem Retexted.alike_stored {left right : Value} (retexted : Retexted left right)
    (type : Option ColumnType) : Alike (left.stored type) (right.stored type) := by
  cases retexted with
  | same =>
      rcases left.stored_eq type with ⟨text, _, written⟩ | ⟨_, plain⟩
      · rw [written]
        exact alike_quoted text text
      · exact plain.alike
  | text left right => exact alike_quoted left right

end Value

end RankedSql

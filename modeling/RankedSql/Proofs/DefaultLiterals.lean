import RankedSql.Proofs.DeclaredLayout
import RankedSql.Proofs.OpenSemicolon

/-!
# Literals of defaults

The default of a text or a time is written as a literal, and then the whole statement is spaced, the
inside of its literals too. Spacing cannot open a literal: a mark is not blank, so marks that stand
together stay together, and what follows the end of a literal is still no mark
(`Sealed.spaced`). So a statement holds the defaults of its columns, spaced, as its literals, and
has no semicolon elsewhere (`Statement.createTableWith_holds_defaults`).
-/

namespace RankedSql

/-- A content as a literal holds it in a statement that was spaced. -/
def spacedContent (content : String) : String := String.ofList (Text.spaced content.toList)

/-! ## Spacing of literals -/

theorem head?_doubled (mark : Char) (text : List Char) :
    (Text.doubled mark text).head? = text.head? := by
  cases text with
  | nil => rfl
  | cons head tail =>
      unfold Text.doubled
      split
      · next same => simp [same]
      · rfl

/-- Marks are written twice before or after spacing alike. -/
theorem spaced_doubled {mark : Char} (visible : Text.isBlank mark = false) (text : List Char) :
    Text.spaced (Text.doubled mark text) = Text.doubled mark (Text.spaced text) := by
  induction text with
  | nil => rfl
  | cons head tail ih =>
      by_cases isMark : head = mark
      · simp [isMark, Text.doubled, Text.spaced_cons_of_not_isBlank visible, ih]
      · cases blank : Text.isBlank head with
        | false => simp [isMark, Text.doubled, Text.spaced_cons_of_not_isBlank blank, ih]
        | true =>
            have space : ' ' ≠ mark := Text.ne_of_isBlank Text.isBlank_space visible
            simp only [Text.doubled, isMark, if_false, Text.spaced, blank, if_true, head?_doubled,
              ih]
            split
            · rfl
            · simp [Text.doubled, space]

theorem Enclosure.closing_visible (enclosure : Enclosure) :
    Text.isBlank enclosure.closing = false := by
  cases enclosure <;> decide

theorem enclosure?_of_isBlank {char : Char} (blank : Text.isBlank char = true) :
    (Dialect.literals false).enclosure? char = none :=
  Dialect.enclosure?_literals_eq_none_iff.2
    ⟨Text.ne_of_isBlank blank (by decide), Text.ne_of_isBlank blank (by decide)⟩

/-- A literal that is closed has a body, in which marks are written twice, and a mark at its end. -/
theorem exists_of_closed_literal {enclosure : Enclosure} {content text : List Char}
    (doubles : enclosure.doubles = true)
    (complete : ∀ token ∈ lexFrom (.literals false) (.enclosed enclosure content) text,
      token.isComplete = true) :
    ∃ body rest, text = Text.doubled enclosure.closing body ++ enclosure.closing :: rest ∧
      ∀ next ∈ rest.head?, next ≠ enclosure.closing := by
  cases text with
  | nil => simp [lexFrom, Token.isComplete] at complete
  | cons head tail =>
      by_cases isMark : head = enclosure.closing
      · subst isMark
        cases tail with
        | nil => exact ⟨[], [], rfl, by simp⟩
        | cons next rest =>
            by_cases again : next = enclosure.closing
            · subst again
              rw [lexFrom_enclosed_doubled doubles] at complete
              rcases exists_of_closed_literal doubles complete with ⟨body, behind, rfl, closes⟩
              exact ⟨enclosure.closing :: body, behind, by simp [Text.doubled], closes⟩
            · exact ⟨[], next :: rest, rfl, by simpa using again⟩
      · rw [lexFrom_enclosed_char isMark] at complete
        rcases exists_of_closed_literal doubles complete with ⟨body, behind, rfl, closes⟩
        exact ⟨head :: body, behind, by simp [Text.doubled, isMark], closes⟩

/-- A text that opens no mark starts so once it is spaced. -/
theorem head?_spaced_ne {mark : Char} (visible : Text.isBlank mark = false) {text : List Char}
    (notMark : ∀ next ∈ text.head?, next ≠ mark) :
    ∀ next ∈ (Text.spaced text).head?, next ≠ mark := by
  cases text with
  | nil => exact notMark
  | cons head tail =>
      cases blank : Text.isBlank head with
      | false => simpa [Text.spaced_cons_of_not_isBlank blank] using notMark
      | true =>
          rw [Text.spaced_of_head_isBlank (by simpa using blank)]
          rintro next ⟨⟩
          exact Text.ne_of_isBlank Text.isBlank_space visible

/-- Spacing keeps literals closed and semicolons in them. Each character of the code, and each
literal as a whole, is spaced on its own. -/
theorem lexFrom_spaced {text : List Char}
    (sealed : ∀ token ∈ lexFrom (.literals false) .code text, token.isSealed = true) :
    (∀ token ∈ lexFrom (.literals false) .code (Text.spaced text), token.isSealed = true) ∧
      (lexFrom (.literals false) .code (Text.spaced text)).filterMap Token.content? =
        ((lexFrom (.literals false) .code text).filterMap Token.content?).map spacedContent := by
  match text with
  | [] => exact ⟨sealed, rfl⟩
  | head :: tail =>
      cases opens : (Dialect.literals false).enclosure? head with
      | none =>
          rw [lexFrom_code_char rfl opens] at sealed ⊢
          rcases List.forall_mem_cons.1 sealed with ⟨sealedHead, sealedTail⟩
          rcases lexFrom_spaced sealedTail with ⟨sealedSpaced, contents_eq⟩
          cases blank : Text.isBlank head with
          | false =>
              rw [Text.spaced_cons_of_not_isBlank blank, lexFrom_code_char rfl opens]
              exact ⟨List.forall_mem_cons.2 ⟨sealedHead, sealedSpaced⟩, contents_eq⟩
          | true =>
              simp only [Text.spaced, blank, if_true]
              split
              · exact ⟨sealedSpaced, contents_eq⟩
              · rw [lexFrom_code_char rfl (enclosure?_of_isBlank Text.isBlank_space)]
                exact ⟨List.forall_mem_cons.2 ⟨rfl, sealedSpaced⟩, contents_eq⟩
      | some enclosure =>
          rcases Dialect.enclosure?_eq_some_iff.1 opens with ⟨known, rfl⟩
          have doubles := Dialect.doubles_of_mem_literals known
          have visible := enclosure.closing_visible
          have openingVisible : Text.isBlank enclosure.opening = false :=
            Enclosure.closing_eq_opening doubles ▸ visible
          rw [lexFrom_code_opening opens] at sealed ⊢
          rcases exists_of_closed_literal doubles fun token member =>
            Token.isComplete_of_isSealed (sealed token member) with ⟨body, rest, rfl, closes⟩
          rw [lexFrom_doubled doubles closes] at sealed ⊢
          rcases List.forall_mem_cons.1 sealed with ⟨closed, sealedRest⟩
          rcases lexFrom_spaced sealedRest with ⟨sealedSpaced, contents_eq⟩
          rw [Text.spaced_cons_of_not_isBlank openingVisible, Text.spaced_append_cons visible,
            spaced_doubled visible, lexFrom_code_opening opens,
            lexFrom_doubled doubles (head?_spaced_ne visible closes)]
          refine ⟨List.forall_mem_cons.2 ⟨closed, sealedSpaced⟩, ?_⟩
          simp only [List.nil_append, List.filterMap_cons, Token.content?, contents_eq,
            List.map_cons, spacedContent, String.toList_ofList]
termination_by text.length

/-- Spacing a sealed text leaves it sealed, and spaces what its literals stand for. -/
theorem Sealed.spaced {text spacedText : String} (sealed : Sealed text)
    (spaced_eq : spacedText.toList = Text.spaced text.toList) :
    Sealed spacedText ∧ contents spacedText = (contents text).map spacedContent := by
  rw [Sealed, contents, lex, spaced_eq]
  exact lexFrom_spaced sealed

/-! ## Texts that hold literals -/

/-- A sealed text with what its literals stand for. -/
structure HoldsLiterals (text : String) (held : List String) : Prop where
  sealed : Sealed text
  contents_eq : contents text = held

section Composition

variable {text left right : String} {held heldLeft heldRight : List String}

theorem Plain.holdsLiterals (plain : Plain text) : HoldsLiterals text [] :=
  ⟨plain.sealed, plain.contents_eq⟩

theorem holdsLiterals_quoted {enclosure : Enclosure}
    (known : enclosure ∈ (Dialect.literals false).enclosures) (text : String) :
    HoldsLiterals (Text.quoted enclosure.opening text) [text] := by
  refine ⟨?_, ?_⟩
  · simp [Sealed, lex_quoted_opening known, Token.isSealed]
  · simp [contents, lex_quoted_opening known, Token.content?]

theorem HoldsLiterals.plain_append (holds : HoldsLiterals right held) (plain : Plain left) :
    HoldsLiterals (left ++ right) held where
  sealed := (Alike.plain_append plain ⟨holds.sealed, rfl⟩).sealed
  contents_eq := by rw [plain.contents_append, holds.contents_eq]

theorem HoldsLiterals.append_plain (holds : HoldsLiterals left held) (plain : Plain right) :
    HoldsLiterals (left ++ right) held where
  sealed := holds.sealed.append plain.sealed plain.startsInCode
  contents_eq := by rw [holds.sealed.contents_append_plain plain, holds.contents_eq]

theorem holdsLiterals_joinWith {α : Type} {items : List α} {text : α → String}
    {held : α → List String} (holds : ∀ item ∈ items, HoldsLiterals (text item) (held item)) :
    HoldsLiterals (Text.joinWith ", " (items.map text)) (items.flatMap held) := by
  have separator : Plain ", " := by decide
  have sealedTexts : ∀ sealedText ∈ items.map text, Sealed sealedText :=
    List.forall_mem_map.2 fun item member => (holds item member).sealed
  have same : List.Forall₂ Alike (items.map text) (items.map text) :=
    List.forall₂_same.2 fun sealedText member => ⟨sealedTexts sealedText member, rfl⟩
  refine ⟨(Alike.joinWith separator (by decide) same).sealed, ?_⟩
  rw [contents_joinWith separator (by decide) sealedTexts, List.flatMap_map]
  exact List.flatMap_congr fun item member => (holds item member).contents_eq

end Composition

/-! ## Columns -/

theorem TimeText.plain {text : String} (time : TimeText text) : Plain text := by
  intro char member
  refine ⟨?_, ?_, ?_⟩ <;>
    · rintro rfl
      simpa using time _ member

/-- The operand of a default holds its bare text if it is a literal, and nothing otherwise. -/
theorem Value.holdsLiterals_defaultOperand {value : Value} {asLiteral : Bool}
    (literal : ∀ text, value = .text text → asLiteral = true) :
    HoldsLiterals (value.defaultOperand asLiteral)
      (if asLiteral then value.bareText? else none).toList := by
  cases bareText : value.bareText? with
  | none =>
      rw [defaultOperand, bareText, ite_self]
      exact (by decide : Plain "NULL").holdsLiterals
  | some bare =>
      rw [defaultOperand, bareText]
      cases asLiteral with
      | true => exact @holdsLiterals_quoted .single (by simp [Dialect.literals]) bare
      | false =>
          refine Plain.holdsLiterals ?_
          rcases bareText?_cases bareText with same | time | rfl | rfl
          · cases literal bare same
          · exact time.plain
          · decide
          · decide

/-- The bare text of the default of a column whose defaults are literals: of a text, a date, or a
date with a time. Defaults that are written as NULL have none. -/
def ColumnOptions.literal? (options : ColumnOptions) (type : PlainType) : Option String :=
  options.default.bind fun value =>
    if type ∈ [.text, .date, .datetime] then value.bareText? else none

theorem PlainType.quotesDefault_iff {type : PlainType} :
    type.columnType.quotesDefault = true ↔ type ∈ [.text, .date, .datetime] := by
  cases type <;> decide

theorem PlainType.holdsLiterals_declaration {type : PlainType} {options : ColumnOptions}
    (noOtherText : type ∉ [.text, .date, .datetime] → options.textDefault? = none) :
    HoldsLiterals (type.declaration options) (options.literal? type).toList := by
  have typeWord : Plain type.columnType.sql := by cases type <;> decide
  have unique : Plain options.uniqueSql := by
    unfold ColumnOptions.uniqueSql
    split <;> decide
  have nullable : Plain options.nullableSql := by
    unfold ColumnOptions.nullableSql
    split <;> decide
  have default : HoldsLiterals (options.defaultSql type.columnType)
      (options.literal? type).toList := by
    cases given : options.default with
    | none =>
        rw [ColumnOptions.defaultSql, ColumnOptions.literal?, given]
        exact (by decide : Plain "").holdsLiterals
    | some value =>
        have literal : ∀ text, value = .text text → type.columnType.quotesDefault = true := by
          rintro text rfl
          by_contra notQuoted
          have absent := noOtherText (mt PlainType.quotesDefault_iff.2 notQuoted)
          simp [ColumnOptions.textDefault?, given] at absent
        have operand := Value.holdsLiterals_defaultOperand literal
        simp only [PlainType.quotesDefault_iff] at operand
        rw [ColumnOptions.defaultSql, ColumnOptions.literal?, given]
        exact operand.plain_append (by decide)
  exact ((default.plain_append typeWord).append_plain unique).append_plain nullable

theorem ColumnType.plain_sql {type : ColumnType} (plainName : ∀ name ∈ type.ownName?, Plain name) :
    Plain type.sql := by
  cases type with
  | varchar length =>
      have number : Plain length.toNat.repr := (numberText_natRepr length.toNat).plain
      exact (Plain.append (by decide) number).append (by decide)
  | custom name => exact plainName name rfl
  | _ => decide

theorem plain_foreignKeyConstraint {name : String} {path : ColumnPath} (plainName : Plain name)
    (plainPath : Plain path.text) (options : ForeignKeyOptions) :
    Plain (foreignKeyConstraint name path options) := by
  rcases plain_append.1 plainPath with ⟨tableAndPoint, plainColumn⟩
  have plainTable := (plain_append.1 tableAndPoint).1
  have actions : Plain options.sql :=
    options.sql_induction Plain.append (by decide) fun action => by cases action <;> decide
  have opened : Plain ("FOREIGN KEY (" ++ name ++ ") REFERENCES ") :=
    (Plain.append (by decide) plainName).append (by decide)
  exact ((((opened.append plainTable).append (by decide)).append plainColumn).append
    (by decide)).append actions

namespace DeclaredColumn

/-- A column whose name, reference and own name of its type are plain, and whose default is a text
only where defaults are literals. -/
def NamesPlain : DeclaredColumn → Prop
  | .numberedKey name | .identifierKey name | .filledTime name => Plain name
  | .plain type name options =>
      Plain name ∧ (type ∉ [.text, .date, .datetime] → options.textDefault? = none)
  | .reference name path type _ =>
      Plain name ∧ Plain path.text ∧ ∀ typeName ∈ type.ownName?, Plain typeName

instance : (column : DeclaredColumn) → Decidable column.NamesPlain
  | .numberedKey name | .identifierKey name | .filledTime name =>
      inferInstanceAs (Decidable (Plain name))
  | .plain type name options =>
      inferInstanceAs (Decidable (Plain name ∧
        (type ∉ [.text, .date, .datetime] → options.textDefault? = none)))
  | .reference name path type _ =>
      inferInstanceAs (Decidable (Plain name ∧ Plain path.text ∧
        ∀ typeName ∈ type.ownName?, Plain typeName))

/-- What the literal in the definition of a column stands for. -/
def literal? : DeclaredColumn → Option String
  | .plain type _ options => options.literal? type
  | _ => none

theorem holdsLiterals_part {column : DeclaredColumn} (plain : column.NamesPlain) :
    HoldsLiterals column.part.text column.literal?.toList := by
  cases column with
  | numberedKey name =>
      exact ((Plain.append plain (by decide)).append
        (by decide : Plain numberedKeyDeclaration)).holdsLiterals
  | identifierKey name =>
      exact ((Plain.append plain (by decide)).append
        (by decide : Plain identifierKeyDeclaration)).holdsLiterals
  | filledTime name =>
      exact ((Plain.append plain (by decide)).append
        (by decide : Plain filledTimeDeclaration)).holdsLiterals
  | plain type name options =>
      exact (type.holdsLiterals_declaration plain.2).plain_append (plain.1.append (by decide))
  | reference name path type options =>
      rcases plain with ⟨plainName, plainPath, plainType⟩
      have definition := (plainName.append (by decide : Plain " ")).append
        (ColumnType.plain_sql plainType)
      exact ((definition.append (by decide)).append
        (plain_foreignKeyConstraint plainName plainPath options)).holdsLiterals

end DeclaredColumn

/-! ## Statements -/

/-- What the literal in the definition of the column that a call declares stands for. -/
def ColumnCall.literal? : ColumnCall → Option String
  | .plain type _ options => options.literal? type
  | _ => none

theorem DeclaredColumn.literal?_eq_none {column : DeclaredColumn}
    (notOrdinary : column.kind ≠ .ordinary) : column.literal? = none := by
  cases column with
  | plain type name options => exact absurd rfl notOrdinary
  | _ => rfl

/-- Only ordinary columns have literals, and these are laid out as they were declared. -/
theorem filterMap_literal?_layout (columns : List DeclaredColumn) :
    (layout columns).filterMap DeclaredColumn.literal? =
      columns.filterMap DeclaredColumn.literal? := by
  have none (kind : ColumnKind) (notOrdinary : kind ≠ .ordinary) :
      (columnsOf kind columns).filterMap DeclaredColumn.literal? = [] := by
    refine List.filterMap_eq_nil_iff.2 fun column member => ?_
    have kind_eq : column.kind = kind := by simpa using (List.mem_filter.1 member).2
    exact column.literal?_eq_none (kind_eq ▸ notOrdinary)
  have ordinary : (columnsOf .ordinary columns).filterMap DeclaredColumn.literal? =
      columns.filterMap DeclaredColumn.literal? := by
    rw [columnsOf, List.filterMap_filter]
    exact List.filterMap_congr fun column _ => by cases column <;> rfl
  rw [layout, List.filterMap_append, List.filterMap_append, List.filterMap_reverse,
    none .key (by decide), none .reference (by decide), ordinary]
  simp

theorem ColumnCall.filterMap_literal?_columnsTyped (call : ColumnCall)
    (type? : Option ColumnType) :
    (call.columnsTyped type?).filterMap DeclaredColumn.literal? = call.literal?.toList := by
  cases call with
  | plain type name options =>
      change [DeclaredColumn.plain type name options].filterMap DeclaredColumn.literal? =
        (options.literal? type).toList
      cases held : options.literal? type <;> simp [DeclaredColumn.literal?, held]
  | foreignKey name reference options lenient =>
      refine List.filterMap_eq_nil_iff.2 fun column member => column.literal?_eq_none ?_
      rw [← Option.some.inj (ColumnCall.kind?_eq_of_mem member)]
      decide
  | _ => rfl

theorem filterMap_literal?_declaredColumns (registry : Registry) (table : String)
    (calls : List ColumnCall) :
    (declaredColumns registry table calls).filterMap DeclaredColumn.literal? =
      calls.filterMap ColumnCall.literal? := by
  rw [declaredColumns_eq_flatMap, List.filterMap_flatMap]
  simp only [ColumnCall.filterMap_literal?_columnsTyped]
  calc (typedCalls registry table calls).flatMap (fun typed => typed.1.literal?.toList)
      = ((typedCalls registry table calls).map Prod.fst).flatMap (·.literal?.toList) := by
        rw [List.flatMap_map]
    _ = calls.filterMap ColumnCall.literal? := by
        rw [map_fst_typedCalls, ← List.filterMap_eq_flatMap_toList]

namespace Statement

/-- A definition that succeeds holds the defaults of its texts, dates and dates with a time as its
literals, in the order in which they were declared, each with single spaces. All its literals are
closed, and it has no semicolon elsewhere, whatever the defaults are. -/
theorem createTableWith_holds_defaults {registry : Registry} {table : String}
    {calls : List ColumnCall} {statement : Statement}
    (completed : (statement.createTableWith registry table calls).failure = none)
    (plainTable : Plain table)
    (plainNames : ∀ column ∈ declaredColumns registry table calls, column.NamesPlain) :
    let sql := (statement.createTableWith registry table calls).statement.render
    Sealed sql ∧ contents sql = (calls.filterMap ColumnCall.literal?).map spacedContent ∧
      Guard.openSemicolon? sql = none := by
  intro sql
  rcases exists_of_completed completed with ⟨draft, notices, performed⟩
  have places := TableDraft.places_declaredColumns performed
  have rendered : sql = draft.sql := render_createTableWith performed statement
  have body : HoldsLiterals
      (Text.joinWith ", " ((layout (declaredColumns registry table calls)).map
        fun column => column.part.text)) (calls.filterMap ColumnCall.literal?) := by
    rw [← filterMap_literal?_declaredColumns registry table, ← filterMap_literal?_layout,
      List.filterMap_eq_flatMap_toList]
    exact holdsLiterals_joinWith fun column laidOut =>
      column.holdsLiterals_part (plainNames column ((perm_layout _).mem_iff.1 laidOut))
  have opening : Plain ("CREATE TABLE " ++ table ++ " (") :=
    (Plain.append (by decide) plainTable).append (by decide)
  have whole := (body.plain_append opening).append_plain (by decide : Plain ")")
  have spaced_eq := draft.toList_sql
  rw [places.stages.table_eq, places.definitions_eq, ← rendered] at spaced_eq
  rcases whole.sealed.spaced spaced_eq with ⟨sealed, contents_eq⟩
  refine ⟨sealed, by rw [contents_eq, whole.contents_eq], ?_⟩
  rw [Guard.openSemicolon?_eq, codeSemicolonFrom?_eq_none_iff]
  exact fun semicolon => Bool.noConfusion (sealed _ semicolon)

/-- Marks next to blanks, semicolons, and defaults of nothing but blanks or marks. -/
theorem createTableWith_holds_defaults_of_marks :
    let registry := (Statement.empty.createTableWith .empty "users" [.id]).registry
    let calls := [ColumnCall.plain .text "motto" { default := some (.text "it's  ;\u00a0 '") },
      .plain .date "never" { default := some (.text "") }, .id,
      .plain .datetime "soon" { default := some (.text " \t\n") },
      .foreignKey "author" "users.id" {} false,
      .plain .text "gone" { default := some .null },
      .plain .integer "rank" { default := some (.int 3) },
      .plain .text "mark" { default := some (.text "\"'"), unique := true },
      .plain .text "done" { default := some (.bool true), nullable := true }]
    let defined := Statement.empty.createTableWith registry "posts" calls
    defined.failure = none ∧ Sealed defined.statement.render ∧
      contents defined.statement.render = ["it's ; '", "", " ", "\"'", "TRUE"] ∧
      Guard.openSemicolon? defined.statement.render = none := by
  intro registry calls defined
  have completed : defined.failure = none := by decide +kernel
  have plainNames : ∀ column ∈ declaredColumns registry "posts" calls, column.NamesPlain := by
    decide +kernel
  rcases createTableWith_holds_defaults completed (by decide) plainNames with
    ⟨sealed, contents_eq, unchained⟩
  exact ⟨completed, sealed, contents_eq.trans (by decide +kernel), unchained⟩

end Statement

end RankedSql

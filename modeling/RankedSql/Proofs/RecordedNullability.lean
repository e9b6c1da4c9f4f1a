import RankedSql.Proofs.Phrases
import RankedSql.Proofs.WrittenColumns

/-!
# Recorded nullability and the written definition

Whether a column accepts NULL is told twice: the registry records it, and the statement that creates
the table says it in the words of the column's definition. Nothing compares the two. This module
does so for each kind of column, inside the whole statement (`nullable_recorded_as_defined`).

Keys, times and plain columns agree: their definitions have `NOT NULL` or `PRIMARY KEY` exactly if
the record says that they accept no NULL. A referencing column is written as its name and the type
that it takes over, so its definition never has these words; what its options say about NULL goes
into the record alone (`not_marked_of_required_reference`).
-/

namespace RankedSql

/-- A text with one of the phrases that keep NULL out of a column. -/
def Marked (text : List Char) : Prop :=
  Text.mentions "NOT NULL".toList text = true ∨ Text.mentions "PRIMARY KEY".toList text = true

instance (text : List Char) : Decidable (Marked text) := inferInstanceAs (Decidable (_ ∨ _))

/-- Words of which two that follow each other make one of these phrases. -/
def MarkFollows (texts : List (List Char)) : Prop :=
  Text.Follows "NOT".toList "NULL".toList texts ∨ Text.Follows "PRIMARY".toList "KEY".toList texts

/-- A word that does not end as a phrase starts. -/
def OpensNoMark (word : List Char) : Prop :=
  ¬"NOT".toList <:+ word ∧ ¬"PRIMARY".toList <:+ word

instance (word : List Char) : Decidable (OpensNoMark word) := inferInstanceAs (Decidable (_ ∧ _))

/-- A word that does not start as a phrase ends. -/
def ClosesNoMark (word : List Char) : Prop := ¬"NULL".toList <+: word ∧ ¬"KEY".toList <+: word

instance (word : List Char) : Decidable (ClosesNoMark word) := inferInstanceAs (Decidable (_ ∧ _))

namespace DeclaredColumn

/-- A column whose names are free of the phrases as they are written, with single spaces: its own
name, and if its type goes by a name of its own, the two names behind each other. -/
def NamesUnmarked (column : DeclaredColumn) : Prop :=
  ¬Marked (Text.singleSpaced column.name).toList ∧
    match column.facts.type with
    | .custom typeName => ¬Marked (Text.singleSpaced (column.name ++ " " ++ typeName)).toList
    | _ => True

instance (column : DeclaredColumn) : Decidable column.NamesUnmarked := by
  unfold NamesUnmarked
  split <;> infer_instance

/-- Whether the default of a column is a text. -/
def hasTextDefault : DeclaredColumn → Bool
  | .plain _ _ options => options.textDefault?.isSome
  | _ => false

end DeclaredColumn

/-! ## Phrases and words -/

section Words

variable {text : List Char}

theorem Marked.append_left (marked : Marked text) (front : List Char) : Marked (front ++ text) :=
  marked.imp (Text.mentions_append_left · front) (Text.mentions_append_left · front)

theorem Marked.spaced (marked : Marked text) : Marked (Text.spaced text) := by
  have notNull : "NOT NULL".toList = 'N' :: ("OT NUL".toList ++ ['L']) := rfl
  have primaryKey : "PRIMARY KEY".toList = 'P' :: ("RIMARY KE".toList ++ ['Y']) := rfl
  exact marked.imp (Text.mentions_spaced notNull (by decide) (by decide) (by decide))
    (Text.mentions_spaced primaryKey (by decide) (by decide) (by decide))

/-- A phrase in a spaced text is made by two words of the text. -/
theorem Marked.follows (marked : Marked (Text.spaced text)) : MarkFollows (Text.words text) := by
  exact marked.imp
    (Text.follows_of_mentions_spaced (by decide) (by decide) (by decide) (by decide))
    (Text.follows_of_mentions_spaced (by decide) (by decide) (by decide) (by decide))

theorem MarkFollows.marked {text : String} (follows : MarkFollows (Text.words text.toList)) :
    Marked (Text.singleSpaced text).toList := by
  rw [Text.singleSpaced, Text.toList_joinWith_space]
  exact follows.imp Text.mentions_of_follows Text.mentions_of_follows

/-- Where no word opens a phrase there is none. -/
theorem not_markFollows_of_forall {texts : List (List Char)}
    (quiet : ∀ word ∈ texts, OpensNoMark word) : ¬MarkFollows texts :=
  not_or.2 ⟨Text.not_follows_of_forall fun word member => (quiet word member).1,
    Text.not_follows_of_forall fun word member => (quiet word member).2⟩

/-- Behind other words no phrase arises at a word that closes none. -/
theorem not_markFollows_append {front back : List (List Char)} (quietFront : ¬MarkFollows front)
    (quietBack : ¬MarkFollows back) (seam : ∀ word ∈ back.head?, ClosesNoMark word) :
    ¬MarkFollows (front ++ back) := by
  rcases not_or.1 quietFront with ⟨frontNotNull, frontKey⟩
  rcases not_or.1 quietBack with ⟨backNotNull, backKey⟩
  exact not_or.2
    ⟨Text.not_follows_append frontNotNull backNotNull fun word leads => (seam word leads).1,
      Text.not_follows_append frontKey backKey fun word leads => (seam word leads).2⟩

end Words

/-! ## Definitions without a phrase -/

theorem not_marked_columnDefinition {name declaration : String}
    (unmarked : ¬Marked (Text.singleSpaced name).toList)
    (quiet : ¬MarkFollows (Text.words declaration.toList))
    (seam : ∀ word ∈ (Text.words declaration.toList).head?, ClosesNoMark word) :
    ¬Marked (Text.spaced (columnDefinition name declaration).toList) := by
  intro marked
  have spelled : (columnDefinition name declaration).toList =
      name.toList ++ ' ' :: declaration.toList := by
    simp [columnDefinition]
  have follows := marked.follows
  rw [spelled, Text.words_append_cons Text.isBlank_space] at follows
  exact not_markFollows_append (fun inName => unmarked inName.marked) quiet seam follows

/-- A type without a name of its own is one word, which closes no phrase. -/
theorem ColumnType.words_sql {type : ColumnType} (notCustom : ∀ name, type ≠ .custom name) :
    Text.words type.sql.toList = [type.sql.toList] ∧ ClosesNoMark type.sql.toList := by
  cases type with
  | custom name => exact absurd rfl (notCustom name)
  | varchar length =>
      have spelled : (ColumnType.varchar length).sql.toList =
          'V' :: ("ARCHAR(".toList ++ Nat.toDigits 10 length.toNat ++ [')']) := by
        simp [sql]
      have word : Text.Visible "ARCHAR(".toList := by decide
      have closing : Text.Visible [')'] := by decide
      have digits : Text.Visible (Nat.toDigits 10 length.toNat) := fun _ member =>
        Text.not_isBlank_of_isDigit (Nat.isDigit_of_mem_toDigits (by decide) (by decide) member)
      have visible : Text.Visible (ColumnType.varchar length).sql.toList := by
        rw [spelled]
        refine List.forall_mem_cons.2 ⟨by decide, List.forall_mem_append.2 ⟨?_, closing⟩⟩
        exact List.forall_mem_append.2 ⟨word, digits⟩
      refine ⟨Text.words_of_not_isBlank (by simp [spelled]) visible, ?_⟩
      rw [spelled]
      exact ⟨by simp, by simp⟩
  | _ => decide

/-! ### Plain columns -/

/-- A text without the letters `O` and `P`, of which each phrase has one in its first word. -/
def Harmless (text : String) : Prop := ∀ char ∈ text.toList, char ≠ 'O' ∧ char ≠ 'P'

instance (text : String) : Decidable (Harmless text) := List.decidableBAll _ text.toList

theorem Harmless.opensNoMark {text : String} (harmless : Harmless text) :
    ∀ word ∈ Text.words text.toList, OpensNoMark word := by
  intro word member
  refine ⟨fun ends => ?_, fun ends => ?_⟩
  · have inside : 'O' ∈ word := ends.subset (by decide)
    exact (harmless 'O' (Text.mem_of_mem_words member inside)).1 rfl
  · have inside : 'P' ∈ word := ends.subset (by decide)
    exact (harmless 'P' (Text.mem_of_mem_words member inside)).2 rfl

theorem TimeText.harmless {text : String} (time : TimeText text) : Harmless text := by
  intro char member
  constructor <;>
    · rintro rfl
      simpa using time _ member

theorem Harmless.quoted {text : String} (harmless : Harmless text) :
    Harmless (Text.quoted '\'' text) := by
  intro char member
  rw [Text.toList_quoted, List.cons_append, List.mem_cons, List.mem_append,
    List.mem_singleton] at member
  rcases member with rfl | inside | rfl
  · decide
  · refine harmless char ?_
    rw [← List.count_pos_iff] at inside ⊢
    rw [Text.count_doubled] at inside
    exact Nat.pos_of_mul_pos_left inside
  · decide

theorem harmless_defaultOperand {value : Value} (noText : ∀ text, value ≠ .text text)
    (asLiteral : Bool) : Harmless (value.defaultOperand asLiteral) := by
  have bare (text : String) (bareText : value.bareText? = some text) : Harmless text := by
    rcases Value.bareText?_cases bareText with same | time | rfl | rfl
    · exact absurd same (noText text)
    · exact time.harmless
    · decide
    · decide
  unfold Value.defaultOperand
  split
  · decide
  · next text bareText =>
      split
      · exact (bare text bareText).quoted
      · exact bare text bareText

section Plain

variable (type : PlainType) (options : ColumnOptions)

theorem PlainType.words_declaration :
    Text.words (type.declaration options).toList =
      [type.columnType.sql.toList] ++ Text.words (options.defaultSql type.columnType).toList ++
        Text.words options.uniqueSql.toList ++ Text.words options.nullableSql.toList := by
  have blank {text : String} (head : ∀ next ∈ text.toList.head?, next = ' ') :
      ∀ next ∈ text.toList.head?, Text.isBlank next = true := fun next first =>
    head next first ▸ Text.isBlank_space
  have typeWord : Text.words type.columnType.sql.toList = [type.columnType.sql.toList] := by
    cases type <;> decide
  rw [declaration, String.toList_append, String.toList_append, String.toList_append,
    Text.words_append (blank options.head_nullableSql),
    Text.words_append (blank options.head_uniqueSql),
    Text.words_append (blank (options.head_defaultSql _)), typeWord]

theorem opensNoMark_of_mem_defaultSql (noText : ∀ text, options.default ≠ some (.text text)) :
    ∀ word ∈ Text.words (options.defaultSql type.columnType).toList, OpensNoMark word := by
  unfold ColumnOptions.defaultSql
  split
  · next value given =>
      have harmless : Harmless (value.defaultOperand type.columnType.quotesDefault) :=
        harmless_defaultOperand (fun text same => noText text (same ▸ given)) _
      have split (operand : String) :
          (" DEFAULT " ++ operand).toList = " DEFAULT".toList ++ ' ' :: operand.toList := by simp
      rw [split, Text.words_append_cons Text.isBlank_space]
      exact List.forall_mem_append.2 ⟨by decide, harmless.opensNoMark⟩
  · decide

/-- The declaration of a plain column that accepts NULL opens no phrase. -/
theorem opensNoMark_of_mem_declaration (nullable : options.nullable = true)
    (noText : ∀ text, options.default ≠ some (.text text)) :
    ∀ word ∈ Text.words (type.declaration options).toList, OpensNoMark word := by
  have unique : ∀ word ∈ Text.words options.uniqueSql.toList, OpensNoMark word := by
    unfold ColumnOptions.uniqueSql
    split <;> decide
  have ending : ∀ word ∈ Text.words options.nullableSql.toList, OpensNoMark word := by
    rw [ColumnOptions.nullableSql, if_pos nullable]
    decide
  have typeWord : OpensNoMark type.columnType.sql.toList := by cases type <;> decide
  rw [PlainType.words_declaration]
  refine List.forall_mem_append.2 ⟨List.forall_mem_append.2 ⟨List.forall_mem_append.2
    ⟨List.forall_mem_singleton.2 typeWord, ?_⟩, unique⟩, ending⟩
  exact opensNoMark_of_mem_defaultSql type options noText

theorem marked_declaration (required : options.nullable = false) :
    Marked (type.declaration options).toList := by
  have ending : options.nullableSql = " NOT NULL" := by
    rw [ColumnOptions.nullableSql, required]
    rfl
  rw [PlainType.declaration, String.toList_append, ending]
  exact Marked.append_left (by decide) _

end Plain

/-! ## Columns -/

theorem marked_columnDefinition {declaration : String} (marked : Marked declaration.toList)
    (name : String) : Marked (Text.spaced (columnDefinition name declaration).toList) := by
  rw [columnDefinition, String.toList_append]
  exact (marked.append_left _).spaced

namespace DeclaredColumn

variable {column : DeclaredColumn}

/-- A column other than a reference accepts NULL by the record exactly if its definition has none of
the phrases. -/
theorem nullable_iff_not_marked (noReference : column.reference? = none)
    (noText : column.hasTextDefault = false) (unmarked : column.NamesUnmarked) :
    column.facts.nullable = true ↔ ¬Marked (Text.spaced column.definition.toList) := by
  cases column with
  | numberedKey name =>
      have marked : Marked numberedKeyDeclaration.toList := by decide
      exact iff_of_false Bool.false_ne_true (not_not.2 (marked_columnDefinition marked name))
  | identifierKey name =>
      have marked : Marked identifierKeyDeclaration.toList := by decide
      exact iff_of_false Bool.false_ne_true (not_not.2 (marked_columnDefinition marked name))
  | filledTime name =>
      have marked : Marked filledTimeDeclaration.toList := by decide
      exact iff_of_false Bool.false_ne_true (not_not.2 (marked_columnDefinition marked name))
  | plain type name options =>
      have recorded : (plain type name options).facts.nullable = options.nullable := rfl
      rw [recorded]
      cases nullable : options.nullable with
      | false =>
          exact iff_of_false Bool.false_ne_true
            (not_not.2 (marked_columnDefinition (marked_declaration type options nullable) name))
      | true =>
          have noTextOption : ∀ text, options.default ≠ some (.text text) := by
            rintro text given
            simp [hasTextDefault, ColumnOptions.textDefault?, given] at noText
          have quiet := opensNoMark_of_mem_declaration type options nullable noTextOption
          have seam : ∀ word ∈ (Text.words (type.declaration options).toList).head?,
              ClosesNoMark word := by
            rw [PlainType.words_declaration]
            cases type <;> simp [PlainType.columnType, ColumnType.sql, ClosesNoMark]
          exact iff_of_true rfl
            (not_marked_columnDefinition unmarked.1 (not_markFollows_of_forall quiet) seam)
  | reference name path type options => cases noReference

/-- The definition of a reference has none of the phrases, whatever its options say. -/
theorem not_marked_of_reference {options : ForeignKeyOptions}
    (reference : column.reference? = some options) (unmarked : column.NamesUnmarked) :
    column.facts.nullable = options.nullable ∧
      ¬Marked (Text.spaced column.definition.toList) := by
  cases column with
  | reference name path type given =>
      rcases Option.some.inj reference with rfl
      refine ⟨rfl, ?_⟩
      by_cases custom : ∃ typeName, type = .custom typeName
      · rcases custom with ⟨typeName, rfl⟩
        exact fun marked => unmarked.2 marked.follows.marked
      · have single := ColumnType.words_sql fun typeName same => custom ⟨typeName, same⟩
        refine not_marked_columnDefinition unmarked.1 ?_ ?_
        · rw [declaration, single.1]
          exact not_or.2 ⟨Text.not_follows_singleton _, Text.not_follows_singleton _⟩
        · simpa [declaration, single.1] using single.2
  | numberedKey | identifierKey | filledTime | plain => cases reference

end DeclaredColumn

/-- What a successful definition of a new table records about NULL agrees with what it writes, for
every declared column but the references: the column is recorded as accepting NULL exactly if its
definition in the statement has neither `NOT NULL` nor `PRIMARY KEY`. The definition of a reference
never has them, and its record follows its options. -/
theorem nullable_recorded_as_defined {registry : Registry} {table : String}
    (unknown : registry.hasTable table = false) {calls : List ColumnCall} {statement : Statement}
    (completed : (statement.createTableWith registry table calls).failure = none)
    (distinct : ((declaredColumns registry table calls).map DeclaredColumn.name).Nodup)
    {column : DeclaredColumn} (declared : column ∈ declaredColumns registry table calls)
    (noText : column.hasTextDefault = false) (unmarked : column.NamesUnmarked) :
    let defined := statement.createTableWith registry table calls
    let definition := Text.spaced column.definition.toList
    ∃ recorded, defined.registry.column? table column.name = some recorded ∧
      EntryIn definition defined.statement.render.toList ∧
      match column.reference? with
      | none => recorded.nullable = true ↔ ¬Marked definition
      | some options => recorded.nullable = options.nullable ∧ ¬Marked definition := by
  rcases Statement.exists_of_completed completed with ⟨draft, notices, performed⟩
  have recorded := Registry.column?_commit performed unknown distinct declared
  have entry := (TableDraft.places_declaredColumns performed).entryIn_sql declared
  rw [Statement.createTableWith_of_ok performed]
  refine ⟨column.facts, recorded, entry, ?_⟩
  split
  · next noReference => exact DeclaredColumn.nullable_iff_not_marked noReference noText unmarked
  · next options reference => exact DeclaredColumn.not_marked_of_reference reference unmarked

theorem nullable_recorded_of_optional_age :
    let registry := (Statement.empty.createTableWith .empty "users" [.id]).registry
    let calls := [ColumnCall.uuid "id", .timestamps,
      .plain .integer "age" { default := some (.int 3), nullable := true },
      .foreignKey "author" "users.id" {} false]
    let defined := Statement.empty.createTableWith registry "posts" calls
    defined.failure = none ∧
      ∃ recorded, defined.registry.column? "posts" "age" = some recorded ∧
        EntryIn "age INTEGER DEFAULT 3 NULL".toList defined.statement.render.toList ∧
        recorded.nullable = true := by
  intro registry calls defined
  let age := DeclaredColumn.plain .integer "age" { default := some (.int 3), nullable := true }
  have unknown : registry.hasTable "posts" = false := by decide +kernel
  have completed : defined.failure = none := by decide +kernel
  have distinct : ((declaredColumns registry "posts" calls).map DeclaredColumn.name).Nodup := by
    decide +kernel
  have columns_eq : declaredColumns registry "posts" calls =
      [.identifierKey "id", .filledTime "created_at", .filledTime "updated_at", age,
        .reference "author" ⟨"users", "id"⟩ .integer {}] := rfl
  have declared : age ∈ declaredColumns registry "posts" calls := by simp [columns_eq]
  have unmarked : age.NamesUnmarked := by decide +kernel
  have spelled : Text.spaced age.definition.toList = "age INTEGER DEFAULT 3 NULL".toList := by
    decide +kernel
  rcases nullable_recorded_as_defined unknown completed distinct declared rfl unmarked with
    ⟨recorded, found, entry, agrees⟩
  rw [spelled] at entry agrees
  exact ⟨completed, recorded, found, entry, agrees.2 (by decide)⟩

/-- The definition of a reference does not tell whether it accepts NULL. Besides, names can make up
a phrase that neither of them has: the name of a column together with that of a type, or a name
alone once its blanks are written as one space. -/
theorem not_marked_of_required_reference :
    let users := (Statement.empty.createTableWith .empty "users" [.id]).registry
    let posts := Statement.empty.createTableWith users "posts"
      [.foreignKey "author" "users.id" {} false]
    let kinds := (Statement.empty.createTable .empty "kinds" [("id", "NULL")]).registry
    let named := Statement.empty.createTableWith kinds "posts"
      [.foreignKey "NOT" "kinds.id" { nullable := true } false]
    let blank := Statement.empty.createTableWith .empty "posts"
      [.plain .text "NOT  NULL" { nullable := true }]
    (posts.failure = none ∧
      posts.statement.render =
        "CREATE TABLE posts (author INTEGER, FOREIGN KEY (author) REFERENCES users(id))" ∧
      (posts.registry.column? "posts" "author").map ColumnFacts.nullable = some false ∧
      ¬Marked "author INTEGER".toList) ∧
    (named.failure = none ∧
      named.statement.render =
        "CREATE TABLE posts (NOT NULL, FOREIGN KEY (NOT) REFERENCES kinds(id))" ∧
      (named.registry.column? "posts" "NOT").map ColumnFacts.nullable = some true ∧
      ¬Marked "NOT".toList ∧ ¬Marked "NULL".toList ∧ Marked "NOT NULL".toList) ∧
    (blank.failure = none ∧
      blank.statement.render = "CREATE TABLE posts (NOT NULL TEXT NULL)" ∧
      (blank.registry.column? "posts" "NOT  NULL").map ColumnFacts.nullable = some true ∧
      ¬Marked "NOT  NULL".toList ∧ Marked "NOT NULL TEXT NULL".toList) := by
  decide +kernel

end RankedSql

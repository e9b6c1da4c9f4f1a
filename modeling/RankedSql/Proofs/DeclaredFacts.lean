import RankedSql.Proofs.RecordedNullability

/-!
# Facts that declarations show

The facts about a column come from two places. A draft records what its calls say; a free-form
definition records what the words of a declaration show, wherever in it they stand
(`ColumnFacts.ofDeclaration`). The declarations that drafts write for numbered keys, times and plain
columns show what drafts record (`PlainType.ofDeclaration_declaration`). Only the default of a plain
column can hold words that mislead, and only as a text: such a text must be written as a literal,
whose marks cut it off from the words around it, and have none of the phrases in it. So for these
columns both ways to define a table leave the same facts (`Statement.createTable_of_drafted`).
-/

namespace RankedSql

/-- A default whose words do not mislead: none at all, a value other than a text, or a text that is
written as a literal and has none of the phrases in any ASCII case. -/
def PlainType.Legible (type : PlainType) : Option Value → Prop
  | some (.text content) =>
      type.columnType.quotesDefault = true ∧ ¬Marked (Text.upperAscii content).toList
  | _ => True

instance (type : PlainType) (default : Option Value) : Decidable (type.Legible default) := by
  unfold PlainType.Legible
  split <;> infer_instance

namespace ColumnCall

/-- A call for a numbered key, for times, or for a plain column with such a default. -/
def Legible : ColumnCall → Prop
  | .primaryKey _ | .timestamps | .inspect => True
  | .plain type _ options => type.Legible options.default
  | .uuid _ | .foreignKey _ _ _ _ | .fail _ _ => False

instance (call : ColumnCall) : Decidable call.Legible := by
  unfold Legible
  split <;> infer_instance

/-- The names and declarations of the columns that a call defines by itself. The type of a foreign
key is found elsewhere. -/
def definitions : ColumnCall → List (String × String)
  | .primaryKey name => [(name, numberedKeyDeclaration)]
  | .uuid name => [(name, identifierKeyDeclaration)]
  | .timestamps => [("created_at", filledTimeDeclaration), ("updated_at", filledTimeDeclaration)]
  | .plain type name options => [(name, type.declaration options)]
  | .foreignKey _ _ _ _ | .fail _ _ | .inspect => []

end ColumnCall

/-! ## Capitals -/

theorem toUpper_eq_mark_iff {char : Char} : char.toUpper = '\'' ↔ char = '\'' := by
  simp only [← Char.toNat_inj, Text.toNat_toUpper]
  have mark : '\''.toNat = 39 := rfl
  split <;> omega

theorem map_toUpper_doubled (text : List Char) :
    (Text.doubled '\'' text).map Char.toUpper = Text.doubled '\'' (text.map Char.toUpper) := by
  induction text with
  | nil => rfl
  | cons head tail ih =>
      by_cases same : head = '\''
      · simp [Text.doubled, same, ih]
      · have stays := mt toUpper_eq_mark_iff.1 same
        simp [Text.doubled, same, stays, ih]

theorem upperAscii_quoted (text : String) :
    Text.upperAscii (Text.quoted '\'' text) = Text.quoted '\'' (Text.upperAscii text) := by
  have mark : '\''.toUpper = '\'' := by decide
  apply String.toList_inj.1
  simp [map_toUpper_doubled, mark]

theorem TimeText.upperAscii_eq {text : String} (time : TimeText text) :
    Text.upperAscii text = text := by
  have stays : ∀ char ∈ text.toList, char.toUpper = char := by
    intro char member
    rcases time char member with digit | mark
    · have bounds : 48 ≤ char.toNat ∧ char.toNat ≤ 57 := Char.isDigit_iff_toNat.1 digit
      rw [← Char.toNat_inj, Text.toNat_toUpper, if_neg (by omega)]
    · simp only [List.mem_cons, List.not_mem_nil, or_false] at mark
      rcases mark with rfl | rfl | rfl | rfl | rfl | rfl <;> decide
  rw [Text.upperAscii, List.map_congr_left stays, List.map_id', String.ofList_toList]

/-- The default is in capitals, unless it is a text. -/
theorem Value.upperAscii_defaultOperand {value : Value} (noText : ∀ text, value ≠ .text text)
    (asLiteral : Bool) :
    Text.upperAscii (value.defaultOperand asLiteral) = value.defaultOperand asLiteral := by
  have bare (text : String) (bareText : value.bareText? = some text) :
      Text.upperAscii text = text := by
    rcases Value.bareText?_cases bareText with same | time | rfl | rfl
    · exact absurd same (noText text)
    · exact time.upperAscii_eq
    · decide
    · decide
  unfold Value.defaultOperand
  split
  · decide
  · next text bareText =>
      split
      · rw [upperAscii_quoted, bare text bareText]
      · exact bare text bareText

/-! ## Declarations -/

section Plain

variable (type : PlainType) {options : ColumnOptions} {value : Value}

/-- A declaration with a default, cut at a letter that no phrase has. -/
theorem toList_upperAscii_declaration (given : options.default = some value) :
    (Text.upperAscii (type.declaration options)).toList =
      (type.columnType.sql ++ " DE").toList ++ 'F' :: ("AULT ".toList ++
        (Text.upperAscii (value.defaultOperand type.columnType.quotesDefault)).toList ++
          (options.uniqueSql ++ options.nullableSql).toList) := by
  have typeCapital : type.columnType.sql.toList.map Char.toUpper = type.columnType.sql.toList := by
    cases type <;> decide
  have uniqueCapital : options.uniqueSql.toList.map Char.toUpper = options.uniqueSql.toList := by
    unfold ColumnOptions.uniqueSql
    split <;> decide
  have nullableCapital :
      options.nullableSql.toList.map Char.toUpper = options.nullableSql.toList := by
    unfold ColumnOptions.nullableSql
    split <;> decide
  have word : " DEFAULT ".toList.map Char.toUpper = " DE".toList ++ 'F' :: "AULT ".toList := by
    decide
  simp only [PlainType.declaration, ColumnOptions.defaultSql, given, Text.toList_upperAscii,
    String.toList_append, List.map_append, typeCapital, uniqueCapital, nullableCapital, word]
  simp

/-- A phrase with a letter that only a type or a default text can have is not in a declaration, if
it is in neither of these. The `F` of `DEFAULT` keeps it from starting in the type, and the marks of
the literal from starting or ending in the text. -/
theorem mentions_declaration_eq_false (given : options.default = some value) {phrase : List Char}
    {letter : Char} (inPhrase : letter ∈ phrase) (rare : letter = 'O' ∨ letter = 'P')
    (noF : 'F' ∉ phrase) (noMark : '\'' ∉ phrase)
    (quietType : Text.mentions phrase (type.columnType.sql ++ " DE").toList = false)
    (quietText : ∀ text, value = .text text → type.columnType.quotesDefault = true ∧
      Text.mentions phrase (Text.upperAscii text).toList = false)
    (quietEnd : letter ∉ (options.uniqueSql ++ options.nullableSql).toList) :
    Text.mentions phrase (Text.upperAscii (type.declaration options)).toList = false := by
  have quietStart : letter ∉ "AULT ".toList := by
    rcases rare with rfl | rfl <;> decide
  rw [toList_upperAscii_declaration type given, Text.mentions_append_cons noF, quietType,
    Bool.false_or]
  by_cases isText : ∃ text, value = .text text
  · rcases isText with ⟨text, rfl⟩
    rcases quietText text rfl with ⟨quotes, quiet⟩
    have operand : (Value.text text).defaultOperand type.columnType.quotesDefault =
        Text.quoted '\'' text := by
      rw [quotes]
      rfl
    rw [operand, upperAscii_quoted, Text.mentions_append_quoted noMark, quiet,
      Text.mentions_eq_false_of_not_mem inPhrase quietStart,
      Text.mentions_eq_false_of_not_mem inPhrase quietEnd]
    rfl
  · have noText : ∀ text, value ≠ .text text := fun text same => isText ⟨text, same⟩
    have harmless := harmless_defaultOperand noText type.columnType.quotesDefault
    have quietOperand :
        letter ∉ (value.defaultOperand type.columnType.quotesDefault).toList := by
      intro inside
      rcases rare with rfl | rfl
      · exact (harmless 'O' inside).1 rfl
      · exact (harmless 'P' inside).2 rfl
    apply Text.mentions_eq_false_of_not_mem inPhrase
    rw [Value.upperAscii_defaultOperand noText]
    simp only [List.mem_append, not_or]
    exact ⟨⟨quietStart, quietOperand⟩, quietEnd⟩

variable (options)

theorem ColumnType.ofDeclaration_declaration :
    ColumnType.ofDeclaration (type.declaration options) = type.columnType := by
  have first : Text.firstWord (type.declaration options).toList = type.columnType.sql.toList := by
    rw [Text.firstWord, PlainType.words_declaration]
    rfl
  rw [ColumnType.ofDeclaration, first]
  cases type <;> decide +kernel

/-- A text that is given as a default is a literal without the phrases. -/
theorem PlainType.Legible.quiet {type : PlainType} (legible : type.Legible (some value))
    {phrase : List Char} (marks : ∀ text, Text.mentions phrase text = true → Marked text)
    (text : String) (same : value = .text text) : type.columnType.quotesDefault = true ∧
      Text.mentions phrase (Text.upperAscii text).toList = false := by
  subst same
  rcases legible with ⟨quotes, unmarked⟩
  exact ⟨quotes, Bool.eq_false_iff.2 fun mentioned => unmarked (marks _ mentioned)⟩

section Phrases

variable {options} (given : options.default = some value) (legible : type.Legible (some value))
include given

theorem mentions_default_declaration :
    Text.mentions "DEFAULT".toList (Text.upperAscii (type.declaration options)).toList = true := by
  rw [toList_upperAscii_declaration type given]
  refine Text.mentions_iff.2 ⟨(type.columnType.sql ++ " ").toList, ' ' :: ?_, ?_⟩
  · exact (Text.upperAscii (value.defaultOperand type.columnType.quotesDefault)).toList ++
      (options.uniqueSql ++ options.nullableSql).toList
  · simp

include legible

theorem mentions_primaryKey_declaration :
    Text.mentions "PRIMARY KEY".toList (Text.upperAscii (type.declaration options)).toList =
      false := by
  apply mentions_declaration_eq_false type given (by decide : 'P' ∈ _) (.inr rfl) (by decide)
    (by decide)
  · cases type <;> decide
  · exact legible.quiet fun _ => .inr
  · cases unique : options.unique <;> cases nullable : options.nullable <;>
      simp [ColumnOptions.uniqueSql, ColumnOptions.nullableSql, unique, nullable]

theorem mentions_notNull_declaration :
    Text.mentions "NOT NULL".toList (Text.upperAscii (type.declaration options)).toList =
      !options.nullable := by
  cases nullable : options.nullable with
  | true =>
      apply mentions_declaration_eq_false type given (by decide : 'O' ∈ _) (.inl rfl)
        (by decide) (by decide)
      · cases type <;> decide
      · exact legible.quiet fun _ => .inl
      · cases unique : options.unique <;>
          simp [ColumnOptions.uniqueSql, ColumnOptions.nullableSql, unique, nullable]
  | false =>
      have ending : options.nullableSql = " NOT NULL" := by
        simp [ColumnOptions.nullableSql, nullable]
      have words : (options.uniqueSql ++ " NOT NULL").toList =
          options.uniqueSql.toList ++ " NOT NULL".toList := String.toList_append
      rw [toList_upperAscii_declaration type given, ending, words]
      simp only [← List.append_assoc, ← List.cons_append]
      exact Text.mentions_append_left (by decide) _

end Phrases

/-- The declaration of a plain column shows the facts that are recorded about it. -/
theorem PlainType.ofDeclaration_declaration (legible : type.Legible options.default) :
    ColumnFacts.ofDeclaration (type.declaration options) = type.facts options := by
  cases given : options.default with
  | none =>
      rcases options with ⟨default, unique, nullable⟩
      subst given
      -- Without a default the declaration is one of a few fixed texts.
      simp only [ColumnFacts.ofDeclaration, ColumnType.ofDeclaration_declaration]
      cases type <;> cases unique <;> cases nullable <;>
        simp [PlainType.declaration, PlainType.columnType, ColumnType.sql, ColumnOptions.defaultSql,
          ColumnOptions.uniqueSql, ColumnOptions.nullableSql] <;> decide
  | some value =>
      rw [given] at legible
      have keyless := mentions_primaryKey_declaration type given legible
      have required := mentions_notNull_declaration type given legible
      have filled := mentions_default_declaration type given
      simp only [ColumnFacts.ofDeclaration, ColumnType.ofDeclaration_declaration]
      rw [keyless, required, filled]
      simp [PlainType.facts, given]

end Plain

/-- What a call defines by itself it also records, as its declaration shows. -/
theorem ColumnCall.Legible.declares_eq {call : ColumnCall} (legible : call.Legible)
    (registry : Registry) (table : String) (declared : List (String × ColumnFacts)) :
    call.declares registry table declared =
      call.definitions.map fun entry => (entry.1, .ofDeclaration entry.2) := by
  have key : ColumnFacts.ofDeclaration numberedKeyDeclaration = .filledKey .integer := by
    decide +kernel
  have time : ColumnFacts.ofDeclaration filledTimeDeclaration = .filledTime := by decide +kernel
  cases call with
  | primaryKey name => simp [declares, definitions, key]
  | timestamps => simp [declares, definitions, time]
  | plain type name options =>
      simp [declares, definitions, type.ofDeclaration_declaration options legible]
  | inspect => rfl
  | uuid | foreignKey | fail => cases legible

/-! ## Drafts -/

namespace TableDraft

/-- A draft that goes on from another one with some columns: it has their definitions beside those
that were there, and has recorded the facts that their declarations show. -/
structure Defines (draft next : TableDraft) (definitions : List (String × String)) : Prop where
  parts_perm : next.parts.Perm (draft.parts ++
    definitions.map fun entry => .raw (columnDefinition entry.1 entry.2) .target)
  columns_eq : next.columns = draft.columns.insertAll
    (definitions.map fun entry => (entry.1, .ofDeclaration entry.2))

theorem Defines.refl (draft : TableDraft) : draft.Defines draft [] where
  parts_perm := by simp
  columns_eq := rfl

theorem Defines.trans {draft next final : TableDraft} {first second : List (String × String)}
    (left : draft.Defines next first) (right : next.Defines final second) :
    draft.Defines final (first ++ second) where
  parts_perm := by
    rw [List.map_append, ← List.append_assoc]
    exact right.parts_perm.trans (left.parts_perm.append_right _)
  columns_eq := by
    rw [right.columns_eq, left.columns_eq, List.map_append, Columns.insertAll_append]

/-- A legible call succeeds on every draft and defines what it says. -/
theorem exists_perform_of_legible {call : ColumnCall} (legible : call.Legible)
    (registry : Registry) (draft : TableDraft) :
    ∃ next notices, draft.perform registry call = .ok (next, notices) ∧
      draft.Defines next call.definitions := by
  have recorded := legible.declares_eq registry draft.table []
  cases call with
  | primaryKey name =>
      refine ⟨_, _, rfl, ?_, ?_⟩
      · exact (List.perm_append_singleton _ _).symm
      · rw [← recorded]
        rfl
  | timestamps =>
      refine ⟨_, _, rfl, ?_, ?_⟩
      · exact .of_eq (List.append_assoc _ _ _)
      · rw [← recorded]
        rfl
  | plain type name options =>
      refine ⟨_, _, rfl, List.Perm.refl _, ?_⟩
      rw [← recorded]
      rfl
  | inspect => exact ⟨_, _, rfl, .refl draft⟩
  | uuid | foreignKey | fail => cases legible

/-- So do legible calls one after another. -/
theorem exists_performAll_of_legible {calls : List ColumnCall}
    (legible : ∀ call ∈ calls, call.Legible) (registry : Registry) (draft : TableDraft) :
    ∃ final notices, draft.performAll registry calls = (.ok final, notices) ∧
      draft.Defines final (calls.flatMap ColumnCall.definitions) := by
  induction calls generalizing draft with
  | nil => exact ⟨draft, [], rfl, .refl draft⟩
  | cons call rest ih =>
      rcases List.forall_mem_cons.1 legible with ⟨callLegible, restLegible⟩
      rcases exists_perform_of_legible callLegible registry draft with
        ⟨next, shown, stepped, defines⟩
      rcases ih restLegible next with ⟨final, later, completed, definesRest⟩
      refine ⟨final, shown ++ later, ?_, ?_⟩
      · simp only [performAll, stepped, completed]
      · rw [List.flatMap_cons]
        exact defines.trans definesRest

end TableDraft

/-! ## Both ways to define a table -/

/-- Distinct names have the same facts in whatever order they are declared. -/
theorem lastDeclared?_of_perm {left right : List (String × ColumnFacts)} (perm : left.Perm right)
    (distinct : (left.map Prod.fst).Nodup) (name : String) :
    lastDeclared? left name = lastDeclared? right name := by
  have distinctRight : (right.map Prod.fst).Nodup := (perm.map Prod.fst).nodup_iff.1 distinct
  rw [lastDeclared?_of_nodup distinct, lastDeclared?_of_nodup distinctRight]
  cases found : left.lookup name with
  | some facts =>
      rcases List.lookup_eq_some_iff.1 found with ⟨before, after, left_eq, _⟩
      have member : (name, facts) ∈ left := by simp [left_eq]
      exact (lookup_of_mem distinctRight (perm.mem_iff.1 member)).symm
  | none =>
      symm
      rw [List.lookup_eq_none_iff] at found ⊢
      intro entry member
      exact found entry (perm.mem_iff.2 member)

namespace Statement

theorem table?_createTable (statement : Statement) (registry : Registry) (table : String)
    (columns : List (String × String)) (other : String) :
    (statement.createTable registry table columns).registry.table? other =
      if other = table then
        some (((registry.table? table).getD .empty).insertAll
          (columns.map fun entry => (entry.1, .ofDeclaration entry.2)))
      else registry.table? other :=
  registry.table?_registerColumns_defineTable table _ other

/-- Both ways to define a table record the same about a column, for every numbered key, every column
for a time, and every plain column whose default does not mislead. On any draft, a call for such a
column adds its definitions, and the facts that it records are those that the declarations in them
show. So over any registry that a run can leave, a draft of such columns succeeds; a definition from
the same declarations records the same columns in every table, and if their names are distinct, the
same facts in whatever order the declarations are given. -/
theorem createTable_of_drafted (steps : List RegistryStep) (statement : Statement)
    (table : String) {calls : List ColumnCall} (legible : ∀ call ∈ calls, call.Legible) :
    let registry := Registry.empty.afterSteps steps
    let definitions := calls.flatMap ColumnCall.definitions
    let drafted := statement.createTableWith registry table calls
    (∀ call ∈ calls, ∀ draft : TableDraft, ∃ next notices,
      draft.perform registry call = .ok (next, notices) ∧ draft.Defines next call.definitions) ∧
    (∃ draft notices, (TableDraft.empty table).performAll registry calls = (.ok draft, notices) ∧
      (TableDraft.empty table).Defines draft definitions) ∧
    drafted.failure = none ∧
    (∀ other, (statement.createTable registry table definitions).registry.table? other =
      drafted.registry.table? other) ∧
    ((definitions.map Prod.fst).Nodup → ∀ declared, declared.Perm definitions → ∀ other name,
      (statement.createTable registry table declared).registry.column? other name =
        drafted.registry.column? other name) := by
  intro registry definitions drafted
  rcases TableDraft.exists_performAll_of_legible legible registry (.empty table) with
    ⟨draft, notices, performed, defines⟩
  have drafted_eq := statement.createTableWith_of_ok performed
  have recordedDistinct : ((registry.table? table).getD .empty).names.Nodup :=
    Registry.property_getD_lookup List.nodup_nil
      (Registry.distinct_afterSteps (Registry.allColumns_empty _)) table
  have tables (other : String) : (statement.createTable registry table definitions).registry.table?
      other = drafted.registry.table? other := by
    have table_eq : draft.table = table := TableDraft.table_performAll performed
    have columns_eq : draft.columns = Columns.empty.insertAll
        (definitions.map fun entry => (entry.1, .ofDeclaration entry.2)) := defines.columns_eq
    simp only [drafted, drafted_eq, table?_createTable]
    rw [Registry.table?_commit, table_eq, columns_eq, Columns.insertAll_insertAll recordedDistinct]
  refine ⟨?_, ⟨draft, notices, performed, defines⟩, ?_, tables, ?_⟩
  · intro call member draft
    exact TableDraft.exists_perform_of_legible (legible call member) registry draft
  · simp only [drafted, drafted_eq]
  · intro distinct declared perm other name
    have facts := lastDeclared?_of_perm
      (perm.map fun entry => (entry.1, ColumnFacts.ofDeclaration entry.2))
      (by simpa [Function.comp_def] using (perm.map Prod.fst).nodup_iff.2 distinct) name
    rw [Registry.column?, Registry.column?, ← tables, table?_createTable, table?_createTable]
    split
    · simp only [Option.bind_some, Columns.get?_insertAll, facts]
    · rfl

/-- The end of a default and the word behind it make no phrase, since the mark of the literal is
between them. The key is declared first here, although it is drafted last. -/
theorem createTable_of_drafted_posts :
    let calls := [ColumnCall.timestamps,
      .plain .text "body" { default := some (.text "why NOT"), nullable := true }, .id]
    let declared := [("id", "INTEGER PRIMARY KEY AUTOINCREMENT"),
      ("body", "TEXT DEFAULT 'why NOT' NULL"),
      ("created_at", "TIMESTAMP DEFAULT CURRENT_TIMESTAMP NOT NULL"),
      ("updated_at", "TIMESTAMP DEFAULT CURRENT_TIMESTAMP NOT NULL")]
    let registry := Registry.empty.afterSteps []
    let drafted := Statement.empty.createTableWith registry "posts" calls
    let facts : ColumnFacts := ⟨.text, .string, true, true, false⟩
    (∀ call ∈ calls, call.Legible) ∧ drafted.failure = none ∧
      drafted.registry.column? "posts" "body" = some facts ∧
      (Statement.empty.createTable registry "posts" declared).registry.column? "posts" "body" =
        some facts := by
  intro calls declared registry drafted facts
  have legible : ∀ call ∈ calls, call.Legible := by decide +kernel
  have recorded : drafted.registry.column? "posts" "body" = some facts := by decide +kernel
  have distinct : ((calls.flatMap ColumnCall.definitions).map Prod.fst).Nodup := by decide +kernel
  have perm : declared.Perm (calls.flatMap ColumnCall.definitions) := by decide +kernel
  rcases createTable_of_drafted [] .empty "posts" legible with ⟨_, _, completed, _, anyOrder⟩
  exact ⟨legible, completed, recorded, (anyOrder distinct declared perm _ _).trans recorded⟩

end Statement

end RankedSql

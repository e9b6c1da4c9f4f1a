import RankedSql.Proofs.DraftSteps
import RankedSql.Proofs.RankOrder
import RankedSql.Proofs.Sealed
import RankedSql.Proofs.TableLayout

/-!
# The order of columns and constraints

A drafted table writes its plain columns first and its referencing columns last, each of these
together with its constraint. So a statement with two referencing columns has a column after a
constraint, and one with at most one of them has not (`constraintsLast_render_iff`).

The proof reads the body back. Every part of a draft is one enclosed column, or an enclosed column
and a constraint with a comma between them (`Part.TableEntry`); a step of a draft adds at most one
such part, at the rank of constraints exactly if it adds a foreign key.
-/

namespace RankedSql

/-- A type whose own name, if it has one, is bare. -/
def ColumnType.NameBare (type : ColumnType) : Prop := ∀ name, type = .custom name → Bare name

/-- A registry in which all types have bare names. -/
def Registry.TypesBare (registry : Registry) : Prop :=
  ∀ table column facts, registry.column? table column = some facts → facts.type.NameBare

/-- A step with bare names whose default is a text only where defaults are literals. -/
def ColumnCall.NamesBare : ColumnCall → Prop
  | .primaryKey name | .uuid name => Bare name
  | .plain type name options =>
      Bare name ∧ ∀ text, options.default = some (.text text) →
        type.columnType.quotesDefault = true
  | .foreignKey name reference _ _ => Bare name ∧ Bare reference
  | .timestamps | .fail _ _ | .inspect => True

/-- Whether a step adds a foreign key to a draft, rather than something else or nothing. -/
def ColumnCall.addsForeignKey (registry : Registry) (draft : TableDraft) : ColumnCall → Bool
  | .foreignKey name reference options _ =>
      (draft.addForeignKey registry name reference options).isOk
  | _ => false

/-- The number of foreign keys that steps add. -/
def TableDraft.countForeignKeys (registry : Registry) : TableDraft → List ColumnCall → Nat
  | _, [] => 0
  | draft, call :: rest =>
      match draft.perform registry call with
      | .error _ => 0
      | .ok (next, _) =>
          (if call.addsForeignKey registry draft then 1 else 0) +
            countForeignKeys registry next rest

/-- The constraint of a referencing column. -/
def foreignKeyConstraint (name : String) (path : ColumnPath) (options : ForeignKeyOptions) :
    String :=
  "FOREIGN KEY (" ++ name ++ ") REFERENCES " ++ path.table ++ "(" ++ path.column ++ ")" ++
    options.sql

/-- A text that is read as one column: it is enclosed, and it is no constraint. -/
structure IsColumn (text : String) : Prop where
  enclosed : Enclosed text
  column : isForeignKey text.toList = false

/-- A part of a table definition: a column among the columns, or a column with its constraint among
the constraints. -/
inductive Part.TableEntry : Part → Prop where
  | column {text : String} (column : IsColumn text) (notEmpty : text ≠ "") :
      TableEntry (.raw text .target)
  | reference {definition constraint : String} (column : IsColumn definition)
      (enclosed : Enclosed constraint) (foreignKey : isForeignKey constraint.toList = true) :
      TableEntry (.raw (definition ++ ", " ++ constraint) .filter)

/-- The kinds of the entries of a part: whether each is a constraint. -/
def Part.kinds (part : Part) : List Bool :=
  if part.rank = .filter then [false, true] else [false]

/-! ## Bare texts -/

/-- A text of digits and of the marks and letters in times. -/
def TimeText (text : String) : Prop :=
  ∀ char ∈ text.toList, char.isDigit = true ∨ char ∈ ['-', '+', '.', ':', 'T', 'Z']

instance (text : String) : Decidable (TimeText text) := List.decidableBAll _ text.toList

theorem NumberText.timeText {text : String} (number : NumberText text) : TimeText text := by
  intro char member
  rcases number char member with digit | rfl | rfl
  · exact .inl digit
  · exact .inr (by decide)
  · exact .inr (by decide)

theorem TimeText.append {left right : String} (timeLeft : TimeText left)
    (timeRight : TimeText right) : TimeText (left ++ right) := by
  intro char member
  rw [String.toList_append] at member
  exact (List.mem_append.1 member).elim (timeLeft char) (timeRight char)

theorem TimeText.bare {text : String} (time : TimeText text) : Bare text := by
  intro char member
  refine ⟨?_, ?_, ?_, ?_, ?_⟩ <;>
    · rintro rfl
      simpa using time _ member

theorem NumberText.bare {text : String} (number : NumberText text) : Bare text :=
  number.timeText.bare

theorem timeText_padded (width number : Nat) : TimeText (Numeral.padded width number) := by
  intro char member
  exact .inl (Numeral.isDigit_of_mem_padded member)

theorem timeText_date (date : Date) : TimeText date.text := by
  have year : TimeText (Date.yearText date.year) := by
    unfold Date.yearText
    split
    · exact timeText_padded 4 _
    · split
      · exact TimeText.append (by decide) (timeText_padded 4 _)
      · exact TimeText.append (by decide) (timeText_padded 4 _)
  exact (((year.append (by decide)).append (timeText_padded 2 _)).append (by decide)).append
    (timeText_padded 2 _)

theorem timeText_rfc3339 (instant : Instant) : TimeText instant.rfc3339 := by
  have clock : TimeText instant.clockText :=
    (((((timeText_padded 2 _).append (by decide)).append (timeText_padded 2 _)).append
      (by decide : TimeText ":")).append (timeText_padded 2 _)).append (by decide : TimeText ".")
      |>.append (timeText_padded 3 _)
  exact (((timeText_date instant.date).append (by decide)).append clock).append (by decide)

/-- The bare expression of a value that is not a text is a time or number, or a truth value. -/
theorem Value.bareText?_cases {value : Value} {bare : String}
    (bareText : value.bareText? = some bare) :
    value = .text bare ∨ TimeText bare ∨ bare = "TRUE" ∨ bare = "FALSE" := by
  cases value with
  | null => cases bareText
  | bool value =>
      rcases Option.some.inj bareText with rfl
      cases value
      · exact .inr (.inr (.inr rfl))
      · exact .inr (.inr (.inl rfl))
  | int value =>
      rcases Option.some.inj bareText with rfl
      exact .inr (.inl (numberText_intRepr value).timeText)
  | float value => exact .inr (.inl (numberText_floatText bareText).timeText)
  | text value => exact .inl (congrArg Value.text (Option.some.inj bareText))
  | instant value =>
      rcases Option.some.inj bareText with rfl
      exact .inr (.inl (timeText_rfc3339 value))

/-- The operand of a default is enclosed, unless it is a text that is not made a literal. -/
theorem enclosed_defaultOperand {value : Value} {asLiteral : Bool}
    (literal : ∀ text, value = .text text → asLiteral = true) :
    Enclosed (value.defaultOperand asLiteral) := by
  unfold Value.defaultOperand
  split
  · decide
  · next bare bareText =>
      split
      · exact enclosed_quoted bare
      · next notLiteral =>
          rcases Value.bareText?_cases bareText with same | time | rfl | rfl
          · exact absurd (literal bare same) notLiteral
          · exact time.bare.enclosed
          · decide
          · decide

theorem ColumnType.bare_sql {type : ColumnType} (nameBare : type.NameBare)
    (notVarchar : ∀ length, type ≠ .varchar length) : Bare type.sql := by
  cases type with
  | varchar length => exact absurd rfl (notVarchar length)
  | custom name => exact nameBare name rfl
  | _ => decide

/-! ## Entries of a draft -/

theorem Bare.isColumn {text : String} (bare : Bare text) : IsColumn text :=
  ⟨bare.enclosed, isForeignKey_of_not_mem bare.not_mem⟩

theorem columnDefinition_ne_empty (name declaration : String) :
    columnDefinition name declaration ≠ "" := by
  intro empty
  have chars := congrArg String.toList empty
  simp [columnDefinition] at chars

/-- A word that is not one of a constraint makes an entry a column. -/
theorem isForeignKey_columnDefinition {name word rest : String} (bareName : Bare name)
    (bareWord : Bare word) (single : Text.words word.toList = [word.toList])
    (other : word.toList.map Char.toUpper ∉ ["FOREIGN".toList, "KEY".toList])
    (ends : ∀ next ∈ rest.toList.head?, next = ' ' ∨ next = '(') :
    isForeignKey (columnDefinition name (word ++ rest)).toList = false := by
  have spelled : (columnDefinition name (word ++ rest)).toList =
      name.toList ++ ' ' :: (word.toList ++ rest.toList) := by
    simp [columnDefinition]
  -- The word decides where a parenthesis follows it: an entry without one is a column anyway.
  by_cases present : '(' ∈ rest.toList
  · rcases List.eq_append_cons_of_mem present with ⟨between, after, rest_eq, absent⟩
    have member : word.toList ∈
        Text.words (name.toList ++ ' ' :: (word.toList ++ between)) := by
      rw [Text.words_append_cons Text.isBlank_space]
      refine List.mem_append_right _ ?_
      cases between with
      | nil => simp [single]
      | cons next tail =>
          have blank : next = ' ' := by
            rw [rest_eq] at ends
            rcases ends next rfl with same | paren
            · exact same
            · exact absurd (paren ▸ List.mem_cons_self) absent
          rw [blank, Text.words_append_cons Text.isBlank_space, single]
          exact List.mem_append_left _ List.mem_cons_self
    have absentBefore : '(' ∉ name.toList ++ ' ' :: (word.toList ++ between) := by
      simp [bareName.not_mem, bareWord.not_mem, absent]
    have regrouped : name.toList ++ ' ' :: (word.toList ++ (between ++ '(' :: after)) =
        (name.toList ++ ' ' :: (word.toList ++ between)) ++ '(' :: after := by simp
    rw [spelled, rest_eq, regrouped]
    exact isForeignKey_of_mem_words absentBefore member other after
  · rw [spelled]
    exact isForeignKey_of_not_mem (by simp [bareName.not_mem, bareWord.not_mem, present])

theorem PlainType.bare_sql (type : PlainType) : Bare type.columnType.sql := by
  cases type <;> decide

theorem head_append {holds : Char → Prop} {left right : String}
    (holdsLeft : ∀ next ∈ left.toList.head?, holds next)
    (holdsRight : ∀ next ∈ right.toList.head?, holds next) :
    ∀ next ∈ (left ++ right).toList.head?, holds next := by
  intro next first
  cases chars : left.toList with
  | nil => exact holdsRight next (by simpa [chars] using first)
  | cons head tail => exact holdsLeft next (by simpa [chars] using first)

namespace ColumnOptions

variable (options : ColumnOptions)

theorem head_defaultSql (type : ColumnType) :
    ∀ next ∈ (options.defaultSql type).toList.head?, next = ' ' := by
  unfold defaultSql
  split <;> simp

theorem head_uniqueSql : ∀ next ∈ options.uniqueSql.toList.head?, next = ' ' := by
  unfold uniqueSql
  split <;> simp

theorem head_nullableSql : ∀ next ∈ options.nullableSql.toList.head?, next = ' ' := by
  unfold nullableSql
  split <;> simp

end ColumnOptions

theorem isColumn_plain {type : PlainType} {name : String} {options : ColumnOptions}
    (bareName : Bare name)
    (literal : ∀ text, options.default = some (.text text) →
      type.columnType.quotesDefault = true) :
    IsColumn (columnDefinition name (type.declaration options)) := by
  have default : Enclosed (options.defaultSql type.columnType) := by
    unfold ColumnOptions.defaultSql
    split
    · next value given =>
        refine Enclosed.append (by decide) (enclosed_defaultOperand ?_)
        rintro text rfl
        exact literal text given
    · decide
  have unique : Enclosed options.uniqueSql := by unfold ColumnOptions.uniqueSql; split <;> decide
  have nullable : Enclosed options.nullableSql := by
    unfold ColumnOptions.nullableSql
    split <;> decide
  refine ⟨?_, ?_⟩
  · exact (bareName.append (by decide : Bare " ")).enclosed.append
      (((type.bare_sql.enclosed.append default).append unique).append nullable)
  · have regrouped : type.declaration options = type.columnType.sql ++
        (options.defaultSql type.columnType ++ options.uniqueSql ++ options.nullableSql) := by
      simp only [PlainType.declaration, String.append_assoc]
    rw [regrouped]
    refine isForeignKey_columnDefinition bareName type.bare_sql ?_ ?_ ?_
    · cases type <;> decide
    · cases type <;> decide
    · intro next first
      exact .inl (head_append (head_append (options.head_defaultSql _) options.head_uniqueSql)
        options.head_nullableSql next first)

theorem isColumn_typed {type : ColumnType} {name : String} (bareName : Bare name)
    (nameBare : type.NameBare) : IsColumn (columnDefinition name type.sql) := by
  by_cases varchar : ∃ length, type = .varchar length
  · rcases varchar with ⟨length, rfl⟩
    have parenthesised : ColumnType.sql (.varchar length) =
        "VARCHAR" ++ ("(" ++ length.toNat.repr ++ ")") := by
      have regroup (word opening number closing : String) :
          word ++ opening ++ number ++ closing = word ++ (opening ++ number ++ closing) := by
        simp only [String.append_assoc]
      exact regroup "VARCHAR" "(" _ ")"
    rw [parenthesised]
    refine ⟨?_, ?_⟩
    · exact (bareName.append (by decide : Bare " ")).enclosed.append
        (Enclosed.append (by decide) (enclosed_parenthesised (numberText_natRepr _).bare))
    · refine isForeignKey_columnDefinition bareName (by decide) (by decide) (by decide) ?_
      simp
  · exact ((bareName.append (by decide : Bare " ")).append
      (ColumnType.bare_sql nameBare fun length same => varchar ⟨length, same⟩)).isColumn

theorem foreignKey_eq (name : String) (path : ColumnPath) (type : ColumnType)
    (options : ForeignKeyOptions) :
    columnDefinition name (foreignKeyDeclaration name path type options) =
      columnDefinition name type.sql ++ ", " ++ foreignKeyConstraint name path options := by
  have regroup (comma opening references : String) :
      name ++ " " ++ (type.sql ++ (comma ++ opening) ++ name ++ references ++ path.table ++ "(" ++
        path.column ++ ")" ++ options.sql) =
      name ++ " " ++ type.sql ++ comma ++ (opening ++ name ++ references ++ path.table ++ "(" ++
        path.column ++ ")" ++ options.sql) := by
    simp only [String.append_assoc]
  exact regroup ", " "FOREIGN KEY (" ") REFERENCES "

theorem foreignKeyConstraint_eq (name : String) (path : ColumnPath)
    (options : ForeignKeyOptions) :
    foreignKeyConstraint name path options =
      "FOREIGN KEY " ++ ("(" ++ name ++ ")") ++ " REFERENCES " ++ path.table ++
        ("(" ++ path.column ++ ")") ++ options.sql := by
  have regroup (opening first closing references : String) :
      (opening ++ first) ++ name ++ (closing ++ references) ++ path.table ++ "(" ++ path.column ++
        ")" ++ options.sql =
      opening ++ (first ++ name ++ closing) ++ references ++ path.table ++
        ("(" ++ path.column ++ ")") ++ options.sql := by
    simp only [String.append_assoc]
  exact regroup "FOREIGN KEY " "(" ")" " REFERENCES "

theorem isForeignKey_foreignKeyConstraint (name : String) (path : ColumnPath)
    (options : ForeignKeyOptions) :
    isForeignKey (foreignKeyConstraint name path options).toList = true := by
  have spelled : (foreignKeyConstraint name path options).toList =
      "FOREIGN KEY ".toList ++ '(' :: (name ++ ")" ++ " REFERENCES " ++ path.table ++
        ("(" ++ path.column ++ ")") ++ options.sql).toList := by
    simp [foreignKeyConstraint_eq]
  rw [spelled, isForeignKey_append_cons (by decide)]
  decide

/-- What holds of the words for each action, and of texts put together, holds of the words for all
actions. -/
theorem ForeignKeyOptions.sql_induction {holds : String → Prop} (options : ForeignKeyOptions)
    (append : ∀ {left right}, holds left → holds right → holds (left ++ right))
    (empty : holds "")
    (action : ∀ action, holds (actionSql "DELETE" (some action)) ∧
      holds (actionSql "UPDATE" (some action))) : holds options.sql := by
  have onDelete : holds (actionSql "DELETE" options.onDelete) := by
    cases options.onDelete with
    | none => exact empty
    | some chosen => exact (action chosen).1
  have onUpdate : holds (actionSql "UPDATE" options.onUpdate) := by
    cases options.onUpdate with
    | none => exact empty
    | some chosen => exact (action chosen).2
  exact append onDelete onUpdate

theorem enclosed_foreignKeyConstraint {name : String} {path : ColumnPath}
    (bareName : Bare name) (bareTable : Bare path.table) (bareColumn : Bare path.column)
    (options : ForeignKeyOptions) : Enclosed (foreignKeyConstraint name path options) := by
  have actions : Bare options.sql :=
    options.sql_induction Bare.append (by decide) fun action => by cases action <;> decide
  rw [foreignKeyConstraint_eq]
  have opened : Enclosed ("FOREIGN KEY " ++ ("(" ++ name ++ ")")) :=
    Enclosed.append (by decide) (enclosed_parenthesised bareName)
  have referenced := (opened.append (by decide : Enclosed " REFERENCES ")).append bareTable.enclosed
  exact (referenced.append (enclosed_parenthesised bareColumn)).append actions.enclosed

/-! ## The body of a draft -/

theorem joinWith_flatten (separator : String) {groups : List (List String)}
    (notEmpty : ∀ group ∈ groups, group ≠ []) :
    Text.joinWith separator (groups.map (Text.joinWith separator)) =
      Text.joinWith separator groups.flatten := by
  induction groups with
  | nil => rfl
  | cons group rest ih =>
      rcases List.forall_mem_cons.1 notEmpty with ⟨groupNotEmpty, restNotEmpty⟩
      cases rest with
      | nil => simp
      | cons second later =>
          have laterNotEmpty : (second :: later).flatten ≠ [] := by
            simp [restNotEmpty second List.mem_cons_self]
          rw [List.flatten_cons, Text.joinWith_append separator groupNotEmpty laterNotEmpty,
            ← ih restNotEmpty]
          rfl

theorem Part.TableEntry.text_ne_empty {part : Part} (entry : part.TableEntry) : part.text ≠ "" := by
  cases entry with
  | column column notEmpty => exact notEmpty
  | @reference definition constraint =>
      intro empty
      have joined : definition ++ ", " ++ constraint = "" := empty
      simp at joined

/-- The entries that the parts of a draft consist of, part by part, with their kinds. -/
theorem exists_entries {parts : List Part} (entries : ∀ part ∈ parts, part.TableEntry) :
    ∃ groups : List (List String), parts.map Part.text = groups.map (Text.joinWith ", ") ∧
      (∀ group ∈ groups, group ≠ []) ∧ (∀ entry ∈ groups.flatten, Enclosed entry) ∧
      (groups.flatten.map fun entry => isForeignKey entry.toList) = parts.flatMap Part.kinds := by
  induction parts with
  | nil => exact ⟨[], rfl, by simp, by simp, rfl⟩
  | cons part rest ih =>
      rcases List.forall_mem_cons.1 entries with ⟨entry, entriesRest⟩
      rcases ih entriesRest with ⟨groups, texts, notEmpty, enclosed, kinds⟩
      cases entry with
      | @column text column =>
          refine ⟨[text] :: groups, ?_, ?_, ?_, ?_⟩
          · rw [List.map_cons, List.map_cons, texts]
            rfl
          · exact List.forall_mem_cons.2 ⟨by simp, notEmpty⟩
          · exact List.forall_mem_cons.2 ⟨column.enclosed, enclosed⟩
          · simpa [Part.kinds, Part.raw, column.column] using kinds
      | @reference definition constraint column enclosedConstraint foreignKey =>
          refine ⟨[definition, constraint] :: groups, ?_, ?_, ?_, ?_⟩
          · rw [List.map_cons, List.map_cons, texts]
            rfl
          · exact List.forall_mem_cons.2 ⟨by simp, notEmpty⟩
          · exact List.forall_mem_cons.2
              ⟨column.enclosed, List.forall_mem_cons.2 ⟨enclosedConstraint, enclosed⟩⟩
          · simpa [Part.kinds, Part.raw, column.column, foreignKey] using kinds

theorem bodyEntries_spaced {before body : List Char} (absent : '(' ∉ before) :
    (bodyEntries (Text.spaced (before ++ '(' :: body))).map isForeignKey =
      (topPieces .top body).map isForeignKey := by
  have visible : Text.isBlank '(' = false := by decide
  have kept : ∀ char ∈ Text.spaced before, (char != '(') = true := by
    intro char member
    rw [bne_iff_ne]
    rintro rfl
    exact absent ((mem_spaced visible).1 member)
  rw [bodyEntries, Text.spaced_append_cons visible, List.dropWhile_append_of_pos kept,
    List.dropWhile_cons_of_neg (by simp), List.tail_cons, topPieces_spaced, List.map_map]
  exact List.map_congr_left fun entry _ => isForeignKey_spaced entry

theorem TableDraft.toList_sql (draft : TableDraft) :
    draft.sql.toList = Text.spaced ("CREATE TABLE " ++ draft.table ++ " (" ++
      Text.joinWith ", " draft.definitions ++ ")").toList := by
  refine Text.toList_singleSpaced ?_ ?_
  · intro first start
    have letter : 'C' = first := by simpa using start
    exact letter ▸ (by decide : Text.isBlank 'C' = false)
  · intro last ends
    have closing : ")".toList = [')'] := rfl
    rw [Option.mem_def, String.toList_append, closing, List.getLast?_concat] at ends
    exact Option.some.inj ends ▸ (by decide : Text.isBlank ')' = false)

theorem not_mem_opening {table : String} (bareTable : Bare table) :
    '(' ∉ ("CREATE TABLE " ++ table ++ " ").toList :=
  (((by decide : Bare "CREATE TABLE ").append bareTable).append (by decide)).not_mem

/-- The body of a draft has the entries of its parts, in the order of the ranks. -/
theorem TableDraft.kinds_sql {draft : TableDraft} (bareTable : Bare draft.table)
    (entries : ∀ part ∈ draft.parts, part.TableEntry) (notEmpty : draft.parts ≠ []) :
    (bodyEntries draft.sql.toList).map isForeignKey =
      (sortByRank draft.parts).flatMap Part.kinds := by
  have entriesSorted : ∀ part ∈ sortByRank draft.parts, part.TableEntry := fun part member =>
    entries part (mem_stableSort.1 member)
  rcases exists_entries entriesSorted with ⟨groups, texts, groupsNotEmpty, enclosed, kinds⟩
  have definitions_eq : draft.definitions = groups.map (Text.joinWith ", ") := by
    rw [definitions, ← texts, List.filter_eq_self]
    intro text member
    rcases List.mem_map.1 member with ⟨part, partMember, rfl⟩
    simpa using (entriesSorted part partMember).text_ne_empty
  have flattenNotEmpty : groups.flatten ≠ [] := by
    intro none
    rcases List.exists_mem_of_ne_nil _ notEmpty with ⟨part, member⟩
    have noKinds : (sortByRank draft.parts).flatMap Part.kinds = [] := by rw [← kinds, none]; rfl
    have partKinds := List.flatMap_eq_nil_iff.1 noKinds part (mem_stableSort.2 member)
    unfold Part.kinds at partKinds
    split at partKinds <;> cases partKinds
  have spelled : ("CREATE TABLE " ++ draft.table ++ " (" ++
      Text.joinWith ", " draft.definitions ++ ")").toList =
      ("CREATE TABLE " ++ draft.table ++ " ").toList ++
        '(' :: ((Text.joinWith ", " groups.flatten).toList ++ [')']) := by
    rw [definitions_eq, joinWith_flatten ", " groupsNotEmpty]
    simp
  rw [toList_sql, spelled, bodyEntries_spaced (not_mem_opening bareTable),
    kinds_joinWith flattenNotEmpty enclosed, kinds]

/-- The body of a draft without parts is one empty entry. -/
theorem TableDraft.kinds_sql_of_nil {draft : TableDraft} (bareTable : Bare draft.table)
    (empty : draft.parts = []) : (bodyEntries draft.sql.toList).map isForeignKey = [false] := by
  have noDefinitions : draft.definitions = [] := by
    rw [definitions, empty]
    rfl
  have spelled : ("CREATE TABLE " ++ draft.table ++ " (" ++
      Text.joinWith ", " draft.definitions ++ ")").toList =
      ("CREATE TABLE " ++ draft.table ++ " ").toList ++ '(' :: [')'] := by
    simp [noDefinitions]
  rw [toList_sql, spelled, bodyEntries_spaced (not_mem_opening bareTable)]
  decide

/-! ## The order of kinds -/

theorem Part.TableEntry.rank_eq {part : Part} (entry : part.TableEntry) :
    part.rank = .target ∨ part.rank = .filter := by
  cases entry with
  | column => exact .inl rfl
  | reference => exact .inr rfl

theorem partsAt_eq_nil {parts : List Part} (entries : ∀ part ∈ parts, part.TableEntry)
    {rank : Rank} (notTarget : rank ≠ .target) (notFilter : rank ≠ .filter) :
    partsAt rank parts = [] := by
  refine List.filter_eq_nil_iff.2 fun part member same => ?_
  rw [beq_iff_eq] at same
  rcases (entries part member).rank_eq with target | filter
  · exact notTarget (same.symm.trans target)
  · exact notFilter (same.symm.trans filter)

theorem kinds_partsAt_target {parts : List Part} {kind : Bool}
    (member : kind ∈ (partsAt .target parts).flatMap Part.kinds) : kind = false := by
  rcases List.mem_flatMap.1 member with ⟨part, partMember, kindMember⟩
  simpa [Part.kinds, rank_of_mem_partsAt partMember] using kindMember

theorem pairwise_kinds_filter_iff {parts : List Part}
    (filter : ∀ part ∈ parts, part.rank = .filter) :
    ((parts.flatMap Part.kinds).Pairwise fun earlier later => earlier = true → later = true) ↔
      parts.length ≤ 1 := by
  match parts with
  | [] => simp
  | [only] => simp [Part.kinds, filter only (by simp)]
  | first :: second :: rest =>
      have firstKinds : first.kinds = [false, true] := by simp [Part.kinds, filter first (by simp)]
      have secondKinds : second.kinds = [false, true] := by
        simp [Part.kinds, filter second (by simp)]
      simp [firstKinds, secondKinds]

/-- Columns come before constraints as long as there is at most one part with a constraint. -/
theorem pairwise_kinds_iff {parts : List Part} (entries : ∀ part ∈ parts, part.TableEntry) :
    (((sortByRank parts).flatMap Part.kinds).Pairwise fun earlier later =>
      earlier = true → later = true) ↔ (partsAt .filter parts).length ≤ 1 := by
  -- All columns that stand alone come first, so only parts with constraints can break the order.
  have split : sortByRank parts = partsAt .target parts ++ partsAt .filter parts := by
    rw [sortByRank_eq_flatMap]
    simp [Rank.all, partsAt_eq_nil entries]
  have columnsOnly : ((partsAt .target parts).flatMap Part.kinds).Pairwise fun earlier later =>
      earlier = true → later = true := by
    refine List.pairwise_of_forall_mem_list fun earlier member later _ constraint => ?_
    rw [kinds_partsAt_target member] at constraint
    cases constraint
  rw [split, List.flatMap_append, List.pairwise_append,
    pairwise_kinds_filter_iff fun part => rank_of_mem_partsAt]
  constructor
  · exact fun ordered => ordered.2.1
  · refine fun atMostOne => ⟨columnsOnly, atMostOne, fun earlier member later _ constraint => ?_⟩
    rw [kinds_partsAt_target member] at constraint
    cases constraint

/-! ## Steps of a draft -/

/-- A draft of table entries in which all types have bare names. -/
structure TableDraft.Orderly (draft : TableDraft) : Prop where
  entries : ∀ part ∈ draft.parts, part.TableEntry
  types : ∀ column facts, draft.columns.get? column = some facts → facts.type.NameBare

/-- The number of parts that hold constraints. -/
def TableDraft.constraintCount (draft : TableDraft) : Nat := (partsAt .filter draft.parts).length

namespace TableDraft

theorem types_insert {draft : TableDraft}
    (types : ∀ column facts, draft.columns.get? column = some facts → facts.type.NameBare)
    {name : String} {facts : ColumnFacts} (nameBare : facts.type.NameBare) :
    ∀ column found, (draft.columns.insert name facts).get? column = some found →
      found.type.NameBare := by
  intro column found recorded
  rw [Columns.get?_insert] at recorded
  split at recorded
  · rcases Option.some.inj recorded with rfl
    exact nameBare
  · exact types column found recorded

theorem Orderly.addFront {draft : TableDraft} (orderly : draft.Orderly) {name declaration : String}
    {facts : ColumnFacts} (column : IsColumn (columnDefinition name declaration))
    (nameBare : facts.type.NameBare) : (draft.addFront name facts declaration).Orderly := by
  have entry := Part.TableEntry.column column (columnDefinition_ne_empty name declaration)
  exact ⟨List.forall_mem_cons.2 ⟨entry, orderly.entries⟩, types_insert orderly.types nameBare⟩

theorem Orderly.addBack {draft : TableDraft} (orderly : draft.Orderly) {name declaration : String}
    {facts : ColumnFacts} {rank : Rank}
    (entry : (Part.raw (columnDefinition name declaration) rank).TableEntry)
    (nameBare : facts.type.NameBare) : (draft.addBack name facts declaration rank).Orderly :=
  ⟨List.forall_mem_append.2 ⟨orderly.entries, List.forall_mem_singleton.2 entry⟩,
    types_insert orderly.types nameBare⟩

theorem Orderly.addHook {draft : TableDraft} (orderly : draft.Orderly) (phase : Phase)
    (hook : Hook) : (draft.addHook phase hook).Orderly :=
  ⟨orderly.entries, orderly.types⟩

theorem constraintCount_addBack (draft : TableDraft) (name declaration : String)
    (facts : ColumnFacts) (rank : Rank) :
    (draft.addBack name facts declaration rank).constraintCount =
      draft.constraintCount + if rank = .filter then 1 else 0 := by
  simp only [constraintCount, partsAt, addBack, List.filter_append, List.length_append]
  cases rank <;> rfl

theorem constraintCount_addTimestamp (draft : TableDraft) (name : String) :
    (draft.addTimestamp name).constraintCount = draft.constraintCount :=
  constraintCount_addBack draft name filledTimeDeclaration .filledTime .target

theorem nameBare_of_resolve {registry : Registry} {draft : TableDraft} (orderly : draft.Orderly)
    (typesBare : registry.TypesBare) {reference : String} {path : ColumnPath} {facts : ColumnFacts}
    (resolved : draft.resolve registry reference = .ok (path, facts)) :
    path.text = reference ∧ facts.type.NameBare := by
  unfold resolve at resolved
  split at resolved
  · cases resolved
  · next found read =>
      split at resolved
      · cases resolved
      · next columns known =>
          split at resolved
          · cases resolved
          · next columnFacts recorded =>
              rcases Prod.mk.inj (Except.ok.inj resolved) with ⟨rfl, rfl⟩
              refine ⟨ColumnPath.text_of_ofText? read, ?_⟩
              unfold columnsOf? at known
              split at known
              · rcases Option.some.inj known with rfl
                exact orderly.types _ _ recorded
              · refine typesBare found.table found.column _ ?_
                rw [Registry.column?, known, Option.bind_some, recorded]

/-- A foreign key that is added is a column with its constraint. -/
theorem Orderly.addForeignKey {registry : Registry} {draft : TableDraft}
    (orderly : draft.Orderly) (typesBare : registry.TypesBare) {name reference : String}
    (options : ForeignKeyOptions) (bareName : Bare name) (bareReference : Bare reference)
    {path : ColumnPath} {facts : ColumnFacts}
    (resolved : draft.resolve registry reference = .ok (path, facts)) :
    (draft.addBack name (options.facts facts.type)
      (foreignKeyDeclaration name path facts.type options) .filter).Orderly := by
  rcases nameBare_of_resolve orderly typesBare resolved with ⟨path_text, nameBare⟩
  rw [← path_text, ColumnPath.text] at bareReference
  rcases bare_append.1 bareReference with ⟨bareTableAndPoint, bareColumn⟩
  have bareTable := (bare_append.1 bareTableAndPoint).1
  refine orderly.addBack ?_ nameBare
  rw [foreignKey_eq]
  exact .reference (isColumn_typed bareName nameBare)
    (enclosed_foreignKeyConstraint bareName bareTable bareColumn options)
    (isForeignKey_foreignKeyConstraint name path options)

theorem Orderly.addTimestamp {draft : TableDraft} (orderly : draft.Orderly) {name : String}
    (bareName : Bare name) : (draft.addTimestamp name).Orderly := by
  refine orderly.addBack (.column ?_ (columnDefinition_ne_empty _ _)) fun _ same => nomatch same
  exact ((bareName.append (by decide : Bare " ")).append
    (by decide : Bare filledTimeDeclaration)).isColumn

theorem Orderly.step {registry : Registry} {draft next : TableDraft} {call : ColumnCall}
    (orderly : draft.Orderly) (typesBare : registry.TypesBare) (bare : call.NamesBare)
    (step : draft.Step registry call next) : next.Orderly := by
  cases step with
  | primaryKey name =>
      have column : Bare (columnDefinition name numberedKeyDeclaration) :=
        (Bare.append bare (by decide : Bare " ")).append (by decide)
      exact orderly.addFront column.isColumn fun _ same => nomatch same
  | uuid name =>
      have column : Bare (columnDefinition name identifierKeyDeclaration) :=
        (Bare.append bare (by decide : Bare " ")).append (by decide)
      have added : (draft.addFront name (.filledKey .uuid) identifierKeyDeclaration).Orderly :=
        orderly.addFront column.isColumn fun _ same => nomatch same
      exact added.addHook _ _
  | timestamps =>
      have created := orderly.addTimestamp (show Bare "created_at" by decide)
      have updated := created.addTimestamp (show Bare "updated_at" by decide)
      exact updated.addHook _ _
  | plain type name options =>
      have entry := Part.TableEntry.column (isColumn_plain bare.1 bare.2)
        (columnDefinition_ne_empty name (type.declaration options))
      refine orderly.addBack entry fun _ same => ?_
      cases type <;> cases same
  | foreignKey name options lenient resolved =>
      exact orderly.addForeignKey typesBare options bare.1 bare.2 resolved
  | tolerated | inspect => exact orderly

/-- A step adds a constraint exactly if it adds a foreign key. -/
theorem Step.constraintCount_eq {registry : Registry} {draft next : TableDraft} {call : ColumnCall}
    (step : draft.Step registry call next) :
    next.constraintCount =
      draft.constraintCount + if call.addsForeignKey registry draft then 1 else 0 := by
  cases step with
  | primaryKey | uuid | inspect => rfl
  | timestamps =>
      exact (constraintCount_addTimestamp _ "updated_at").trans
        (constraintCount_addTimestamp draft "created_at")
  | plain => exact constraintCount_addBack _ _ _ _ _
  | foreignKey name options lenient resolved =>
      rw [constraintCount_addBack, ColumnCall.addsForeignKey, TableDraft.addForeignKey, resolved]
      rfl
  | tolerated name options refused =>
      rw [ColumnCall.addsForeignKey, TableDraft.addForeignKey, refused]
      rfl

theorem Orderly.performAll {registry : Registry} {draft final : TableDraft}
    (orderly : draft.Orderly) (typesBare : registry.TypesBare) {calls : List ColumnCall}
    (bare : ∀ call ∈ calls, call.NamesBare) {notices : List Notice}
    (performed : draft.performAll registry calls = (.ok final, notices)) : final.Orderly :=
  invariant_performAll Orderly
    (fun call member _ _ step orderly => orderly.step typesBare (bare call member) step)
    performed orderly

/-- A completed draft has a constraint for each foreign key added. -/
theorem constraintCount_performAll {registry : Registry} {draft final : TableDraft}
    {calls : List ColumnCall} {notices : List Notice}
    (performed : draft.performAll registry calls = (.ok final, notices)) :
    final.constraintCount = draft.constraintCount + countForeignKeys registry draft calls := by
  induction calls generalizing draft notices with
  | nil =>
      rcases Prod.mk.inj performed with ⟨same, _⟩
      exact Except.ok.inj same ▸ rfl
  | cons call rest ih =>
      rcases exists_of_performAll_cons performed with ⟨next, _, _, stepped, completed⟩
      have counted := (step_of_perform stepped).constraintCount_eq
      rw [ih completed, counted]
      simp only [countForeignKeys, stepped]
      omega

/-- In an orderly draft columns come before constraints as long as there is at most one
constraint. -/
theorem Orderly.constraintsLast_iff {draft : TableDraft} (orderly : draft.Orderly)
    (bareTable : Bare draft.table) : ConstraintsLast draft.sql ↔ draft.constraintCount ≤ 1 := by
  unfold ConstraintsLast
  by_cases empty : draft.parts = []
  · rw [kinds_sql_of_nil bareTable empty, constraintCount, empty]
    simp [partsAt]
  · rw [kinds_sql bareTable orderly.entries empty]
    exact pairwise_kinds_iff orderly.entries

end TableDraft

theorem Registry.typesBare_of_mem {registry : Registry}
    (listed : ∀ entry ∈ registry.tables, ∀ column ∈ entry.2.entries, column.2.type.NameBare) :
    registry.TypesBare := by
  intro table column facts recorded
  rcases Option.bind_eq_some_iff.1 recorded with ⟨columns, known, found⟩
  rcases List.lookup_eq_some_iff.1 known with ⟨_, _, tables_eq, _⟩
  rcases List.lookup_eq_some_iff.1 found with ⟨_, _, entries_eq, _⟩
  exact listed (table, columns) (by simp [tables_eq]) (column, facts) (by simp [entries_eq])

/-- A table definition that succeeds writes all its columns before its constraints exactly if it
adds at most one foreign key: the second one puts a column behind the constraint of the first. -/
theorem constraintsLast_render_iff {registry : Registry} (typesBare : registry.TypesBare)
    {table : String} (bareTable : Bare table) {calls : List ColumnCall}
    (bare : ∀ call ∈ calls, call.NamesBare) (statement : Statement)
    (succeeds : (statement.createTableWith registry table calls).failure = none) :
    ConstraintsLast (statement.createTableWith registry table calls).statement.render ↔
      TableDraft.countForeignKeys registry (.empty table) calls ≤ 1 := by
  unfold Statement.createTableWith at succeeds ⊢
  split at succeeds
  · cases succeeds
  · next draft notices performed =>
      have orderlyEmpty : (TableDraft.empty table).Orderly :=
        ⟨by simp [TableDraft.empty], by simp [TableDraft.empty]⟩
      have orderly := orderlyEmpty.performAll typesBare bare performed
      have count := TableDraft.constraintCount_performAll performed
      have tableKept := TableDraft.table_performAll performed
      have none : (TableDraft.empty table).constraintCount = 0 := rfl
      rw [none, Nat.zero_add] at count
      rw [← count]
      exact orderly.constraintsLast_iff (tableKept ▸ bareTable)

theorem constraintsLast_of_one_foreignKey :
    let registry := (Statement.empty.createTableWith .empty "users" [.id]).registry
    let calls := [ColumnCall.foreignKey "author" "users.id" {} false, .plain .text "title" {}]
    let defined := Statement.empty.createTableWith registry "posts" calls
    registry.TypesBare ∧ Bare "posts" ∧ (∀ call ∈ calls, call.NamesBare) ∧
      defined.failure = none ∧ ConstraintsLast defined.statement.render := by
  intro registry calls defined
  have typesBare : registry.TypesBare := by
    have tables : registry.tables = [("users", ⟨[("id", .filledKey .integer)]⟩)] := by
      decide +kernel
    refine Registry.typesBare_of_mem ?_
    rw [tables]
    exact List.forall_mem_singleton.2 (List.forall_mem_singleton.2 fun _ same => nomatch same)
  have bareTable : Bare "posts" := by decide
  have bare : ∀ call ∈ calls, call.NamesBare := by
    have noDefault : ∀ text, (none : Option Value) = some (.text text) →
        PlainType.text.columnType.quotesDefault = true := fun _ given => nomatch given
    exact List.forall_mem_cons.2 ⟨⟨by decide, by decide⟩,
      List.forall_mem_singleton.2 ⟨by decide, noDefault⟩⟩
  have succeeds : defined.failure = none := by decide +kernel
  exact ⟨typesBare, bareTable, bare, succeeds,
    (constraintsLast_render_iff typesBare bareTable bare _ succeeds).2 (by decide +kernel)⟩

/-- With two foreign keys a column stands behind a constraint. -/
theorem not_constraintsLast_of_two_foreignKeys :
    let registry := (Statement.empty.createTableWith .empty "users" [.id]).registry
    let calls := [ColumnCall.foreignKey "author" "users.id" {} false,
      .foreignKey "editor" "users.id" {} false]
    let defined := Statement.empty.createTableWith registry "posts" calls
    defined.failure = none ∧
      defined.statement.render = "CREATE TABLE posts (author INTEGER, FOREIGN KEY (author) " ++
        "REFERENCES users(id), editor INTEGER, FOREIGN KEY (editor) REFERENCES users(id))" ∧
      ¬ConstraintsLast defined.statement.render := by
  decide +kernel

end RankedSql

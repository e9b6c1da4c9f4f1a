import RankedSql.Proofs.ConstraintOrder
import RankedSql.Proofs.DraftedColumns

/-!
# Columns in the statement and in the registry

A definition leaves two traces of each column: the text of its definition in the statement that
creates the table, and its facts in the registry. `DeclaredColumn` gives both for each kind of
column. A draft holds the part of each declared column in its place, keys in front
(`TableDraft.Places`). So a definition that succeeds writes every column as an entry of the
statement (`TableDraft.Places.entryIn_sql`), and of a new table with distinct names it records the
facts of each (`Registry.column?_commit`).
-/

namespace RankedSql

/-! ## Declared columns -/

/-- The default of a column, if it is a text. -/
def ColumnOptions.textDefault? (options : ColumnOptions) : Option String :=
  match options.default with
  | some (.text text) => some text
  | _ => none

/-- A column as a definition declares it. -/
inductive DeclaredColumn where
  | numberedKey (name : String)
  | identifierKey (name : String)
  | filledTime (name : String)
  | plain (type : PlainType) (name : String) (options : ColumnOptions)
  /-- A column that refers to another, of the type of that one. -/
  | reference (name : String) (path : ColumnPath) (type : ColumnType) (options : ForeignKeyOptions)

namespace DeclaredColumn

/-- The name that the column is declared with. -/
def name : DeclaredColumn → String
  | .numberedKey name | .identifierKey name | .filledTime name | .plain _ name _
  | .reference name _ _ _ => name

/-- What is recorded about the column. -/
def facts : DeclaredColumn → ColumnFacts
  | .numberedKey _ => .filledKey .integer
  | .identifierKey _ => .filledKey .uuid
  | .filledTime _ => .filledTime
  | .plain type _ options => type.facts options
  | .reference _ _ type options => options.facts type

/-- The column as the registry records it. -/
def entry (column : DeclaredColumn) : String × ColumnFacts := (column.name, column.facts)

/-- The words behind the name. The constraint of a reference is not part of its definition. -/
def declaration : DeclaredColumn → String
  | .numberedKey _ => numberedKeyDeclaration
  | .identifierKey _ => identifierKeyDeclaration
  | .filledTime _ => filledTimeDeclaration
  | .plain type _ options => type.declaration options
  | .reference _ _ type _ => type.sql

/-- The column as the statement writes it. -/
def definition (column : DeclaredColumn) : String :=
  columnDefinition column.name column.declaration

/-- The options of a reference. -/
def reference? : DeclaredColumn → Option ForeignKeyOptions
  | .reference _ _ _ options => some options
  | _ => none

/-- The part of a draft that writes the column, a reference together with its constraint. -/
def part (column : DeclaredColumn) : Part :=
  match column with
  | .reference name path _ options =>
      .raw (column.definition ++ ", " ++ foreignKeyConstraint name path options) .filter
  | _ => .raw column.definition .target

/-- The part starts with the definition, behind which there is nothing or a constraint. -/
theorem exists_text_part (column : DeclaredColumn) :
    ∃ rest, column.part.text = column.definition ++ rest ∧
      (rest = "" ∨ ∃ more, rest = ", " ++ more) := by
  cases column with
  | reference name path type options =>
      exact ⟨", " ++ foreignKeyConstraint name path options, String.append_assoc, .inr ⟨_, rfl⟩⟩
  | numberedKey | identifierKey | filledTime | plain =>
      exact ⟨"", String.append_empty.symm, .inl rfl⟩

theorem text_part_ne_empty (column : DeclaredColumn) : column.part.text ≠ "" := by
  rcases column.exists_text_part with ⟨rest, text_eq, _⟩
  rw [text_eq, Ne, String.append_eq_empty_iff]
  exact fun empty => columnDefinition_ne_empty _ _ empty.1

end DeclaredColumn

/-- The columns that a call declares, behind those that were declared so far. -/
def ColumnCall.columns (registry : Registry) (table : String)
    (declared : List (String × ColumnFacts)) : ColumnCall → List DeclaredColumn
  | .primaryKey name => [.numberedKey name]
  | .uuid name => [.identifierKey name]
  | .timestamps => [.filledTime "created_at", .filledTime "updated_at"]
  | .plain type name options => [.plain type name options]
  | .foreignKey name reference options _ =>
      ((ColumnPath.ofText? reference).bind fun path =>
        (referencedFacts? registry table declared path).map fun facts =>
          .reference name path facts.type options).toList
  | .fail _ _ | .inspect => []

/-- The columns that the calls of a definition declare, in order and with repetition. -/
def declaredColumns (registry : Registry) (table : String) (calls : List ColumnCall) :
    List DeclaredColumn :=
  calls.foldl (fun columns call =>
    columns ++ call.columns registry table (columns.map DeclaredColumn.entry)) []

section Declarations

variable (registry : Registry) (table : String)

theorem map_entry_columns (declared : List (String × ColumnFacts)) (call : ColumnCall) :
    (call.columns registry table declared).map DeclaredColumn.entry =
      call.declares registry table declared := by
  cases call with
  | foreignKey name reference options lenient =>
      simp only [ColumnCall.columns, ColumnCall.declares]
      cases ColumnPath.ofText? reference with
      | none => rfl
      | some path =>
          simp only [Option.bind_some]
          cases referencedFacts? registry table declared path <;> rfl
  | _ => rfl

/-- The declared columns have the names and facts that a definition declares. -/
theorem map_entry_declaredColumns (calls : List ColumnCall) :
    (declaredColumns registry table calls).map DeclaredColumn.entry =
      declarations registry table calls := by
  have later (calls : List ColumnCall) (columns : List DeclaredColumn) :
      (calls.foldl (fun columns call =>
        columns ++ call.columns registry table (columns.map DeclaredColumn.entry)) columns).map
          DeclaredColumn.entry =
        calls.foldl (fun declared call => declared ++ call.declares registry table declared)
          (columns.map DeclaredColumn.entry) := by
    induction calls generalizing columns with
    | nil => rfl
    | cons call rest ih =>
        rw [List.foldl_cons, List.foldl_cons, ih, List.map_append, map_entry_columns]
  exact later calls []

end Declarations

/-! ## Places of columns -/

/-- What decides the place of a column among others: keys come first and references last. -/
inductive ColumnKind where
  | key
  | ordinary
  | reference
  deriving DecidableEq

/-- The kind that decides where a draft places the column. -/
def DeclaredColumn.kind : DeclaredColumn → ColumnKind
  | .numberedKey _ | .identifierKey _ => .key
  | .filledTime _ | .plain _ _ _ => .ordinary
  | .reference _ _ _ _ => .reference

/-- The columns of a kind, in the order in which they were declared. -/
def columnsOf (kind : ColumnKind) (columns : List DeclaredColumn) : List DeclaredColumn :=
  columns.filter (·.kind == kind)

/-- The order in which a draft holds columns: each key stands in front of what came before it. -/
def placed (columns : List DeclaredColumn) : List DeclaredColumn :=
  (columnsOf .key columns).reverse ++ columns.filter (·.kind != .key)

theorem placed_append (columns added : List DeclaredColumn) :
    placed (columns ++ added) =
      (columnsOf .key added).reverse ++ placed columns ++ added.filter (·.kind != .key) := by
  simp [placed, columnsOf]

theorem mem_placed {column : DeclaredColumn} {columns : List DeclaredColumn} :
    column ∈ placed columns ↔ column ∈ columns := by
  by_cases key : column.kind = .key <;> simp [placed, columnsOf, key]

/-! ## Definitions in a draft -/

namespace TableDraft

variable {registry : Registry} {draft next final : TableDraft} {table : String}
  {columns : List DeclaredColumn}

/-- A reference that is resolved declares a column of the type that it finds. -/
theorem Stages.columns_of_resolved {declared : List (String × ColumnFacts)}
    (stages : draft.Stages table declared) (name : String) {reference : String}
    (options : ForeignKeyOptions) (lenient : Bool) {path : ColumnPath} {facts : ColumnFacts}
    (resolved : draft.resolve registry reference = .ok (path, facts)) :
    (ColumnCall.foreignKey name reference options lenient).columns registry table declared =
      [.reference name path facts.type options] := by
  rcases stages.resolve_eq_ok_iff.1 resolved with ⟨read, found⟩
  simp only [ColumnCall.columns, read, Option.bind_some, found, Option.map_some, Option.toList_some]

theorem Stages.columns_of_refused {declared : List (String × ColumnFacts)}
    (stages : draft.Stages table declared) (name : String) {reference : String}
    (options : ForeignKeyOptions) (lenient : Bool) {error : Error}
    (refused : draft.resolve registry reference = .error error) :
    (ColumnCall.foreignKey name reference options lenient).columns registry table declared =
      [] := by
  simp only [ColumnCall.columns]
  cases read : ColumnPath.ofText? reference with
  | none => rfl
  | some path =>
      rw [Option.bind_some, Option.toList_eq_nil_iff, Option.map_eq_none_iff]
      cases found : referencedFacts? registry table declared path with
      | none => rfl
      | some facts =>
          rw [stages.resolve_eq_ok_iff.2 ⟨read, found⟩] at refused
          cases refused

/-- A draft that has staged some columns and holds the part of each of them in its place. -/
structure Places (draft : TableDraft) (table : String) (columns : List DeclaredColumn) :
    Prop where
  stages : draft.Stages table (columns.map DeclaredColumn.entry)
  parts_eq : draft.parts = (placed columns).map DeclaredColumn.part

theorem places_empty (table : String) : (TableDraft.empty table).Places table [] :=
  ⟨stages_empty table, rfl⟩

theorem Places.step {call : ColumnCall} (places : draft.Places table columns)
    (step : draft.Step registry call next) :
    next.Places table
      (columns ++ call.columns registry table (columns.map DeclaredColumn.entry)) where
  stages := by
    rw [List.map_append, map_entry_columns]
    exact places.stages.step step
  parts_eq := by
    rw [placed_append, List.map_append, List.map_append, ← places.parts_eq]
    cases step with
    | primaryKey | uuid => exact (List.append_nil _).symm
    | timestamps => exact List.append_assoc _ _ _
    | plain => rfl
    | foreignKey name options lenient resolved =>
        rw [places.stages.columns_of_resolved name options lenient resolved]
        change draft.parts ++ [.raw (columnDefinition name _) .filter] = _
        rw [foreignKey_eq]
        rfl
    | tolerated name options refused =>
        rw [places.stages.columns_of_refused name options true refused]
        exact (List.append_nil _).symm
    | inspect => exact (List.append_nil _).symm

theorem Places.performAll {calls : List ColumnCall} (places : draft.Places table columns)
    {notices : List Notice} (performed : draft.performAll registry calls = (.ok final, notices)) :
    final.Places table (calls.foldl (fun columns call =>
      columns ++ call.columns registry table (columns.map DeclaredColumn.entry)) columns) := by
  induction calls generalizing draft columns notices with
  | nil =>
      rcases Prod.mk.inj performed with ⟨same, _⟩
      exact Except.ok.inj same ▸ places
  | cons call rest ih =>
      rcases exists_of_performAll_cons performed with ⟨next, _, _, stepped, completed⟩
      exact ih (places.step (step_of_perform stepped)) completed

/-- A completed draft holds each declared column in its place. -/
theorem places_declaredColumns {calls : List ColumnCall} {notices : List Notice}
    (performed : (TableDraft.empty table).performAll registry calls = (.ok final, notices)) :
    final.Places table (declaredColumns registry table calls) :=
  (places_empty table).performAll performed

end TableDraft

/-! ## Entries of a statement -/

/-- A text that stands in a statement as an entry: behind the opening parenthesis or a comma, and
before a comma or the closing parenthesis. -/
def EntryIn (entry sql : List Char) : Prop :=
  ∃ before opening closing after, sql = before ++ opening ++ entry ++ closing :: after ∧
    opening ∈ ["(".toList, ", ".toList, ",".toList] ∧ (closing = ',' ∨ closing = ')')

/-- Spacing a statement spaces its entries. -/
theorem EntryIn.spaced {entry sql : List Char} (entryIn : EntryIn entry sql) :
    EntryIn (Text.spaced entry) (Text.spaced sql) := by
  rcases entryIn with ⟨before, opening, closing, after, rfl, opens, closes⟩
  have closingVisible : Text.isBlank closing = false := by
    rcases closes with rfl | rfl <;> decide
  have behind (text : List Char) :
      Text.spaced (text ++ closing :: after) = Text.spaced text ++ closing :: Text.spaced after :=
    Text.spaced_append_cons closingVisible text after
  have split {opener : Char} (visible : Text.isBlank opener = false) (lead : List Char) :
      Text.spaced (before ++ opener :: lead ++ entry ++ closing :: after) =
        Text.spaced before ++ opener :: Text.spaced (lead ++ entry) ++
          closing :: Text.spaced after := by
    have regrouped : before ++ opener :: lead ++ entry ++ closing :: after =
        before ++ opener :: (lead ++ entry ++ closing :: after) := by simp
    rw [regrouped, Text.spaced_append_cons visible, behind]
    simp
  simp only [List.mem_cons, List.not_mem_nil, or_false] at opens
  rcases opens with rfl | rfl | rfl
  · exact ⟨Text.spaced before, "(".toList, closing, Text.spaced after,
      (split (by decide : Text.isBlank '(' = false) []).trans (by simp), by decide, closes⟩
  · -- A blank at the start of the entry runs together with the one behind the comma.
    have joined := split (by decide : Text.isBlank ',' = false) [' ']
    by_cases starts : entry.head?.any Text.isBlank = true
    · refine ⟨Text.spaced before, ",".toList, closing, Text.spaced after,
        joined.trans ?_, by decide, closes⟩
      simp [Text.spaced, Text.isBlank_space, starts]
    · refine ⟨Text.spaced before, ", ".toList, closing, Text.spaced after,
        joined.trans ?_, by decide, closes⟩
      simp [Text.spaced, Text.isBlank_space, starts]
  · exact ⟨Text.spaced before, ",".toList, closing, Text.spaced after,
      (split (by decide : Text.isBlank ',' = false) []).trans (by simp), by decide, closes⟩

/-- A joined text stands behind the start or a separator, and before a separator or the end. -/
theorem Text.exists_of_mem_joined (separator : String) {texts : List String} {text : String}
    (member : text ∈ texts) :
    ∃ before after, joinWith separator texts = before ++ text ++ after ∧
      (before = "" ∨ ∃ earlier, before = earlier ++ separator) ∧
        (after = "" ∨ ∃ later, after = separator ++ later) := by
  rcases List.append_of_mem member with ⟨front, back, rfl⟩
  have behind : ∃ after, joinWith separator (text :: back) = text ++ after ∧
      (after = "" ∨ ∃ later, after = separator ++ later) := by
    cases back with
    | nil => exact ⟨"", by simp, .inl rfl⟩
    | cons next rest =>
        exact ⟨separator ++ joinWith separator (next :: rest),
          by rw [joinWith_cons_cons, String.append_assoc], .inr ⟨_, rfl⟩⟩
  rcases behind with ⟨after, joined, ends⟩
  by_cases first : front = []
  · exact ⟨"", after, by simp [first, joined], .inl rfl, ends⟩
  · refine ⟨joinWith separator front ++ separator, after, ?_, .inr ⟨_, rfl⟩, ends⟩
    rw [joinWith_append separator first (List.cons_ne_nil text back), joined]
    simp only [String.append_assoc]

namespace TableDraft

variable {draft : TableDraft}

/-- What a definition has before a comma, or all of it, is an entry of the statement. -/
theorem entryIn_sql_of_mem {entry rest : String} (member : entry ++ rest ∈ draft.definitions)
    (ends : rest = "" ∨ ∃ more, rest = ", " ++ more) :
    EntryIn (Text.spaced entry.toList) draft.sql.toList := by
  rcases Text.exists_of_mem_joined ", " member with ⟨before, after, joined, opens, closes⟩
  have opening : ∃ front opening, ("CREATE TABLE " ++ draft.table ++ " (" ++ before).toList =
      front ++ opening ∧ opening ∈ ["(".toList, ", ".toList, ",".toList] := by
    rcases opens with rfl | ⟨earlier, rfl⟩
    · exact ⟨("CREATE TABLE " ++ draft.table ++ " ").toList, "(".toList, by simp, by decide⟩
    · exact ⟨("CREATE TABLE " ++ draft.table ++ " (" ++ earlier).toList, ", ".toList,
        by simp, by decide⟩
  have closing : ∃ closing more, (rest ++ after ++ ")").toList = closing :: more ∧
      (closing = ',' ∨ closing = ')') := by
    rcases ends with rfl | ⟨more, rfl⟩
    · rcases closes with rfl | ⟨later, rfl⟩
      · exact ⟨')', [], by simp, .inr rfl⟩
      · exact ⟨',', (" " ++ later ++ ")").toList, by simp, .inl rfl⟩
    · exact ⟨',', (" " ++ more ++ after ++ ")").toList, by simp, .inl rfl⟩
  rcases opening with ⟨front, opening, front_eq, opens⟩
  rcases closing with ⟨closing, more, more_eq, closes⟩
  rw [toList_sql, joined]
  refine EntryIn.spaced ⟨front, opening, closing, more, ?_, opens, closes⟩
  rw [← front_eq, ← more_eq]
  simp only [String.toList_append, List.append_assoc]

theorem mem_definitions {part : Part} (member : part ∈ draft.parts) (notEmpty : part.text ≠ "") :
    part.text ∈ draft.definitions := by
  have sorted : part ∈ sortByRank draft.parts := mem_stableSort.2 member
  exact List.mem_filter.2 ⟨List.mem_map_of_mem sorted, by simpa using notEmpty⟩

/-- A column that has its place in a draft is an entry of the statement. -/
theorem Places.entryIn_sql {table : String} {columns : List DeclaredColumn}
    (places : draft.Places table columns) {column : DeclaredColumn} (member : column ∈ columns) :
    EntryIn (Text.spaced column.definition.toList) draft.sql.toList := by
  have placed : column.part ∈ draft.parts := by
    rw [places.parts_eq]
    exact List.mem_map_of_mem (mem_placed.2 member)
  rcases column.exists_text_part with ⟨rest, text_eq, ends⟩
  exact entryIn_sql_of_mem (text_eq ▸ mem_definitions placed column.text_part_ne_empty) ends

end TableDraft

/-! ## Recorded facts -/

/-- A definition of a new table with distinct names records the facts of each column. -/
theorem Registry.column?_commit {registry : Registry} {table : String} {calls : List ColumnCall}
    {draft : TableDraft} {notices : List Notice}
    (performed : (TableDraft.empty table).performAll registry calls = (.ok draft, notices))
    (unknown : registry.hasTable table = false)
    (distinct : ((declaredColumns registry table calls).map DeclaredColumn.name).Nodup)
    {column : DeclaredColumn} (member : column ∈ declaredColumns registry table calls) :
    (registry.commit draft).column? table column.name = some column.facts := by
  have absent : registry.table? table = none := by simpa [hasTable] using unknown
  have columns_eq : (registry.commit draft).table? table =
      some (Columns.empty.insertAll (declarations registry table calls)) := by
    have noNames : Columns.empty.names.Nodup := List.nodup_nil
    rw [table?_commit_of_performed performed (by simp [absent]), if_pos rfl, absent,
      Option.getD_none, Columns.insertAll_eq_merged noNames]
  have entries_eq := map_entry_declaredColumns registry table calls
  have distinctEntries : ((declarations registry table calls).map Prod.fst).Nodup := by
    rw [← entries_eq, List.map_map]
    exact distinct
  have declared : (column.name, column.facts) ∈ declarations registry table calls :=
    entries_eq ▸ List.mem_map_of_mem member
  rw [column?, columns_eq, Option.bind_some, Columns.get?_insertAll, Columns.get?_empty,
    Option.or_none, lastDeclared?_of_nodup distinctEntries, lookup_of_mem distinctEntries declared]

end RankedSql

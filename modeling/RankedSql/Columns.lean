import RankedSql.ColumnFacts

/-!
# Columns of a table

The columns of one table with their facts, in the order in which they were first recorded. Main
statements: after an insertion the inserted name has the new facts and every other name keeps its
own (`get?_insert`), and the order of the names only grows at its end (`names_insert`).
-/

namespace RankedSql

/-- The columns of a table, in definition order. -/
structure Columns where
  entries : List (String × ColumnFacts)
  deriving DecidableEq

namespace Columns

/-- A table without columns. -/
def empty : Columns := ⟨[]⟩

/-- Replaces the facts of a name where it stands, or adds the name at the end. -/
def insertEntry (name : String) (facts : ColumnFacts) :
    List (String × ColumnFacts) → List (String × ColumnFacts)
  | [] => [(name, facts)]
  | (other, otherFacts) :: rest =>
      if other = name then (name, facts) :: rest
      else (other, otherFacts) :: insertEntry name facts rest

/-- Records a column; a column that is recorded again keeps its place. -/
def insert (columns : Columns) (name : String) (facts : ColumnFacts) : Columns :=
  ⟨insertEntry name facts columns.entries⟩

/-- The facts about a column, if it is recorded. -/
def get? (columns : Columns) (name : String) : Option ColumnFacts :=
  columns.entries.lookup name

/-- The names of the columns, in the order in which they were first recorded. -/
def names (columns : Columns) : List String := columns.entries.map Prod.fst

/-- The number of columns. -/
def size (columns : Columns) : Nat := columns.entries.length

/-- Whether no column is recorded. -/
def isEmpty (columns : Columns) : Bool := columns.entries.isEmpty

/-- The columns as a document: an object with a member for each, in order. -/
def json (columns : Columns) : Json :=
  .object (columns.entries.map fun entry => (entry.1, entry.2.json))

@[simp]
theorem get?_empty (name : String) : empty.get? name = none := rfl

@[simp]
theorem names_empty : empty.names = [] := rfl

theorem lookup_insertEntry (name other : String) (facts : ColumnFacts)
    (entries : List (String × ColumnFacts)) :
    (insertEntry name facts entries).lookup other =
      if other = name then some facts else entries.lookup other := by
  induction entries with
  | nil => simp [insertEntry, List.lookup_cons]; grind
  | cons head tail ih =>
      rcases head with ⟨headName, headFacts⟩
      unfold insertEntry
      by_cases same : headName = name <;> by_cases found : other = headName <;>
        simp_all [List.lookup_cons] <;> grind

/-- The inserted name has the new facts and every other name keeps its own. -/
theorem get?_insert (columns : Columns) (name other : String) (facts : ColumnFacts) :
    (columns.insert name facts).get? other =
      if other = name then some facts else columns.get? other :=
  lookup_insertEntry name other facts columns.entries

theorem map_fst_insertEntry (name : String) (facts : ColumnFacts)
    (entries : List (String × ColumnFacts)) :
    (insertEntry name facts entries).map Prod.fst =
      if name ∈ entries.map Prod.fst then entries.map Prod.fst
      else entries.map Prod.fst ++ [name] := by
  induction entries with
  | nil => simp [insertEntry]
  | cons head tail ih =>
      rcases head with ⟨headName, headFacts⟩
      unfold insertEntry
      by_cases same : headName = name
      · simp [same]
      · simp only [same, if_false, List.map_cons, ih, List.mem_cons, Ne.symm same, false_or]
        split <;> simp

/-- The names stay in order; a name that is new comes last. -/
theorem names_insert (columns : Columns) (name : String) (facts : ColumnFacts) :
    (columns.insert name facts).names =
      if name ∈ columns.names then columns.names else columns.names ++ [name] :=
  map_fst_insertEntry name facts columns.entries

theorem nodup_names_insert {columns : Columns} (distinct : columns.names.Nodup) (name : String)
    (facts : ColumnFacts) : (columns.insert name facts).names.Nodup := by
  rw [names_insert]
  split
  · exact distinct
  · next absent => simp [List.nodup_append, distinct]; grind

end Columns

end RankedSql

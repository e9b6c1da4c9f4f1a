import RankedSql.Text.Basic

/-!
# Column paths

A reference to a column through its table, written `table.column` and split at the first point.
-/

namespace RankedSql

/-- A column of a table, or of an alias of a table. -/
structure ColumnPath where
  table : String
  column : String
  deriving DecidableEq

namespace ColumnPath

/-- The path as it is written. -/
def text (path : ColumnPath) : String := path.table ++ "." ++ path.column

/-- The path that a text stands for; a text without a point stands for none. -/
def ofText? (text : String) : Option ColumnPath :=
  (Text.splitAtFirst? '.' text.toList).map fun halves =>
    ⟨String.ofList halves.1, String.ofList halves.2⟩

/-- A path that was read is written as the text it was read from. -/
theorem text_of_ofText? {text : String} {path : ColumnPath} (read : ofText? text = some path) :
    path.text = text := by
  rcases Option.map_eq_some_iff.1 read with ⟨⟨before, after⟩, split, rfl⟩
  have whole := (Text.eq_of_splitAtFirst? split).1
  apply String.toList_inj.1
  simp [ColumnPath.text, whole]

/-- A text stands for the path that is written like it and has no point in its table. -/
theorem ofText?_eq_some_iff {text : String} {path : ColumnPath} :
    ofText? text = some path ↔ text = path.text ∧ '.' ∉ path.table.toList := by
  constructor
  · intro read
    refine ⟨(text_of_ofText? read).symm, ?_⟩
    rcases Option.map_eq_some_iff.1 read with ⟨⟨before, after⟩, split, rfl⟩
    simpa using (Text.eq_of_splitAtFirst? split).2
  · rintro ⟨rfl, absent⟩
    simp [ofText?, ColumnPath.text, Text.splitAtFirst?_append absent]

end ColumnPath

end RankedSql

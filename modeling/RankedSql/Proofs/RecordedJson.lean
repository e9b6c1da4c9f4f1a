import RankedSql.Proofs.InsertionOrder
import RankedSql.Proofs.JsonReader

/-!
# Columns read back from their JSON

What is recorded about the columns of a table can be read back from the JSON that it is written as:
the types with their arguments (`ColumnType.ofDocument?_document`), the facts about a column under
the names of their members (`ColumnFacts.ofDocument?_document`), and the columns in their order. So
the text determines the columns (`Columns.read?_render_insertAll`).
-/

namespace RankedSql

open Json (Document)

namespace ColumnType

/-- The types that are recorded by their names alone. -/
def recordedNames : List (String × ColumnType) :=
  [("Integer", .integer), ("Bigint", .bigint), ("Text", .text), ("Char", .char), ("Real", .real),
    ("Float", .float), ("Double", .double), ("Numeric", .numeric), ("Decimal", .decimal),
    ("Boolean", .boolean), ("Date", .date), ("Datetime", .datetime), ("Timestamp", .timestamp),
    ("Time", .time), ("Uuid", .uuid), ("Blob", .blob)]

/-- The type that a document records: a name, or an object that gives a name its argument. -/
def ofDocument? : Document → Option ColumnType
  | .text name => recordedNames.lookup name
  | .object [(name, .number false length 0)] =>
      if name = "Varchar" ∧ length < UInt32.size then some (.varchar (UInt32.ofNat length))
      else none
  | .object [(name, .text argument)] => if name = "Custom" then some (.custom argument) else none
  | _ => none

theorem ofDocument?_document (type : ColumnType) :
    ofDocument? type.json.document = some type := by
  cases type with
  | varchar length =>
      have small : length.toNat < UInt32.size := length.toNat_lt
      simp [json, Json.document, Json.memberDocuments, ofDocument?, small]
  | custom name => simp [json, Json.document, Json.memberDocuments, ofDocument?]
  | _ => rfl

end ColumnType

namespace HostType

/-- The kind of value that a document records. -/
def ofDocument? : Document → Option HostType
  | .text name =>
      [("number", HostType.number), ("string", .string), ("boolean", .boolean),
        ("any", .any)].lookup name
  | _ => none

theorem ofDocument?_text (host : HostType) : ofDocument? (.text host.name) = some host := by
  cases host <;> rfl

end HostType

/-- The truth value that a document is. -/
def Json.Document.bool? : Document → Option Bool
  | .bool value => some value
  | _ => none

namespace ColumnFacts

/-- The facts that the members of an object record, each under its name. -/
def ofDocument? : Document → Option ColumnFacts
  | .object members => do
      let type ← (members.lookup "sql_type").bind ColumnType.ofDocument?
      let host ← (members.lookup "inferred_type").bind HostType.ofDocument?
      let nullable ← (members.lookup "nullable").bind Document.bool?
      let hasDefault ← (members.lookup "has_default").bind Document.bool?
      let primaryKey ← (members.lookup "is_primary").bind Document.bool?
      return ⟨type, host, nullable, hasDefault, primaryKey⟩
  | _ => none

theorem ofDocument?_document (facts : ColumnFacts) :
    ofDocument? facts.json.document = some facts := by
  simp [json, Json.document, Json.memberDocuments, ofDocument?, List.lookup_cons,
    ColumnType.ofDocument?_document, HostType.ofDocument?_text, Document.bool?]

end ColumnFacts

namespace Columns

/-- The columns are read back as an object with a member for each entry. -/
theorem read?_render (columns : Columns) :
    Json.read? columns.json.render =
      some (.object (columns.entries.map fun entry => (entry.1, entry.2.json.document))) := by
  rw [Json.read?_render, json, Json.document, Json.memberDocuments_eq_map, List.map_map]
  rfl

/-- Columns with the same text are the same. -/
theorem eq_of_render_eq {columns other : Columns}
    (same : columns.json.render = other.json.render) : columns = other := by
  have read := columns.read?_render
  rw [same, other.read?_render, Option.some.injEq, Document.object.injEq] at read
  have decoded := congrArg
    (List.map fun member => (member.1, ColumnFacts.ofDocument? member.2)) read
  simp only [List.map_map, Function.comp_def, ColumnFacts.ofDocument?_document] at decoded
  have injective :
      Function.Injective fun entry : String × ColumnFacts => (entry.1, some entry.2) := by
    rintro ⟨name, facts⟩ ⟨otherName, otherFacts⟩ alike
    simpa using alike
  exact congrArg Columns.mk (injective.list_map decoded).symm

/-- The JSON of columns that were recorded one after another holds their names in order, each once,
and gives back all that is recorded about them. -/
theorem read?_render_insertAll (declared other : List (String × ColumnFacts)) :
    (∃ members, Json.read? (empty.insertAll declared).json.render = some (.object members) ∧
      members.map Prod.fst = (empty.insertAll declared).names ∧
      (empty.insertAll declared).names.Nodup ∧
      members.map (fun member => (member.1, ColumnFacts.ofDocument? member.2)) =
        (empty.insertAll declared).entries.map fun entry => (entry.1, some entry.2)) ∧
    ((empty.insertAll declared).json.render = (empty.insertAll other).json.render ↔
      empty.insertAll declared = empty.insertAll other) := by
  refine ⟨⟨_, read?_render _, ?_, nodup_names_insertAll_empty declared, ?_⟩,
    eq_of_render_eq, fun same => same ▸ rfl⟩
  · simp [names, Function.comp_def]
  · simp [Function.comp_def, ColumnFacts.ofDocument?_document]

/-- A name with marks and a backslash is read back, and a column that is recorded again keeps its
place and takes the later facts. Recorded once with these, the columns have the same text. -/
theorem read?_render_insertAll_of_marked_name :
    let size := ColumnFacts.ofType (.varchar 8)
    let label := ColumnFacts.ofType (.custom "LABEL \"x\"")
    let columns := empty.insertAll [("a\"\\b", size), ("n", size), ("a\"\\b", label)]
    (∃ members, Json.read? columns.json.render = some (.object members) ∧
      members.map Prod.fst = ["a\"\\b", "n"] ∧
      members.map (fun member => (member.1, ColumnFacts.ofDocument? member.2)) =
        [("a\"\\b", some label), ("n", some size)]) ∧
    columns.json.render = (empty.insertAll [("a\"\\b", label), ("n", size)]).json.render := by
  intro size label columns
  rcases read?_render_insertAll [("a\"\\b", size), ("n", size), ("a\"\\b", label)]
    [("a\"\\b", label), ("n", size)] with ⟨⟨members, read, inOrder, _, facts⟩, sameText⟩
  exact ⟨⟨members, read, inOrder.trans (by decide), facts.trans (by decide)⟩,
    sameText.2 (by decide)⟩

end Columns

end RankedSql

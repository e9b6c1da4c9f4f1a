import RankedSql.Json
import RankedSql.Numeral
import RankedSql.Text.Blank

/-!
# Column types

The types a column can be declared with, their spellings, and the type that the first word of a
declaration names.
-/

namespace RankedSql

/-- The type of a column; a type that is none of the known ones keeps its own name. -/
inductive ColumnType where
  | integer
  | bigint
  | text
  | char
  | varchar (length : UInt32)
  | real
  | float
  | double
  | numeric
  | decimal
  | boolean
  | date
  | datetime
  | timestamp
  | time
  | uuid
  | blob
  /-- Any other type, under its own name. -/
  | custom (name : String)
  deriving DecidableEq

/-- The kind of value a program that reads the column would use. -/
inductive HostType where
  | number
  | string
  | boolean
  | any
  deriving DecidableEq

/-- What a host type is called. -/
def HostType.name : HostType → String
  | .number => "number"
  | .string => "string"
  | .boolean => "boolean"
  | .any => "any"

namespace ColumnType

/-- The types that a single fixed word names, under each of their words. -/
def spellings : List (String × ColumnType) :=
  [("INT", .integer), ("INTEGER", .integer), ("BIGINT", .bigint), ("TEXT", .text),
    ("CHAR", .char), ("REAL", .real), ("FLOAT", .float), ("DOUBLE", .double),
    ("NUMERIC", .numeric), ("DECIMAL", .decimal), ("BOOL", .boolean), ("BOOLEAN", .boolean),
    ("DATE", .date), ("DATETIME", .datetime), ("TIMESTAMP", .timestamp), ("TIME", .time),
    ("UUID", .uuid), ("BLOB", .blob)]

/-- The length in a word of the form `VARCHAR(n)`, for lengths below `2 ^ 32`. -/
def varcharLength? (word : List Char) : Option UInt32 :=
  (Text.stripStart? "VARCHAR(".toList word).bind fun rest =>
    if rest.getLast? = some ')' then Numeral.size? rest.dropLast else none

/-- The type that a capitalised word names; words without a meaning name themselves. -/
def ofWord (word : String) : ColumnType :=
  match varcharLength? word.toList with
  | some length => .varchar length
  | none => (spellings.lookup word).getD (.custom word)

/-- The type that a column declaration starts with, in any ASCII case. -/
def ofDeclaration (declaration : String) : ColumnType :=
  ofWord (Text.upperAscii (String.ofList (Text.firstWord declaration.toList)))

/-- The type as a declaration writes it. -/
def sql : ColumnType → String
  | .integer => "INTEGER"
  | .bigint => "BIGINT"
  | .text => "TEXT"
  | .char => "CHAR"
  | .varchar length => "VARCHAR(" ++ length.toNat.repr ++ ")"
  | .real => "REAL"
  | .float => "FLOAT"
  | .double => "DOUBLE"
  | .numeric => "NUMERIC"
  | .decimal => "DECIMAL"
  | .boolean => "BOOLEAN"
  | .date => "DATE"
  | .datetime => "DATETIME"
  | .timestamp => "TIMESTAMP"
  | .time => "TIME"
  | .uuid => "UUID"
  | .blob => "BLOB"
  | .custom name => name

/-- The host type of the values of a column. -/
def host : ColumnType → HostType
  | .integer | .bigint | .real | .float | .double | .numeric | .decimal => .number
  | .text | .char | .varchar _ | .date | .datetime | .timestamp | .time | .uuid => .string
  | .boolean => .boolean
  | .blob | .custom _ => .any

/-- Whether defaults of this type are written as literals rather than as bare expressions. -/
def quotesDefault : ColumnType → Bool
  | .text | .date | .datetime => true
  | _ => false

/-- A type as recorded: its name alone, or an object that gives the name its argument. -/
def json : ColumnType → Json
  | .integer => .text "Integer"
  | .bigint => .text "Bigint"
  | .text => .text "Text"
  | .char => .text "Char"
  | .varchar length => .object [("Varchar", .number length.toNat)]
  | .real => .text "Real"
  | .float => .text "Float"
  | .double => .text "Double"
  | .numeric => .text "Numeric"
  | .decimal => .text "Decimal"
  | .boolean => .text "Boolean"
  | .date => .text "Date"
  | .datetime => .text "Datetime"
  | .timestamp => .text "Timestamp"
  | .time => .text "Time"
  | .uuid => .text "Uuid"
  | .blob => .text "Blob"
  | .custom name => .object [("Custom", .text name)]

theorem varcharLength?_sql (length : UInt32) :
    varcharLength? (ColumnType.varchar length).sql.toList = some length := by
  have spelled : (ColumnType.varchar length).sql.toList =
      "VARCHAR(".toList ++ (Nat.toDigits 10 length.toNat ++ [')']) := by
    simp [sql]
  have stripped := Text.stripStart?_eq_some_iff.2 spelled
  simp only [varcharLength?, stripped, Option.bind_some]
  simp [Numeral.size?_toDigits]

end ColumnType

end RankedSql

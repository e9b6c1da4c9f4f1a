import RankedSql.Comparison
import RankedSql.Text.Basic

/-!
# Parts of a statement

A statement is a list of parts: structured clauses, each placed at a rank. The rank decides where
a part stands in the text; clauses stay structured so that joins and hooks can extend them.
-/

namespace RankedSql

/-- The place of a part in the text of a statement. -/
inductive Rank where
  | projection
  | target
  | filter
  | ordering
  deriving DecidableEq

namespace Rank

/-- The ranks in the order of the text. -/
def all : List Rank := [.projection, .target, .filter, .ordering]

/-- The number of a rank, from one. -/
def number : Rank → Nat
  | .projection => 1
  | .target => 2
  | .filter => 3
  | .ordering => 4

end Rank

/-- The direction of a sort term. -/
inductive Direction where
  | ascending
  | descending
  deriving DecidableEq

/-- The word for a direction. -/
def Direction.sql : Direction → String
  | .ascending => "ASC"
  | .descending => "DESC"

/-- The flavours of joins. -/
inductive JoinKind where
  | inner
  | left
  | right
  | full
  deriving DecidableEq

/-- The word in front of `JOIN`. -/
def JoinKind.sql : JoinKind → String
  | .inner => "INNER"
  | .left => "LEFT"
  | .right => "RIGHT"
  | .full => "FULL"

/-- A condition on a field; the value is written out already. -/
structure Condition where
  field : String
  comparison : Comparison
  value : String
  /-- Joined to the conditions before it with `OR` rather than `AND`. -/
  alternate : Bool
  deriving DecidableEq

/-- A new row; the values are written out already and stand parallel to the columns. -/
structure Insertion where
  table : String
  columns : List String
  values : List String
  deriving DecidableEq

/-- New values for columns of existing rows; the values are written out already. -/
structure Update where
  table : String
  assignments : List (String × String)
  deriving DecidableEq

/-- A joined table with its condition. -/
structure Join where
  kind : JoinKind
  table : String
  alias? : Option String
  left : String
  comparison : Comparison
  right : String
  deriving DecidableEq

/-- The content of a part. -/
inductive Clause where
  | projection (fields : List String)
  | source (table : String) (alias? : Option String)
  | join (join : Join)
  | condition (condition : Condition)
  | ordering (field : String) (direction : Direction)
  | limit (count : Nat)
  | offset (count : Nat)
  | insertion (insertion : Insertion)
  | update (update : Update)
  | deletion (table : String)
  | dropTable (table : String)
  /-- Text that is written out already, such as a column definition. -/
  | raw (text : String)
  deriving DecidableEq

/-- A table with the alias after it, if there is one. -/
def aliasedTable (table : String) : Option String → String
  | none => table
  | some name => table ++ " " ++ name

namespace Clause

/-- The rank at which a call places a clause. -/
def defaultRank : Clause → Rank
  | .projection _ | .insertion _ | .update _ | .deletion _ => .projection
  | .source _ _ | .join _ | .dropTable _ | .raw _ => .target
  | .condition _ => .filter
  | .ordering _ _ | .limit _ | .offset _ => .ordering

/-- The text of a clause, without the word that connects a condition to others. -/
def text : Clause → String
  | .projection fields => "SELECT " ++ Text.joinWith ", " fields
  | .source table alias? => "FROM " ++ aliasedTable table alias?
  | .join joined =>
      joined.kind.sql ++ " JOIN " ++ aliasedTable joined.table joined.alias? ++ " ON " ++
        joined.left ++ " " ++ joined.comparison.symbol ++ " " ++ joined.right
  | .condition test => test.field ++ " " ++ test.comparison.symbol ++ " " ++ test.value
  | .ordering field direction => "ORDER BY " ++ field ++ " " ++ direction.sql
  | .limit count => "LIMIT " ++ count.repr
  | .offset count => "OFFSET " ++ count.repr
  | .insertion row =>
      "INSERT INTO " ++ row.table ++ " (" ++ Text.joinWith ", " row.columns ++ ") VALUES (" ++
        Text.joinWith ", " row.values ++ ")"
  | .update change =>
      "UPDATE " ++ change.table ++ " SET " ++
        Text.joinWith ", " (change.assignments.map fun entry => entry.1 ++ " = " ++ entry.2)
  | .deletion table => "DELETE FROM " ++ table
  | .dropTable table => "DROP TABLE " ++ table
  | .raw text => text

end Clause

/-- A clause at a rank. -/
structure Part where
  clause : Clause
  rank : Rank
  deriving DecidableEq

namespace Part

/-- A clause at its own rank. -/
def ofClause (clause : Clause) : Part := ⟨clause, clause.defaultRank⟩

/-- A written text at a rank. -/
def raw (text : String) (rank : Rank) : Part := ⟨.raw text, rank⟩

/-- The text of a part, without connecting words. -/
def text (part : Part) : String := part.clause.text

/-- Whether a part may stand before another by their ranks. -/
def rankLe (left right : Part) : Bool := decide (left.rank.number ≤ right.rank.number)

/-- The table that a part names after `FROM`. -/
def sourceTable? (part : Part) : Option String :=
  match part.clause with
  | .source table _ => some table
  | _ => none

/-- The table that a part joins. -/
def joinedTable? (part : Part) : Option String :=
  match part.clause with
  | .join joined => some joined.table
  | _ => none

/-- The condition of a part, if it is one. -/
def condition? (part : Part) : Option Condition :=
  match part.clause with
  | .condition test => some test
  | _ => none

/-- The inserted row of a part, if it is one. -/
def insertion? (part : Part) : Option Insertion :=
  match part.clause with
  | .insertion row => some row
  | _ => none

/-- The update of a part, if it is one. -/
def update? (part : Part) : Option Update :=
  match part.clause with
  | .update change => some change
  | _ => none

/-- Whether a part selects fields. -/
def isProjection (part : Part) : Bool :=
  match part.clause with
  | .projection _ => true
  | _ => false

end Part

end RankedSql

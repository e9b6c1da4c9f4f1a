import RankedSql.Columns
import RankedSql.Error

/-!
# Notices

What happens on the side while statements are composed and tables are defined, in order:
announcements to the observer, reports of hooks, and what a table definition tolerates or shows on
its way.
-/

namespace RankedSql

/-- Something that happened on the side. -/
inductive Notice where
  /-- The observer was told of a defined table and its columns. -/
  | tableDefined (observer table : String) (columns : Columns)
  /-- A reporting hook ran on a number of parts. -/
  | hookRan (label : String) (partCount : Nat)
  /-- A foreign key failed in a definition that goes on without it. -/
  | tolerated (error : Error)
  /-- A definition showed a summary of itself. -/
  | shown (table summary : String)
  deriving DecidableEq

end RankedSql

import RankedSql.ColumnPath
import RankedSql.Error
import RankedSql.Statement.Basic

/-!
# Joins

A join compares a column of a target table with a column of a source table. Either side may be
named by its table or by an alias. One side must be in the statement already, as the table after
`FROM` or, for the source, as a joined table; the other side is attached to it.
-/

namespace RankedSql

/-- How tables are joined: the flavour, the comparison, and the aliases of tables in the order in
which they are tried. -/
structure JoinSpec where
  kind : JoinKind := .inner
  comparison : Comparison := .equal
  aliases : List (String × String) := []
  deriving DecidableEq

namespace JoinSpec

/-- The first alias that is given to a table. -/
def aliasOf? (spec : JoinSpec) (table : String) : Option String := spec.aliases.lookup table

/-- The first table that goes by an alias. -/
def tableOf? (spec : JoinSpec) (name : String) : Option String :=
  (spec.aliases.find? fun entry => entry.2 == name).map (·.1)

end JoinSpec

/-- One side of a join: a column of a table, and the alias that the table goes by. -/
structure JoinSide where
  table : String
  alias? : Option String
  column : String
  deriving DecidableEq

namespace JoinSide

/-- The side that a path names, through a table or an alias. -/
def ofPath (spec : JoinSpec) (path : ColumnPath) : JoinSide :=
  let table := (spec.tableOf? path.table).getD path.table
  ⟨table, spec.aliasOf? table, path.column⟩

/-- The side that a reference names. -/
def resolve (spec : JoinSpec) (reference : String) : Except Error JoinSide :=
  match ColumnPath.ofText? reference with
  | some path => .ok (ofPath spec path)
  | none => .error (.badJoin reference .notAPath)

/-- The column, qualified by the alias or else by the table. -/
def operand (side : JoinSide) : String := side.alias?.getD side.table ++ "." ++ side.column

/-- The column, qualified by the table. -/
def canonical (side : JoinSide) : String := side.table ++ "." ++ side.column

end JoinSide

/-- Which side of a join is in the statement already, and how. -/
inductive JoinAnchor where
  /-- The target is a table after `FROM`. -/
  | target
  /-- The source is a table after `FROM`. -/
  | source
  /-- The source is a joined table. -/
  | joinedSource
  deriving DecidableEq

/-- Whether a table stands after `FROM`. -/
def hasSource (parts : List Part) (table : String) : Bool :=
  parts.any fun part => part.sourceTable? == some table

/-- Whether a table is joined. -/
def hasJoin (parts : List Part) (table : String) : Bool :=
  parts.any fun part => part.joinedTable? == some table

/-- The anchor of a join: the target after `FROM` before the source there, and that before a joined
source. -/
def joinAnchor? (parts : List Part) (target source : JoinSide) : Option JoinAnchor :=
  if hasSource parts target.table then some .target
  else if hasSource parts source.table then some .source
  else if hasJoin parts source.table then some .joinedSource
  else none

/-- Gives the first mention of a table after `FROM` an alias, unless it has one. -/
def fillAlias (table : String) (alias? : Option String) : List Part → List Part
  | [] => []
  | part :: rest =>
      match part.clause with
      | .source other present =>
          if other = table then { part with clause := .source other (present.or alias?) } :: rest
          else part :: fillAlias table alias? rest
      | _ => part :: fillAlias table alias? rest

/-- The clause that attaches a side; the operands are always target, then source. -/
def joinClause (spec : JoinSpec) (attached target source : JoinSide) : Clause :=
  .join
    { kind := spec.kind
      table := attached.table
      alias? := attached.alias?
      left := target.operand
      comparison := spec.comparison
      right := source.operand }

/-- The parts after a join with a given anchor: the other side is attached at the end, and an anchor
after `FROM` gets its alias. -/
def joinParts (spec : JoinSpec) (parts : List Part) (target source : JoinSide) :
    JoinAnchor → List Part
  | .target =>
      fillAlias target.table target.alias? parts ++
        [Part.ofClause (joinClause spec source target source)]
  | .source =>
      fillAlias source.table source.alias? parts ++
        [Part.ofClause (joinClause spec target target source)]
  | .joinedSource => parts ++ [Part.ofClause (joinClause spec target target source)]

/-- Joins the tables of two references. All checks come before the first change: a join that fails
has touched neither an alias nor the list of parts, so the error comes without a statement, and the
one at hand stays as it was. -/
def Statement.join (statement : Statement) (target source : String) (spec : JoinSpec) :
    Except Error Statement :=
  match JoinSide.resolve spec target, JoinSide.resolve spec source with
  | .error error, _ => .error error
  | .ok _, .error error => .error error
  | .ok target, .ok source =>
      match joinAnchor? statement.parts target source with
      | some anchor =>
          .ok { statement with parts := joinParts spec statement.parts target source anchor }
      | none => .error (.badJoin target.canonical (.unanchored target.table source.table))

/-- A join leaves the literal as it is. -/
theorem Statement.literal_of_join {statement joined : Statement} {target source : String}
    {spec : JoinSpec} (done : statement.join target source spec = .ok joined) :
    joined.literal = statement.literal := by
  unfold Statement.join at done
  split at done
  · simp at done
  · simp at done
  · split at done
    · exact (Except.ok.inj done) ▸ rfl
    · simp at done

end RankedSql

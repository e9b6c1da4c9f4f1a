import RankedSql.ColumnPath
import RankedSql.Registry
import RankedSql.Statement.Basic

/-!
# Firing hooks

Before a statement is written, the hooks of its phase and table run on its parts. For a selection,
the hooks of its fields follow: those of a field run once for each condition on it.
-/

namespace RankedSql

/-- A statement after its hooks, with the phase that was fired, the identifiers left, and the
reports. -/
structure Firing where
  phase : Option Phase
  statement : Statement
  identifiers : IdentifierSupply
  notices : List Notice

/-- The fields that conditions are stated on, in order and with repetition. -/
def conditionFields (parts : List Part) : List String :=
  parts.filterMap fun part => part.condition?.map (·.field)

namespace Registry

/-- Runs the hooks of each given field of a table, for one phase. -/
def runFieldHooks (registry : Registry) (phase : Phase) (table : String) (fields : List String)
    (state : HookState) : HookState :=
  fields.foldl
    (fun state field => runHooks (registry.hooksFor phase (ColumnPath.mk table field).text) state)
    state

/-- Runs the hooks of a phase and table, and for selections the hooks of the fields of all
conditions that are there after the table's hooks. -/
def runPhase (registry : Registry) (phase : Phase) (table : String) (state : HookState) :
    HookState :=
  let afterTable := runHooks (registry.hooksFor phase table) state
  if phase = .beforeSelect then
    registry.runFieldHooks phase table (conditionFields afterTable.parts) afterTable
  else afterTable

/-- Fires the hooks of a statement. A statement with a literal, or of no known phase, has none. -/
def fire (registry : Registry) (identifiers : IdentifierSupply) (statement : Statement) : Firing :=
  match statement.literal, statementPhase? statement.parts with
  | none, some (phase, table) =>
      let final := registry.runPhase phase table ⟨statement.parts, identifiers, []⟩
      ⟨some phase, { statement with parts := final.parts }, final.identifiers, final.notices⟩
  | _, _ => ⟨none, statement, identifiers, []⟩

end Registry

end RankedSql

import RankedSql.Notice
import RankedSql.Part
import RankedSql.Text.Quoted

/-!
# Hooks

Changes to a statement before it is written. A hook sees the list of parts, may draw fresh
identifiers, and may leave a report. The two hooks that table definitions install each extend at
most one clause: `generatedIdentifier` the first inserted row, `touchUpdatedAt` the first update.
-/

namespace RankedSql

/-- A supply of fresh identifiers, numbered from the next one. -/
structure IdentifierSupply where
  nth : Nat → String

namespace IdentifierSupply

/-- The identifier that is drawn next. -/
def next (supply : IdentifierSupply) : String := supply.nth 0

/-- The supply after one identifier was drawn. -/
def rest (supply : IdentifierSupply) : IdentifierSupply := ⟨fun index => supply.nth (index + 1)⟩

end IdentifierSupply

/-- The moment at which a hook runs. Only the moments before a statement ever come. -/
inductive Phase where
  | beforeInsert
  | afterInsert
  | beforeUpdate
  | afterUpdate
  | beforeSelect
  | afterSelect
  deriving DecidableEq

namespace Phase

/-- All phases, those that never come included. -/
def all : List Phase :=
  [.beforeInsert, .afterInsert, .beforeUpdate, .afterUpdate, .beforeSelect, .afterSelect]

/-- What a phase is called. -/
def name : Phase → String
  | .beforeInsert => "beforeInsert"
  | .afterInsert => "afterInsert"
  | .beforeUpdate => "beforeUpdate"
  | .afterUpdate => "afterUpdate"
  | .beforeSelect => "beforeSelect"
  | .afterSelect => "afterSelect"

/-- The phase that goes by a name. -/
def ofName? (name : String) : Option Phase := all.find? fun phase => phase.name == name

end Phase

/-- A change to a statement that is about to be written. A change other than the known ones is taken
as a function of the parts alone (`amend`). A hook that keeps a state of its own is such a function
in each single run, and what is said of more than one run does not cover it. -/
inductive Hook where
  /-- Gives a column of the inserted row a fresh identifier, unless the row has that column. -/
  | generatedIdentifier (column : String)
  /-- Sets the time of the last change in an update that has a condition. -/
  | touchUpdatedAt
  /-- Reports the number of parts and changes nothing. -/
  | report (label : String)
  /-- Any other change to the parts. -/
  | amend (edit : List Part → List Part)

/-- What hooks work on: the parts, the identifiers still to be drawn, and the reports so far. -/
structure HookState where
  parts : List Part
  identifiers : IdentifierSupply
  notices : List Notice

/-- The first inserted row among the parts. -/
def firstInsertion? (parts : List Part) : Option Insertion := parts.findSome? Part.insertion?

/-- The first update among the parts. -/
def firstUpdate? (parts : List Part) : Option Update := parts.findSome? Part.update?

/-- Changes the first inserted row and leaves every other part alone. -/
def editFirstInsertion (edit : Insertion → Insertion) : List Part → List Part
  | [] => []
  | part :: rest =>
      match part.clause with
      | .insertion row => { part with clause := .insertion (edit row) } :: rest
      | _ => part :: editFirstInsertion edit rest

/-- Changes the first update and leaves every other part alone. -/
def editFirstUpdate (edit : Update → Update) : List Part → List Part
  | [] => []
  | part :: rest =>
      match part.clause with
      | .update change => { part with clause := .update (edit change) } :: rest
      | _ => part :: editFirstUpdate edit rest

/-- The row with one more column behind the others. -/
def Insertion.extend (row : Insertion) (column value : String) : Insertion :=
  { row with columns := row.columns ++ [column], values := row.values ++ [value] }

/-- The update with one more assignment behind the others. -/
def Update.extend (change : Update) (column value : String) : Update :=
  { change with assignments := change.assignments ++ [(column, value)] }

/-- Whether the update sets a column. -/
def Update.assigns (change : Update) (column : String) : Bool :=
  change.assignments.any fun entry => entry.1 == column

/-- The parts with the time of the last change set, where the hook applies. -/
def touchParts (parts : List Part) : List Part :=
  if parts.any fun part => part.condition?.isSome then
    match firstUpdate? parts with
    | some change =>
        if change.assigns "updated_at" then parts
        else editFirstUpdate (·.extend "updated_at" "CURRENT_TIMESTAMP") parts
    | none => parts
  else parts

/-- Runs a hook. An identifier is drawn only when it is used. -/
def Hook.run (hook : Hook) (state : HookState) : HookState :=
  match hook with
  | .generatedIdentifier column =>
      match firstInsertion? state.parts with
      | some row =>
          if row.columns.contains column then state
          else
            { state with
              parts :=
                editFirstInsertion (·.extend column (Text.quoted '"' state.identifiers.next))
                  state.parts
              identifiers := state.identifiers.rest }
      | none => state
  | .touchUpdatedAt => { state with parts := touchParts state.parts }
  | .report label =>
      { state with notices := state.notices ++ [.hookRan label state.parts.length] }
  | .amend edit => { state with parts := edit state.parts }

/-- Runs hooks in order, each on what the one before left. -/
def runHooks (hooks : List Hook) (state : HookState) : HookState :=
  hooks.foldl (fun state hook => hook.run state) state

/-- The first inserted row or update with the phase that it belongs to. -/
def Part.writePhase? (part : Part) : Option (Phase × String) :=
  match part.clause with
  | .insertion row => some (.beforeInsert, row.table)
  | .update change => some (.beforeUpdate, change.table)
  | _ => none

/-- The phase and the table of a statement: those of its first insertion or update, else a selection
from the first table after `FROM`. -/
def statementPhase? (parts : List Part) : Option (Phase × String) :=
  match parts.findSome? Part.writePhase? with
  | some found => some found
  | none =>
      if parts.any Part.isProjection then
        (parts.findSome? Part.sourceTable?).map fun table => (.beforeSelect, table)
      else none

end RankedSql

import RankedSql.Hook
import RankedSql.StableSort
import RankedSql.Text.Displayed
import RankedSql.Value

/-!
# The registry

The tables, columns and hooks that are known, shared by all statements over one database, and the
observer of definitions. Tables and hooks are only ever added. A hook is registered for a phase
under a key: a table, or a field of a table written `table.field`.
-/

namespace RankedSql

/-- A hook with the phase and the key it is registered for. -/
structure RegisteredHook where
  phase : Phase
  key : String
  hook : Hook

/-- The tables and hooks known so far, each in the order in which they were first given. -/
structure Registry where
  tables : List (String × Columns)
  hooks : List RegisteredHook
  observer : Option String

namespace Registry

/-- A registry that knows nothing. -/
def empty : Registry := ⟨[], [], none⟩

/-- The columns of a table, if it is defined. -/
def table? (registry : Registry) (table : String) : Option Columns :=
  registry.tables.lookup table

/-- Whether a table is defined. -/
def hasTable (registry : Registry) (table : String) : Bool := (registry.table? table).isSome

/-- The facts about a column of a table, if both are known. -/
def column? (registry : Registry) (table column : String) : Option ColumnFacts :=
  (registry.table? table).bind fun columns => columns.get? column

/-- Applies a change to the columns of a table, which start out empty. -/
def editTable (table : String) (edit : Columns → Columns) :
    List (String × Columns) → List (String × Columns)
  | [] => [(table, edit .empty)]
  | (other, columns) :: rest =>
      if other = table then (table, edit columns) :: rest
      else (other, columns) :: editTable table edit rest

/-- Marks a table as defined; the columns of a known table stay. -/
def defineTable (registry : Registry) (table : String) : Registry :=
  { registry with tables := editTable table id registry.tables }

/-- Records a column; its table counts as defined. -/
def registerColumn (registry : Registry) (table column : String) (facts : ColumnFacts) :
    Registry :=
  { registry with tables := editTable table (·.insert column facts) registry.tables }

/-- Records columns of a table in order; a name that comes again takes the later facts. -/
def registerColumns (registry : Registry) (table : String)
    (entries : List (String × ColumnFacts)) : Registry :=
  entries.foldl (fun registry entry => registry.registerColumn table entry.1 entry.2) registry

/-- Adds a hook for a phase and a key, behind all others. -/
def registerHook (registry : Registry) (phase : Phase) (key : String) (hook : Hook) : Registry :=
  { registry with hooks := registry.hooks ++ [⟨phase, key, hook⟩] }

/-- The hooks for a phase and a key, in registration order. -/
def hooksFor (registry : Registry) (phase : Phase) (key : String) : List Hook :=
  (registry.hooks.filter fun entry => entry.phase == phase && entry.key == key).map (·.hook)

/-- Puts an observer in place of the present one. -/
def observe (registry : Registry) (label : String) : Registry :=
  { registry with observer := some label }

/-- The announcement of a table, if it is defined and someone observes. -/
def announce (registry : Registry) (table : String) : List Notice :=
  match registry.observer, registry.table? table with
  | some label, some columns => [.tableDefined label table columns]
  | _, _ => []

/-- A value as the given column stores it. -/
def storedValue (registry : Registry) (table column : String) (value : Value) : String :=
  value.stored ((registry.column? table column).map (·.type))

/-- A one-line summary: the tables in order, and the number of phases that have hooks. -/
def summary (registry : Registry) : String :=
  let tables :=
    stableSort (fun left right => decide (left ≤ right)) (registry.tables.map Prod.fst)
  let phases := Phase.all.filter fun phase => registry.hooks.any fun entry => entry.phase == phase
  "Registry \x7b tables: " ++ Text.displayedList tables ++ ", hook_phases: " ++
    phases.length.repr ++ " \x7d"

theorem lookup_editTable (table other : String) (edit : Columns → Columns)
    (tables : List (String × Columns)) :
    (editTable table edit tables).lookup other =
      if other = table then some (edit ((tables.lookup table).getD .empty))
      else tables.lookup other := by
  induction tables with
  | nil => simp [editTable, List.lookup_cons]; grind
  | cons head tail ih =>
      rcases head with ⟨headTable, headColumns⟩
      unfold editTable
      by_cases same : headTable = table <;> by_cases found : other = headTable <;>
        simp_all [List.lookup_cons] <;> grind

/-- A defined table keeps its columns, and every other table stays as it is. -/
theorem table?_defineTable (registry : Registry) (table other : String) :
    (registry.defineTable table).table? other =
      if other = table then some ((registry.table? table).getD .empty)
      else registry.table? other :=
  lookup_editTable table other id registry.tables

/-- A recorded column enters its table, and every other table stays as it is. -/
theorem table?_registerColumn (registry : Registry) (table column other : String)
    (facts : ColumnFacts) :
    (registry.registerColumn table column facts).table? other =
      if other = table then some (((registry.table? table).getD .empty).insert column facts)
      else registry.table? other :=
  lookup_editTable table other (·.insert column facts) registry.tables

/-- A registered hook comes last under its phase and key, and under no other. -/
theorem hooksFor_registerHook (registry : Registry) (phase otherPhase : Phase)
    (key otherKey : String) (hook : Hook) :
    (registry.registerHook phase key hook).hooksFor otherPhase otherKey =
      if phase = otherPhase ∧ key = otherKey then
        registry.hooksFor otherPhase otherKey ++ [hook]
      else registry.hooksFor otherPhase otherKey := by
  unfold hooksFor registerHook
  by_cases samePhase : phase = otherPhase <;> by_cases sameKey : key = otherKey <;>
    simp [samePhase, sameKey]

end Registry

end RankedSql

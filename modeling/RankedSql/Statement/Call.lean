import RankedSql.Registry
import RankedSql.Statement.Join

/-!
# Composition calls

The calls that compose a statement. Each adds one part at the rank of its clause, in whatever
order the calls come; a join may fail and then changes nothing. Values in rows and updates are
written as the registered columns store them.
-/

namespace RankedSql

/-- A call that composes a statement. -/
inductive Call where
  /-- Selects fields, or all fields if none are given. -/
  | select (fields : List String)
  | source (table : String)
  | condition (field : String) (comparison : Comparison) (value : Value) (alternate : Bool)
  | orderBy (field : String) (direction : Direction)
  | limit (count : Nat)
  | offset (count : Nat)
  | insert (table : String) (data : List (String × Value))
  | update (table : String) (data : List (String × Value))
  | delete (table : String)
  | dropTable (table : String)
  | join (target source : String) (spec : JoinSpec)

/-- The row that an insertion adds, with its values as the columns store them. -/
def insertionOf (registry : Registry) (table : String) (data : List (String × Value)) :
    Insertion :=
  { table := table
    columns := data.map Prod.fst
    values := data.map fun entry => registry.storedValue table entry.1 entry.2 }

/-- The update that a call adds, with its values as the columns store them. -/
def updateOf (registry : Registry) (table : String) (data : List (String × Value)) : Update :=
  { table := table
    assignments := data.map fun entry =>
      (entry.1, registry.storedValue table entry.1 entry.2) }

/-- Makes a call. Known columns are looked up in the registry. -/
def Statement.perform (registry : Registry) (statement : Statement) :
    Call → Except Error Statement
  | .select fields =>
      let selected := if fields.isEmpty then ["*"] else fields
      .ok (statement.push (.ofClause (.projection selected)))
  | .source table => .ok (statement.push (.ofClause (.source table none)))
  | .condition field comparison value alternate =>
      .ok (statement.push (.ofClause (.condition ⟨field, comparison, value.inline, alternate⟩)))
  | .orderBy field direction => .ok (statement.push (.ofClause (.ordering field direction)))
  | .limit count => .ok (statement.push (.ofClause (.limit count)))
  | .offset count => .ok (statement.push (.ofClause (.offset count)))
  | .insert table data =>
      .ok (statement.push (.ofClause (.insertion (insertionOf registry table data))))
  | .update table data =>
      .ok (statement.push (.ofClause (.update (updateOf registry table data))))
  | .delete table => .ok (statement.push (.ofClause (.deletion table)))
  | .dropTable table => .ok (statement.push (.ofClause (.dropTable table)))
  | .join target source spec => statement.join target source spec

/-- A step in composing a statement: a call, or a direct edit of its parts or its literal. -/
inductive Edit where
  | call (call : Call)
  | push (part : Part)
  | pushFront (part : Part)
  | reverse
  | setLiteral (sql : String)

/-- Takes a step in composing a statement. Only a join can fail. -/
def Statement.edit (registry : Registry) (statement : Statement) : Edit → Except Error Statement
  | .call call => statement.perform registry call
  | .push part => .ok (statement.push part)
  | .pushFront part => .ok (statement.pushFront part)
  | .reverse => .ok statement.reverse
  | .setLiteral sql => .ok (statement.withLiteral sql)

/-- The statement after a step; a step that fails changes nothing. -/
def Statement.afterEdit (registry : Registry) (statement : Statement) (edit : Edit) : Statement :=
  match statement.edit registry edit with
  | .ok edited => edited
  | .error _ => statement

/-- The statement after a sequence of calls, of which those that fail change nothing. -/
def Statement.afterCalls (registry : Registry) (statement : Statement) (calls : List Call) :
    Statement :=
  calls.foldl (fun statement call => statement.afterEdit registry (.call call)) statement

@[simp]
theorem Statement.afterCalls_nil (registry : Registry) (statement : Statement) :
    statement.afterCalls registry [] = statement := rfl

@[simp]
theorem Statement.afterCalls_cons (registry : Registry) (statement : Statement) (call : Call)
    (calls : List Call) :
    statement.afterCalls registry (call :: calls) =
      (statement.afterEdit registry (.call call)).afterCalls registry calls := rfl

/-- No call touches the literal. -/
theorem Statement.literal_of_perform {registry : Registry} {statement performed : Statement}
    {call : Call} (done : statement.perform registry call = .ok performed) :
    performed.literal = statement.literal := by
  cases call with
  | join target source spec => exact Statement.literal_of_join done
  | _ => exact (Except.ok.inj done) ▸ rfl

end RankedSql

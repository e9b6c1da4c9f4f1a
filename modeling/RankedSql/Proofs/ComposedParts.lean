import RankedSql.Statement.Call

/-!
# The parts that calls leave

A call adds one clause at its own rank (`Statement.afterEdit_of_clause?`). A join does more: it
reads the parts that are there, and may change one of them. What it does is a function of the join
that is made, its anchor included (`Statement.afterEdit_join`).

So the clauses that are neither sources nor joins are those that the calls add, in the order of the
calls (`filter_parts_afterCalls`); among them are the rows and updates (`writeParts_afterCalls`).
-/

namespace RankedSql

/-! ## One call -/

/-- The clause that a call adds; a join may do more than add one. -/
def Call.clause? (registry : Registry) : Call → Option Clause
  | .select fields => some (.projection (if fields.isEmpty then ["*"] else fields))
  | .source table => some (.source table none)
  | .condition field comparison value alternate =>
      some (.condition ⟨field, comparison, value.inline, alternate⟩)
  | .orderBy field direction => some (.ordering field direction)
  | .limit count => some (.limit count)
  | .offset count => some (.offset count)
  | .insert table data => some (.insertion (insertionOf registry table data))
  | .update table data => some (.update (updateOf registry table data))
  | .delete table => some (.deletion table)
  | .dropTable table => some (.dropTable table)
  | .join _ _ _ => none

theorem Statement.afterEdit_of_clause? {registry : Registry} {call : Call} {clause : Clause}
    (adds : call.clause? registry = some clause) (statement : Statement) :
    statement.afterEdit registry (.call call) = statement.push (.ofClause clause) := by
  cases call with
  | join => cases adds
  | _ =>
      rcases Option.some.inj adds with rfl
      rfl

/-- A join that a statement takes: the columns that its references name, and which of its sides is
there already. -/
structure MadeJoin where
  spec : JoinSpec
  targetPath : ColumnPath
  sourcePath : ColumnPath
  anchor : JoinAnchor

namespace MadeJoin

/-- The target side of a join that was made. -/
def target (made : MadeJoin) : JoinSide := .ofPath made.spec made.targetPath

/-- The source side of a join that was made. -/
def source (made : MadeJoin) : JoinSide := .ofPath made.spec made.sourcePath

/-- The parts of a statement that takes the join. -/
def extend (made : MadeJoin) (parts : List Part) : List Part :=
  joinParts made.spec parts made.target made.source made.anchor

end MadeJoin

/-- The join that two references make, if both are paths and one side is there. -/
def Statement.madeJoin? (statement : Statement) (target source : String) (spec : JoinSpec) :
    Option MadeJoin :=
  match ColumnPath.ofText? target, ColumnPath.ofText? source with
  | some targetPath, some sourcePath =>
      (joinAnchor? statement.parts (.ofPath spec targetPath) (.ofPath spec sourcePath)).map
        fun anchor => ⟨spec, targetPath, sourcePath, anchor⟩
  | _, _ => none

theorem Statement.afterEdit_join (registry : Registry) (statement : Statement)
    (target source : String) (spec : JoinSpec) :
    statement.afterEdit registry (.call (.join target source spec)) =
      match statement.madeJoin? target source spec with
      | some made => { statement with parts := made.extend statement.parts }
      | none => statement := by
  simp only [afterEdit, edit, perform, join, JoinSide.resolve, madeJoin?]
  cases ColumnPath.ofText? target with
  | none => rfl
  | some targetPath =>
      cases ColumnPath.ofText? source with
      | none => rfl
      | some sourcePath =>
          simp only
          cases joinAnchor? statement.parts (.ofPath spec targetPath) (.ofPath spec sourcePath) with
          | none => rfl
          | some anchor => rfl

/-! ## Clauses that are added and kept -/

/-- An alias shows in nothing that is read off the parts other than sources. -/
theorem filterMap_fillAlias {α : Type} {select : Part → Option α}
    (noSource : ∀ table alias? rank, select ⟨.source table alias?, rank⟩ = none) (table : String)
    (alias? : Option String) (parts : List Part) :
    (fillAlias table alias? parts).filterMap select = parts.filterMap select := by
  induction parts with
  | nil => rfl
  | cons part rest ih =>
      rcases part with ⟨clause, rank⟩
      cases clause with
      | source other present =>
          simp only [fillAlias]
          split <;> simp [noSource, ih]
      | _ => simp [fillAlias, List.filterMap_cons, ih]

theorem filter_fillAlias {keep : Clause → Bool}
    (noSource : ∀ table alias?, keep (.source table alias?) = false) (table : String)
    (alias? : Option String) (parts : List Part) :
    (fillAlias table alias? parts).filter (keep ·.clause) = parts.filter (keep ·.clause) := by
  rw [← List.filterMap_eq_filter]
  apply filterMap_fillAlias
  intro other present rank
  simp [Option.guard, noSource]

theorem filter_joinParts {keep : Clause → Bool}
    (noSource : ∀ table alias?, keep (.source table alias?) = false)
    (noJoin : ∀ join, keep (.join join) = false) (spec : JoinSpec) (parts : List Part)
    (target source : JoinSide) (anchor : JoinAnchor) :
    (joinParts spec parts target source anchor).filter (keep ·.clause) =
      parts.filter (keep ·.clause) := by
  have dropped (attached : JoinSide) :
      [Part.ofClause (joinClause spec attached target source)].filter (keep ·.clause) = [] := by
    simp [Part.ofClause, joinClause, noJoin]
  cases anchor <;>
    simp only [joinParts, List.filter_append, filter_fillAlias noSource, dropped, List.append_nil]

theorem filter_afterEdit_join {keep : Clause → Bool}
    (noSource : ∀ table alias?, keep (.source table alias?) = false)
    (noJoin : ∀ join, keep (.join join) = false) (registry : Registry) (statement : Statement)
    (target source : String) (spec : JoinSpec) :
    (statement.afterEdit registry (.call (.join target source spec))).parts.filter
      (keep ·.clause) = statement.parts.filter (keep ·.clause) := by
  rw [Statement.afterEdit_join]
  cases statement.madeJoin? target source spec with
  | none => rfl
  | some made => exact filter_joinParts noSource noJoin _ _ _ _ _

/-- The clauses that are neither sources nor joins are those that the calls add, in the order of
the calls, each at its own rank. -/
theorem filter_parts_afterCalls {keep : Clause → Bool}
    (noSource : ∀ table alias?, keep (.source table alias?) = false)
    (noJoin : ∀ join, keep (.join join) = false) (registry : Registry) (statement : Statement)
    (calls : List Call) :
    (statement.afterCalls registry calls).parts.filter (keep ·.clause) =
      statement.parts.filter (keep ·.clause) ++
        ((calls.filterMap (Call.clause? registry)).filter keep).map Part.ofClause := by
  induction calls generalizing statement with
  | nil => simp
  | cons call rest ih =>
      rw [Statement.afterCalls_cons, ih]
      cases adds : call.clause? registry with
      | some clause =>
          rw [Statement.afterEdit_of_clause? adds, List.filterMap_cons_some adds]
          cases kept : keep clause <;>
            simp [Statement.push, Part.ofClause, List.filter_append, kept]
      | none =>
          rw [List.filterMap_cons_none adds]
          cases call with
          | join target source spec =>
              rw [filter_afterEdit_join noSource noJoin]
          | _ => cases adds

theorem Statement.literal_afterCalls (registry : Registry) (statement : Statement)
    (calls : List Call) : (statement.afterCalls registry calls).literal = statement.literal := by
  induction calls generalizing statement with
  | nil => rfl
  | cons call rest ih =>
      rw [Statement.afterCalls_cons, ih]
      unfold Statement.afterEdit
      split
      · next edited performed => exact literal_of_perform performed
      · rfl

/-! ## Rows, updates and conditions -/

/-- Whether a call adds a row or an update. -/
def Call.isWrite : Call → Bool
  | .insert _ _ | .update _ _ => true
  | _ => false

/-- Whether a call adds a condition. -/
def Call.isCondition : Call → Bool
  | .condition _ _ _ _ => true
  | _ => false

/-- Whether a clause is a row or an update. -/
def Clause.isWrite : Clause → Bool
  | .insertion _ | .update _ => true
  | _ => false

/-- Whether a clause is a condition. -/
def Clause.isCondition : Clause → Bool
  | .condition _ => true
  | _ => false

/-- The rows and updates among the parts, in order. -/
def writeParts (parts : List Part) : List Part := parts.filter (·.clause.isWrite)

/-- The conditions among the parts, in order. -/
def conditionParts (parts : List Part) : List Part := parts.filter (·.clause.isCondition)

theorem filter_isWrite_clauses (registry : Registry) (calls : List Call) :
    (calls.filterMap (Call.clause? registry)).filter Clause.isWrite =
      (calls.filter Call.isWrite).filterMap (Call.clause? registry) := by
  induction calls with
  | nil => rfl
  | cons call rest ih =>
      cases call <;>
        simp [List.filterMap_cons, List.filter_cons, Call.clause?, Call.isWrite, Clause.isWrite, ih]

theorem writeParts_afterCalls (registry : Registry) (calls : List Call) :
    writeParts (Statement.empty.afterCalls registry calls).parts =
      ((calls.filter Call.isWrite).filterMap (Call.clause? registry)).map Part.ofClause := by
  rw [← filter_isWrite_clauses]
  exact filter_parts_afterCalls (fun _ _ => rfl) (fun _ => rfl) registry .empty calls

theorem any_isCondition_clauses (registry : Registry) (calls : List Call) :
    (calls.filterMap (Call.clause? registry)).any Clause.isCondition =
      calls.any Call.isCondition := by
  induction calls with
  | nil => rfl
  | cons call rest ih =>
      cases call <;>
        simp [List.filterMap_cons, Call.clause?, Call.isCondition, Clause.isCondition, ih]

theorem Part.isSome_condition? (part : Part) :
    part.condition?.isSome = part.clause.isCondition := by
  rcases part with ⟨clause, rank⟩
  cases clause <;> rfl

/-- A statement has a condition exactly if a call states one. -/
theorem any_condition?_afterCalls (registry : Registry) (calls : List Call) :
    ((Statement.empty.afterCalls registry calls).parts.any fun part => part.condition?.isSome) =
      calls.any Call.isCondition := by
  have conditions : conditionParts (Statement.empty.afterCalls registry calls).parts =
      ((calls.filterMap (Call.clause? registry)).filter Clause.isCondition).map Part.ofClause :=
    filter_parts_afterCalls (fun _ _ => rfl) (fun _ => rfl) registry .empty calls
  calc ((Statement.empty.afterCalls registry calls).parts.any fun part => part.condition?.isSome)
    _ = (conditionParts (Statement.empty.afterCalls registry calls).parts).any
          (·.clause.isCondition) := by
        simp [conditionParts, List.any_filter, Part.isSome_condition?]
    _ = (calls.filterMap (Call.clause? registry)).any Clause.isCondition := by
        rw [conditions]
        simp [List.any_map, List.any_filter, Part.ofClause, Function.comp_def]
    _ = calls.any Call.isCondition := any_isCondition_clauses registry calls

end RankedSql

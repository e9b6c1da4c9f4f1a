import RankedSql.Proofs.FiredParts
import RankedSql.Proofs.MergedColumns

/-!
# The frame of drafted hooks

A hook of a table definition changes the first row or the first update of a statement, whatever
table that is for. It does not go astray all the same: a statement has the phase and the table of
its first clause that writes, so the hooks that run are those of the table of this very clause, and
it is the one that they find. They let it grow (`Clause.Grows`) and leave everything else as it is;
once it has grown, they find nothing more to do (`Registry.Drafted.fire_frame`).
-/

namespace RankedSql

/-- How the hooks of a table may change a clause that writes to it. A row gets some of the columns
that they fill, all of them new to it and no two the same, and as many values. An update gets the
time of its change, unless it assigns that already, or stays as it is. -/
inductive Clause.Grows (registry : Registry) : String → Clause → Clause → Prop where
  | filled (row : Insertion) (columns values : List String)
      (parallel : columns.length = values.length) (distinct : columns.Nodup)
      (new : ∀ column ∈ columns, column ∉ row.columns)
      (asked : columns ⊆ registry.identifierColumns row.table) :
      Grows registry row.table (.insertion row)
        (.insertion ⟨row.table, row.columns ++ columns, row.values ++ values⟩)
  | kept (change : Update) : Grows registry change.table (.update change) (.update change)
  | touched (change : Update) (unset : change.assigns "updated_at" = false)
      (asked : registry.touchesUpdates change.table = true) :
      Grows registry change.table (.update change)
        (.update ⟨change.table, change.assignments ++ [("updated_at", "CURRENT_TIMESTAMP")]⟩)

/-! ## Growing clauses -/

theorem mem_missingColumns_iff {present columns : List String} {column : String} :
    column ∈ missingColumns present columns ↔ column ∈ columns ∧ column ∉ present := by
  simp [missingColumns_eq]

/-- A row that has its missing columns misses none. -/
theorem missingColumns_append_missingColumns (present columns : List String) :
    missingColumns (present ++ missingColumns present columns) columns = [] := by
  apply List.eq_nil_iff_forall_not_mem.2
  intro column missing
  rcases mem_missingColumns_iff.1 missing with ⟨asked, absent⟩
  apply absent
  by_cases there : column ∈ present
  · exact List.mem_append_left _ there
  · exact List.mem_append_right _ (mem_missingColumns_iff.2 ⟨asked, there⟩)

theorem Insertion.grows_fill (registry : Registry) (row : Insertion) (supply : IdentifierSupply) :
    let missing := missingColumns row.columns (registry.identifierColumns row.table)
    Clause.Grows registry row.table (.insertion row)
      (.insertion (row.fill missing (supply.take missing.length))) := by
  intro missing
  apply Clause.Grows.filled row missing
  · simp [IdentifierSupply.take]
  · exact nodup_missingColumns _ _
  · intro column member
    exact (mem_missingColumns_iff.1 member).2
  · intro column member
    exact (mem_missingColumns_iff.1 member).1

theorem Update.grows_touched (registry : Registry) (change : Update) (conditioned : Bool) :
    let final := if conditioned ∧ registry.touchesUpdates change.table then change.touched
      else change
    Clause.Grows registry change.table (.update change) (.update final) := by
  intro final
  unfold final
  split
  · next applies =>
      unfold Update.touched
      split
      · exact .kept change
      · next unset => exact .touched change (by simpa using unset) applies.2
  · exact .kept change

/-! ## Statements by their first clause that writes -/

/-- A statement has a literal, or no clause that writes, or a first one, which is a row or an
update. -/
inductive Statement.FirstWrite : Statement → Prop where
  | literal (parts : List Part) (sql : String) : FirstWrite ⟨parts, some sql⟩
  | absent (parts : List Part) (noWrites : writeParts parts = []) : FirstWrite ⟨parts, none⟩
  | insertion (before : List Part) (row : Insertion) (rank : Rank) (after : List Part)
      (clear : ∀ part ∈ before, part.clause.isWrite = false) :
      FirstWrite ⟨before ++ ⟨.insertion row, rank⟩ :: after, none⟩
  | update (before : List Part) (change : Update) (rank : Rank) (after : List Part)
      (clear : ∀ part ∈ before, part.clause.isWrite = false) :
      FirstWrite ⟨before ++ ⟨.update change, rank⟩ :: after, none⟩

theorem Statement.firstWrite (statement : Statement) : statement.FirstWrite := by
  rcases statement with ⟨parts, _ | sql⟩
  · cases writes : writeParts parts with
    | nil => exact .absent parts writes
    | cons first later =>
        rcases List.filter_eq_cons_iff.1 writes with ⟨before, after, rfl, notWrite, isWrite, _⟩
        have clear : ∀ part ∈ before, part.clause.isWrite = false := by simpa using notWrite
        rcases first with ⟨clause, rank⟩
        cases clause with
        | insertion row => exact .insertion before row rank after clear
        | update change => exact .update before change rank after clear
        | _ => cases isWrite
  · exact .literal parts sql

namespace Registry.Drafted

variable {registry : Registry} (drafted : registry.Drafted)
include drafted

/-- Hooks that have run find nothing more to do. -/
theorem fire_fire (supply later : IdentifierSupply) (statement : Statement) :
    let fired := registry.fire supply statement
    registry.fire later fired.statement = ⟨fired.phase, fired.statement, later, []⟩ := by
  cases statement.firstWrite with
  | literal parts sql => rfl
  | absent parts noWrites =>
      rcases drafted.fire_of_no_writes noWrites with ⟨phase, fired_eq⟩
      simp only [fired_eq]
  | insertion before row rank after clear =>
      have complete := missingColumns_append_missingColumns row.columns
        (registry.identifierColumns row.table)
      simp only [drafted.fire_insertion clear, Insertion.fill, complete]
      simp [IdentifierSupply.take, IdentifierSupply.drop]
  | update before change rank after clear =>
      simp only [drafted.fire_update clear]
      split
      · next applies =>
          have sameTable : change.touched.table = change.table := by
            unfold Update.touched
            split <;> rfl
          rw [sameTable, if_pos applies, Update.touched_touched]
      · rfl

/-- The hooks leave a statement as it is, or let its first clause that writes grow. -/
theorem statement_fire (supply : IdentifierSupply) (statement : Statement) :
    let fired := registry.fire supply statement
    fired.statement = statement ∨
      ∃ before clause rank after phase table grown,
        statement = ⟨before ++ ⟨clause, rank⟩ :: after, none⟩ ∧
        (∀ part ∈ before, part.clause.isWrite = false) ∧
        statementPhase? statement.parts = some (phase, table) ∧
        clause.Grows registry table grown ∧
        fired.statement = ⟨before ++ ⟨grown, rank⟩ :: after, none⟩ := by
  intro fired
  cases statement.firstWrite with
  | literal parts sql => exact .inl rfl
  | absent parts noWrites =>
      rcases drafted.fire_of_no_writes noWrites with ⟨phase, fired_eq⟩
      exact .inl (congrArg Firing.statement (fired_eq supply))
  | insertion before row rank after clear =>
      have found : statementPhase? (before ++ ⟨.insertion row, rank⟩ :: after) =
          some (.beforeInsert, row.table) := statementPhase?_append clear rfl after
      have fired_eq := drafted.fire_insertion clear row rank after supply
      have grows := row.grows_fill registry supply
      exact .inr ⟨before, _, rank, after, _, _, _, rfl, clear, found, grows,
        congrArg Firing.statement fired_eq⟩
  | update before change rank after clear =>
      have found : statementPhase? (before ++ ⟨.update change, rank⟩ :: after) =
          some (.beforeUpdate, change.table) := statementPhase?_append clear rfl after
      have fired_eq := drafted.fire_update clear change rank after supply
      have grows := change.grows_touched registry
        ((before ++ after).any fun part => part.condition?.isSome)
      exact .inr ⟨before, _, rank, after, _, _, _, rfl, clear, found, grows,
        congrArg Firing.statement fired_eq⟩

/-- Drafted hooks keep to the statement that they run for. Whatever the parts are and at whatever
ranks, all of them stay in place, and at most one changes: the first row or update, if no clause
that writes comes before it. It belongs to the table of the statement, and it only grows. A second
run of the hooks changes nothing, draws no identifier and reports nothing. -/
theorem fire_frame (supply : IdentifierSupply) (statement : Statement) :
    let fired := registry.fire supply statement
    fired.statement.parts.map Part.rank = statement.parts.map Part.rank ∧
    (fired.statement = statement ∨
      ∃ before clause rank after phase table grown,
        statement = ⟨before ++ ⟨clause, rank⟩ :: after, none⟩ ∧
        (∀ part ∈ before, part.clause.isWrite = false) ∧
        statementPhase? statement.parts = some (phase, table) ∧
        clause.Grows registry table grown ∧
        fired.statement = ⟨before ++ ⟨grown, rank⟩ :: after, none⟩) ∧
    ∀ later, registry.fire later fired.statement = ⟨fired.phase, fired.statement, later, []⟩ := by
  intro fired
  have frame := drafted.statement_fire supply statement
  refine ⟨?_, frame, fun later => drafted.fire_fire supply later statement⟩
  rcases frame with same | ⟨_, _, _, _, _, _, _, statement_eq, _, _, _, fired_eq⟩
  · exact congrArg (fun result => result.parts.map Part.rank) same
  · have ranks_eq := congrArg (fun result => result.parts.map Part.rank) fired_eq
    refine ranks_eq.trans ?_
    simp [statement_eq]

end Registry.Drafted

/-- A row that comes first is all that changes, also at a late rank, with a condition and with
writes to another table whose hooks would find something to do, and with each hook registered
twice. -/
theorem Registry.Drafted.fire_frame_of_mixed_parts :
    let notes : RegistryStep := .define (.draft "notes" [.uuid "id", .uuid "key", .timestamps])
    let registry :=
      Registry.empty.afterSteps [notes, .define (.draft "tags" [.uuid "code", .timestamps]), notes]
    let condition : Part := ⟨.condition ⟨"id", .equal, "1", false⟩, .ordering⟩
    let later : List Part :=
      [⟨.update ⟨"tags", []⟩, .target⟩, ⟨.insertion ⟨"tags", [], []⟩, .projection⟩]
    let statement : Statement :=
      ⟨condition :: ⟨.insertion ⟨"notes", ["key"], ["NULL"]⟩, .filter⟩ :: later, none⟩
    let fired := registry.fire ⟨Nat.repr⟩ statement
    registry.Drafted ∧
      fired.statement = ⟨condition ::
        ⟨.insertion ⟨"notes", ["key", "id"], ["NULL", "\"0\""]⟩, .filter⟩ :: later, none⟩ ∧
      registry.fire ⟨Nat.repr⟩ fired.statement =
        ⟨some .beforeInsert, fired.statement, ⟨Nat.repr⟩, []⟩ := by
  intro notes registry condition later statement fired
  have drafted : registry.Drafted := drafted_afterSteps (by decide) drafted_empty
  have fired_eq : fired.statement = ⟨condition ::
      ⟨.insertion ⟨"notes", ["key", "id"], ["NULL", "\"0\""]⟩, .filter⟩ :: later, none⟩ := by
    decide +kernel
  have phase_eq : fired.phase = some .beforeInsert := by decide +kernel
  have again := (drafted.fire_frame ⟨Nat.repr⟩ statement).2.2 ⟨Nat.repr⟩
  exact ⟨drafted, fired_eq, phase_eq ▸ again⟩

end RankedSql

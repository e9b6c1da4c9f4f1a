import RankedSql.Proofs.ComposedParts
import RankedSql.Proofs.DraftedHooks

/-!
# The parts that hooks leave

Before a composed statement is written, its hooks run (`composedSql`). On a drafted registry they
do one thing at most. If a row comes before all other rows and updates, its columns are filled
(`Registry.Drafted.fire_insertion`); if an update comes first, it is touched
(`Registry.Drafted.fire_update`); without rows and updates nothing happens
(`Registry.Drafted.fire_of_no_writes`).
-/

namespace RankedSql

/-- The statement of a sequence of calls, written after its hooks. -/
def composedSql (registry : Registry) (supply : IdentifierSupply) (calls : List Call) : String :=
  (registry.fire supply (Statement.empty.afterCalls registry calls)).statement.render

theorem render_fire_afterCalls (registry : Registry) (supply : IdentifierSupply)
    (calls : List Call) :
    composedSql registry supply calls = renderParts
      (registry.fire supply (Statement.empty.afterCalls registry calls)).statement.parts := by
  have noLiteral := Statement.empty.literal_afterCalls registry calls
  have kept : (registry.fire supply (Statement.empty.afterCalls registry calls)).statement.literal =
      none := by
    unfold Registry.fire
    split <;> exact noLiteral
  rw [composedSql, Statement.render, kept]

theorem insertion?_of_not_isWrite {part : Part} (other : part.clause.isWrite = false) :
    part.insertion? = none := by
  rcases part with ⟨clause, rank⟩
  cases clause with
  | insertion => cases other
  | _ => rfl

theorem update?_of_not_isWrite {part : Part} (other : part.clause.isWrite = false) :
    part.update? = none := by
  rcases part with ⟨clause, rank⟩
  cases clause with
  | update => cases other
  | _ => rfl

theorem writePhase?_of_not_isWrite {part : Part} (other : part.clause.isWrite = false) :
    part.writePhase? = none := by
  rcases part with ⟨clause, rank⟩
  cases clause with
  | insertion | update => cases other
  | _ => rfl

theorem statementPhase?_append {before : List Part}
    (clear : ∀ part ∈ before, part.clause.isWrite = false) {part : Part}
    {found : Phase × String} (writes : part.writePhase? = some found) (after : List Part) :
    statementPhase? (before ++ part :: after) = some found := by
  have none : before.findSome? Part.writePhase? = none :=
    List.findSome?_eq_none_iff.2 fun other member => writePhase?_of_not_isWrite (clear other member)
  simp [statementPhase?, List.findSome?_append, none, writes]

/-- Behind parts that do not write, a row or an update is the first. -/
theorem writeParts_append_cons {before : List Part}
    (clear : ∀ part ∈ before, part.clause.isWrite = false) {part : Part}
    (writes : part.clause.isWrite = true) (after : List Part) :
    writeParts (before ++ part :: after) = part :: writeParts after := by
  have noWrites : before.filter (·.clause.isWrite) = [] := by simpa using clear
  simp [writeParts, List.filter_append, noWrites, writes]

theorem conditionParts_append_cons {part : Part} (other : part.clause.isCondition = false)
    (before after : List Part) :
    conditionParts (before ++ part :: after) = conditionParts (before ++ after) := by
  simp [conditionParts, other]

namespace Registry.Drafted

variable {registry : Registry}

theorem fire_eq (drafted : registry.Drafted) {parts : List Part} {phase : Phase} {table : String}
    (found : statementPhase? parts = some (phase, table)) (supply : IdentifierSupply) :
    registry.fire supply ⟨parts, none⟩ =
      let final := runHooks (registry.hooksFor phase table) ⟨parts, supply, []⟩
      ⟨some phase, ⟨final.parts, none⟩, final.identifiers, final.notices⟩ := by
  simp [fire, found, drafted.runPhase_eq]

/-- Without rows and updates there is nothing for a drafted hook to do. -/
theorem fire_of_no_writes (drafted : registry.Drafted) {parts : List Part}
    (noWrites : writeParts parts = []) :
    ∃ phase, ∀ supply,
      registry.fire supply ⟨parts, none⟩ = ⟨phase, ⟨parts, none⟩, supply, []⟩ := by
  have noWritePhase : parts.findSome? Part.writePhase? = none := by
    refine List.findSome?_eq_none_iff.2 fun part member => writePhase?_of_not_isWrite ?_
    simpa using List.filter_eq_nil_iff.1 noWrites part member
  cases found : statementPhase? parts with
  | none => exact ⟨none, fun supply => by simp [fire, found]⟩
  | some found_eq =>
      rcases found_eq with ⟨phase, table⟩
      have select : phase = .beforeSelect := by
        simp only [statementPhase?, noWritePhase] at found
        split at found
        · rcases Option.map_eq_some_iff.1 found with ⟨_, _, same⟩
          exact (congrArg Prod.fst same).symm
        · cases found
      refine ⟨some phase, fun supply => ?_⟩
      rw [drafted.fire_eq found, select, drafted.hooksFor_beforeSelect]
      rfl

/-- If a row comes first, hooks add their identifiers to it and leave all else as it is. -/
theorem fire_insertion (drafted : registry.Drafted) {before : List Part}
    (clear : ∀ part ∈ before, part.clause.isWrite = false) (row : Insertion) (rank : Rank)
    (after : List Part) (supply : IdentifierSupply) :
    let missing := missingColumns row.columns (registry.identifierColumns row.table)
    let filled := row.fill missing (supply.take missing.length)
    registry.fire supply ⟨before ++ ⟨.insertion row, rank⟩ :: after, none⟩ =
      ⟨some .beforeInsert, ⟨before ++ ⟨.insertion filled, rank⟩ :: after, none⟩,
        supply.drop missing.length, []⟩ := by
  intro missing filled
  have found : statementPhase? (before ++ ⟨.insertion row, rank⟩ :: after) =
      some (.beforeInsert, row.table) := statementPhase?_append clear rfl after
  have noRow : ∀ part ∈ before, part.insertion? = none := fun part member =>
    insertion?_of_not_isWrite (clear part member)
  rw [drafted.fire_eq found, drafted.hooksFor_beforeInsert, runHooks_generatedIdentifier noRow]

/-- If an update comes first, hooks touch it where there is a condition, and leave all else as it
is. -/
theorem fire_update (drafted : registry.Drafted) {before : List Part}
    (clear : ∀ part ∈ before, part.clause.isWrite = false) (change : Update) (rank : Rank)
    (after : List Part) (supply : IdentifierSupply) :
    let conditioned := (before ++ after).any fun part => part.condition?.isSome
    let final := if conditioned ∧ registry.touchesUpdates change.table then change.touched
      else change
    registry.fire supply ⟨before ++ ⟨.update change, rank⟩ :: after, none⟩ =
      ⟨some .beforeUpdate, ⟨before ++ ⟨.update final, rank⟩ :: after, none⟩, supply, []⟩ := by
  intro conditioned final
  have found : statementPhase? (before ++ ⟨.update change, rank⟩ :: after) =
      some (.beforeUpdate, change.table) := statementPhase?_append clear rfl after
  have noUpdate : ∀ part ∈ before, part.update? = none := fun part member =>
    update?_of_not_isWrite (clear part member)
  have touches : registry.touchesUpdates change.table = true ↔
      (registry.hooksFor .beforeUpdate change.table).length ≠ 0 := by
    simp [Registry.touchesUpdates]
  simp only [final, touches]
  rw [drafted.fire_eq found, drafted.hooksFor_beforeUpdate, runHooks_touchUpdatedAt noUpdate,
    List.length_replicate]

end Registry.Drafted

section

variable {registry : Registry} (drafted : registry.Drafted) {statement : Statement}
  (noLiteral : statement.literal = none) {rank : Rank} {later : List Part}
include drafted noLiteral

theorem parts_fire_of_no_writes (noWrites : writeParts statement.parts = [])
    (supply : IdentifierSupply) :
    (registry.fire supply statement).statement.parts = statement.parts := by
  rcases statement with ⟨parts, literal⟩
  subst noLiteral
  rcases drafted.fire_of_no_writes noWrites with ⟨phase, fired_eq⟩
  rw [fired_eq supply]

/-- After the hooks of a first row, the rows and updates are those from before, the first one
filled. -/
theorem parts_fire_of_insertion {row : Insertion}
    (first : writeParts statement.parts = ⟨.insertion row, rank⟩ :: later)
    (supply : IdentifierSupply) :
    let missing := missingColumns row.columns (registry.identifierColumns row.table)
    let filled : Part := ⟨.insertion (row.fill missing (supply.take missing.length)), rank⟩
    let fired := (registry.fire supply statement).statement.parts
    writeParts fired = filled :: later ∧ conditionParts fired = conditionParts statement.parts := by
  rcases statement with ⟨parts, literal⟩
  subst noLiteral
  rcases List.filter_eq_cons_iff.1 first with ⟨before, after, rfl, notWrite, _, rfl⟩
  have clear : ∀ part ∈ before, part.clause.isWrite = false := by simpa using notWrite
  simp only [drafted.fire_insertion clear]
  refine ⟨writeParts_append_cons clear rfl after, ?_⟩
  rw [conditionParts_append_cons rfl, conditionParts_append_cons rfl]

/-- After the hooks of a first update, the rows and updates are those from before, the first one
touched where there is a condition. -/
theorem parts_fire_of_update {change : Update}
    (first : writeParts statement.parts = ⟨.update change, rank⟩ :: later)
    (supply : IdentifierSupply) :
    let conditioned := statement.parts.any fun part => part.condition?.isSome
    let final := if conditioned ∧ registry.touchesUpdates change.table then change.touched
      else change
    let fired := (registry.fire supply statement).statement.parts
    writeParts fired = ⟨.update final, rank⟩ :: later ∧
      conditionParts fired = conditionParts statement.parts := by
  rcases statement with ⟨parts, literal⟩
  subst noLiteral
  rcases List.filter_eq_cons_iff.1 first with ⟨before, after, rfl, notWrite, _, rfl⟩
  have clear : ∀ part ∈ before, part.clause.isWrite = false := by simpa using notWrite
  simp only [drafted.fire_update clear, any_condition?_append_update]
  refine ⟨writeParts_append_cons clear rfl after, ?_⟩
  rw [conditionParts_append_cons rfl, conditionParts_append_cons rfl]

end

end RankedSql

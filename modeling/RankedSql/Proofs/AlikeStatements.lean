import RankedSql.Proofs.AlikeParts
import RankedSql.Proofs.ComposedParts
import RankedSql.Proofs.DraftedHooks

/-!
# Statements that differ inside literals

Two runs of the same calls, with other texts in the place of the texts, compose statements with
alike parts (`alike_afterCalls`). What a join does to a statement depends on the tables that are
named in it, and never on a value. The hooks of table definitions keep the parts alike whatever
identifiers they draw (`alike_fire`).
-/

namespace RankedSql

/-- Whether a call brings values. -/
def Call.holdsValues : Call → Bool
  | .condition _ _ _ _ | .insert _ _ | .update _ _ => true
  | _ => false

/-- A call in which every name is plain. -/
def Call.NamesPlain : Call → Prop
  | .select fields => ∀ field ∈ fields, Plain field
  | .source table | .delete table | .dropTable table => Plain table
  | .condition field _ _ _ | .orderBy field _ => Plain field
  | .limit _ | .offset _ => True
  | .insert table data | .update table data => Plain table ∧ ∀ entry ∈ data, Plain entry.1
  | .join left right spec =>
      Plain left ∧ Plain right ∧ ∀ entry ∈ spec.aliases, Plain entry.1 ∧ Plain entry.2

instance (call : Call) : Decidable call.NamesPlain := by
  cases call <;>
    · unfold Call.NamesPlain
      infer_instance

/-- Two entries for the same column, equal or both texts. -/
def RetextedEntries (left right : String × Value) : Prop :=
  left.1 = right.1 ∧ left.2.Retexted right.2

/-- Two calls that are the same up to the texts among their values. -/
inductive Call.Retexted : Call → Call → Prop where
  | same {call : Call} (valueless : call.holdsValues = false) : Retexted call call
  | condition (field : String) (comparison : Comparison) (alternate : Bool) {left right : Value}
      (retexted : left.Retexted right) :
      Retexted (.condition field comparison left alternate)
        (.condition field comparison right alternate)
  | insert (table : String) {left right : List (String × Value)}
      (retexted : List.Forall₂ RetextedEntries left right) :
      Retexted (.insert table left) (.insert table right)
  | update (table : String) {left right : List (String × Value)}
      (retexted : List.Forall₂ RetextedEntries left right) :
      Retexted (.update table left) (.update table right)

theorem Call.Retexted.refl (call : Call) : call.Retexted call := by
  have entries (data : List (String × Value)) : List.Forall₂ RetextedEntries data data :=
    List.forall₂_same.2 fun entry _ => ⟨rfl, .same entry.2⟩
  cases call with
  | condition field comparison value alternate => exact .condition _ _ _ (.same value)
  | insert table data => exact .insert table (entries data)
  | update table data => exact .update table (entries data)
  | _ => exact .same rfl

/-! ## Clauses of calls -/

theorem alike_insertionOf (registry : Registry) {table : String}
    {left right : List (String × Value)} (plain : Plain table)
    (plainColumns : ∀ entry ∈ left, Plain entry.1)
    (retexted : List.Forall₂ RetextedEntries left right) :
    (Clause.insertion (insertionOf registry table left)).Alike
      (.insertion (insertionOf registry table right)) := by
  have sameColumns : left.map Prod.fst = right.map Prod.fst := by
    induction retexted with
    | nil => rfl
    | cons head _ ih =>
        rcases List.forall_mem_cons.1 plainColumns with ⟨_, plainTail⟩
        rw [List.map_cons, List.map_cons, head.1, ih plainTail]
  have values : List.Forall₂ Alike (insertionOf registry table left).values
      (insertionOf registry table right).values := by
    simp only [insertionOf, List.forall₂_map_left_iff, List.forall₂_map_right_iff]
    refine retexted.imp ?_
    rintro ⟨column, value⟩ ⟨_, valueRight⟩ ⟨rfl, retextedValue⟩
    exact retextedValue.alike_stored _
  have columns : ∀ column ∈ left.map Prod.fst, Plain column := by simpa using plainColumns
  simpa [insertionOf, sameColumns] using Clause.Alike.insertion plain columns values

theorem alike_updateOf (registry : Registry) {table : String}
    {left right : List (String × Value)} (plain : Plain table)
    (plainColumns : ∀ entry ∈ left, Plain entry.1)
    (retexted : List.Forall₂ RetextedEntries left right) :
    (Clause.update (updateOf registry table left)).Alike
      (.update (updateOf registry table right)) := by
  refine .update plain ?_
  induction retexted with
  | nil => exact .nil
  | @cons entry entryRight _ _ head _ ih =>
      rcases List.forall_mem_cons.1 plainColumns with ⟨plainHead, plainTail⟩
      rcases entry with ⟨column, value⟩
      rcases entryRight with ⟨columnRight, valueRight⟩
      rcases head with ⟨rfl, retextedValue⟩
      exact .cons ⟨rfl, plainHead, retextedValue.alike_stored _⟩ (ih plainTail)

theorem plain_aliasedTable {table : String} {alias? : Option String} (plain : Plain table)
    (plainAlias : ∀ name ∈ alias?, Plain name) : Plain (aliasedTable table alias?) := by
  cases alias? with
  | none => exact plain
  | some name => exact (plain.append (by decide)).append (plainAlias name rfl)

/-- The clauses that two retexted calls add are alike. -/
theorem Call.Retexted.alike_clause {registry : Registry} {left right : Call} {clause : Clause}
    (retexted : left.Retexted right) (plain : left.NamesPlain)
    (adds : left.clause? registry = some clause) :
    ∃ clauseRight, right.clause? registry = some clauseRight ∧ clause.Alike clauseRight := by
  cases retexted with
  | condition field comparison alternate retexted =>
      rcases Option.some.inj adds with rfl
      exact ⟨_, rfl, .condition plain retexted.alike_inline⟩
  | insert table retexted =>
      rcases Option.some.inj adds with rfl
      exact ⟨_, rfl, alike_insertionOf registry plain.1 plain.2 retexted⟩
  | update table retexted =>
      rcases Option.some.inj adds with rfl
      exact ⟨_, rfl, alike_updateOf registry plain.1 plain.2 retexted⟩
  | same valueless =>
      refine ⟨clause, adds, ?_⟩
      cases left with
      | condition | insert | update => cases valueless
      | join => cases adds
      | select fields =>
          rcases Option.some.inj adds with rfl
          refine .plain rfl (Plain.append (by decide) (Plain.joinWith (by decide) ?_))
          split
          · exact List.forall_mem_singleton.2 (by decide)
          · exact plain
      | source table | delete table | dropTable table =>
          rcases Option.some.inj adds with rfl
          exact .plain rfl (Plain.append (by decide) plain)
      | orderBy field direction =>
          rcases Option.some.inj adds with rfl
          have plainDirection : Plain direction.sql := by cases direction <;> decide
          exact .plain rfl
            (((Plain.append (by decide) plain).append (by decide)).append plainDirection)
      | limit count | offset count =>
          rcases Option.some.inj adds with rfl
          exact .plain rfl (Plain.append (by decide) (numberText_natRepr count).plain)

/-! ## Joins -/

/-- A side of a join with plain names. -/
structure JoinSide.NamesPlain (side : JoinSide) : Prop where
  plainTable : Plain side.table
  plainAlias : ∀ name ∈ side.alias?, Plain name
  plainColumn : Plain side.column

theorem JoinSide.namesPlain_of_resolve {spec : JoinSpec} {reference : String} {side : JoinSide}
    (resolved : resolve spec reference = .ok side) (plain : Plain reference)
    (plainAliases : ∀ entry ∈ spec.aliases, Plain entry.1 ∧ Plain entry.2) : side.NamesPlain := by
  unfold resolve at resolved
  split at resolved
  · next path read =>
      rcases Except.ok.inj resolved with rfl
      rw [← ColumnPath.text_of_ofText? read] at plain
      rcases plain_append.1 plain with ⟨headAndPoint, column⟩
      have head := (plain_append.1 headAndPoint).1
      have table : Plain ((spec.tableOf? path.table).getD path.table) := by
        cases found : spec.tableOf? path.table with
        | none => exact head
        | some table =>
            rcases Option.map_eq_some_iff.1 found with ⟨entry, entryFound, rfl⟩
            exact (plainAliases entry (List.mem_of_find?_eq_some entryFound)).1
      refine ⟨table, ?_, column⟩
      intro name known
      rcases List.lookup_eq_some_iff.1 known with ⟨before, after, aliases_eq, _⟩
      have listed : ((spec.tableOf? path.table).getD path.table, name) ∈ spec.aliases := by
        simp [aliases_eq]
      exact (plainAliases _ listed).2
  · cases resolved

theorem JoinSide.NamesPlain.operand {side : JoinSide} (plain : side.NamesPlain) :
    Plain side.operand := by
  have name : Plain (side.alias?.getD side.table) := by
    cases known : side.alias? with
    | none => exact plain.plainTable
    | some name => exact plain.plainAlias name known
  exact (name.append (by decide)).append plain.plainColumn

theorem plain_joinClause {spec : JoinSpec} {attached target source : JoinSide}
    (plainAttached : attached.NamesPlain) (plainTarget : target.NamesPlain)
    (plainSource : source.NamesPlain) : Plain (joinClause spec attached target source).text := by
  have kind : Plain (spec.kind.sql ++ " JOIN ") := by cases spec.kind <;> decide
  have joined := kind.append
    (plain_aliasedTable plainAttached.plainTable plainAttached.plainAlias)
  have left := (joined.append (by decide : Plain " ON ")).append plainTarget.operand
  have tested := (left.append (by decide : Plain " ")).append (plain_symbol spec.comparison)
  exact (tested.append (by decide : Plain " ")).append plainSource.operand

theorem plain_filledSource {table : String} {present alias? : Option String}
    (plain : Plain (Clause.source table present).text) (plainAlias : ∀ name ∈ alias?, Plain name) :
    Plain (Clause.source table (present.or alias?)).text := by
  cases present with
  | none => exact Plain.append (by decide) (plain_aliasedTable (plain_append.1 plain).2 plainAlias)
  | some name => exact plain

theorem alike_fillAlias {left right : List Part} (alike : List.Forall₂ Part.Alike left right)
    (table : String) {alias? : Option String} (plainAlias : ∀ name ∈ alias?, Plain name) :
    List.Forall₂ Part.Alike (fillAlias table alias? left) (fillAlias table alias? right) := by
  induction alike with
  | nil => exact .nil
  | cons head tail ih =>
      rcases head with @⟨clause, clauseRight, alikeClauses⟩
      cases alikeClauses with
      | condition plain alike => exact .cons ⟨.condition plain alike⟩ ih
      | insertion plain plainColumns alike =>
          exact .cons ⟨.insertion plain plainColumns alike⟩ ih
      | update plain alike => exact .cons ⟨.update plain alike⟩ ih
      | plain valueless plain =>
          cases clause with
          | source other present =>
              simp only [fillAlias, Part.ofClause]
              split
              · exact .cons ⟨.plain rfl (plain_filledSource plain plainAlias)⟩ tail
              · exact .cons ⟨.plain rfl plain⟩ ih
          | _ => exact .cons ⟨.plain valueless plain⟩ ih

theorem any_eq_of_forall₂ {α : Type} {R : α → α → Prop} {test : α → Bool} {left right : List α}
    (related : List.Forall₂ R left right)
    (same : ∀ first second, R first second → test first = test second) :
    left.any test = right.any test := by
  induction related with
  | nil => rfl
  | cons head _ ih => rw [List.any_cons, List.any_cons, same _ _ head, ih]

theorem Part.Alike.sourceTable?_eq {left right : Part} (alike : left.Alike right) :
    left.sourceTable? = right.sourceTable? := by
  rcases alike with ⟨alike⟩
  cases alike <;> rfl

theorem Part.Alike.joinedTable?_eq {left right : Part} (alike : left.Alike right) :
    left.joinedTable? = right.joinedTable? := by
  rcases alike with ⟨alike⟩
  cases alike <;> rfl

theorem joinAnchor?_eq_of_alike {left right : List Part}
    (alike : List.Forall₂ Part.Alike left right) (target source : JoinSide) :
    joinAnchor? left target source = joinAnchor? right target source := by
  have sources (table : String) : hasSource left table = hasSource right table :=
    any_eq_of_forall₂ alike fun _ _ alikeParts => by rw [alikeParts.sourceTable?_eq]
  have joins (table : String) : hasJoin left table = hasJoin right table :=
    any_eq_of_forall₂ alike fun _ _ alikeParts => by rw [alikeParts.joinedTable?_eq]
  simp only [joinAnchor?, sources, joins]

theorem alike_joinParts {spec : JoinSpec} {left right : List Part} {target source : JoinSide}
    (alike : List.Forall₂ Part.Alike left right) (plainTarget : target.NamesPlain)
    (plainSource : source.NamesPlain) (anchor : JoinAnchor) :
    List.Forall₂ Part.Alike (joinParts spec left target source anchor)
      (joinParts spec right target source anchor) := by
  have attached (side : JoinSide) (plainSide : side.NamesPlain) :
      List.Forall₂ Part.Alike [Part.ofClause (joinClause spec side target source)]
        [Part.ofClause (joinClause spec side target source)] :=
    .cons ⟨.plain rfl (plain_joinClause plainSide plainTarget plainSource)⟩ .nil
  cases anchor with
  | target =>
      exact List.rel_append (alike_fillAlias alike _ plainTarget.plainAlias)
        (attached source plainSource)
  | source =>
      exact List.rel_append (alike_fillAlias alike _ plainSource.plainAlias)
        (attached target plainTarget)
  | joinedSource => exact List.rel_append alike (attached target plainTarget)

theorem alike_join (registry : Registry) {left right : Statement} {target source : String}
    {spec : JoinSpec} (alike : List.Forall₂ Part.Alike left.parts right.parts)
    (plain : (Call.join target source spec).NamesPlain) :
    List.Forall₂ Part.Alike
      (left.afterEdit registry (.call (.join target source spec))).parts
      (right.afterEdit registry (.call (.join target source spec))).parts := by
  rcases plain with ⟨plainTarget, plainSource, plainAliases⟩
  simp only [Statement.afterEdit, Statement.edit, Statement.perform, Statement.join]
  cases targetResolved : JoinSide.resolve spec target with
  | error => exact alike
  | ok targetSide =>
      cases sourceResolved : JoinSide.resolve spec source with
      | error => exact alike
      | ok sourceSide =>
          have targetNames := JoinSide.namesPlain_of_resolve targetResolved plainTarget plainAliases
          have sourceNames := JoinSide.namesPlain_of_resolve sourceResolved plainSource plainAliases
          simp only [joinAnchor?_eq_of_alike alike]
          cases joinAnchor? right.parts targetSide sourceSide with
          | none => exact alike
          | some anchor => exact alike_joinParts alike targetNames sourceNames anchor

/-! ## Runs of calls -/

/-- Retexted calls keep two statements alike. -/
theorem alike_afterEdit (registry : Registry) {left right : Statement} {call callRight : Call}
    (alike : List.Forall₂ Part.Alike left.parts right.parts) (plain : call.NamesPlain)
    (retexted : call.Retexted callRight) :
    List.Forall₂ Part.Alike (left.afterEdit registry (.call call)).parts
      (right.afterEdit registry (.call callRight)).parts := by
  cases adds : call.clause? registry with
  | some clause =>
      rcases retexted.alike_clause plain adds with ⟨clauseRight, addsRight, alikeClauses⟩
      rw [Statement.afterEdit_of_clause? adds, Statement.afterEdit_of_clause? addsRight]
      exact List.rel_append alike (.cons ⟨alikeClauses⟩ .nil)
  | none =>
      cases retexted with
      | same valueless =>
          cases call with
          | join target source spec => exact alike_join registry alike plain
          | _ => cases adds
      | _ => cases adds

theorem alike_afterCalls (registry : Registry) {left right : Statement}
    {calls callsRight : List Call} (alike : List.Forall₂ Part.Alike left.parts right.parts)
    (plain : ∀ call ∈ calls, call.NamesPlain)
    (retexted : List.Forall₂ Call.Retexted calls callsRight) :
    List.Forall₂ Part.Alike (left.afterCalls registry calls).parts
      (right.afterCalls registry callsRight).parts := by
  induction retexted generalizing left right with
  | nil => exact alike
  | cons head tail ih =>
      rcases List.forall_mem_cons.1 plain with ⟨plainHead, plainTail⟩
      exact ih (alike_afterEdit registry alike plainHead head) plainTail

/-! ## Hooks -/

theorem findSome?_eq_of_forall₂ {α β : Type} {R : α → α → Prop} {select : α → Option β}
    {left right : List α} (related : List.Forall₂ R left right)
    (same : ∀ first second, R first second → select first = select second) :
    left.findSome? select = right.findSome? select := by
  induction related with
  | nil => rfl
  | cons head _ ih => rw [List.findSome?_cons, List.findSome?_cons, same _ _ head, ih]

theorem Part.Alike.writePhase?_eq {left right : Part} (alike : left.Alike right) :
    left.writePhase? = right.writePhase? := by
  rcases alike with ⟨alike⟩
  cases alike <;> rfl

theorem Part.Alike.isProjection_eq {left right : Part} (alike : left.Alike right) :
    left.isProjection = right.isProjection := by
  rcases alike with ⟨alike⟩
  cases alike <;> rfl

theorem Part.Alike.hasCondition_eq {left right : Part} (alike : left.Alike right) :
    left.condition?.isSome = right.condition?.isSome := by
  rcases alike with ⟨alike⟩
  cases alike <;> rfl

theorem statementPhase?_eq_of_alike {left right : List Part}
    (alike : List.Forall₂ Part.Alike left right) :
    statementPhase? left = statementPhase? right := by
  unfold statementPhase?
  rw [findSome?_eq_of_forall₂ alike fun _ _ => Part.Alike.writePhase?_eq,
    findSome?_eq_of_forall₂ alike fun _ _ => Part.Alike.sourceTable?_eq,
    any_eq_of_forall₂ alike fun _ _ => Part.Alike.isProjection_eq]

theorem Clause.Alike.extend_insertion {left right : Insertion} {column : String}
    (alike : (Clause.insertion left).Alike (.insertion right)) (plain : Plain column)
    (identifier identifierRight : String) :
    (Clause.insertion (left.extend column (Text.quoted '"' identifier))).Alike
      (.insertion (right.extend column (Text.quoted '"' identifierRight))) := by
  cases alike with
  | plain valueless => cases valueless
  | insertion plainTable plainColumns values =>
      refine .insertion plainTable ?_ (List.rel_append values (.cons (alike_quoted _ _) .nil))
      exact List.forall_mem_append.2 ⟨plainColumns, List.forall_mem_singleton.2 plain⟩

theorem Clause.Alike.touch_update {left right : Update}
    (alike : (Clause.update left).Alike (.update right)) :
    (Clause.update (left.extend "updated_at" "CURRENT_TIMESTAMP")).Alike
      (.update (right.extend "updated_at" "CURRENT_TIMESTAMP")) := by
  cases alike with
  | plain valueless => cases valueless
  | update plainTable assignments =>
      have time : Plain "CURRENT_TIMESTAMP" := by decide
      have column : Plain "updated_at" := by decide
      exact .update plainTable
        (List.rel_append assignments (.cons ⟨rfl, column, time.alike⟩ .nil))

theorem alike_editFirstInsertion {left right : List Part} {edit editRight : Insertion → Insertion}
    (alike : List.Forall₂ Part.Alike left right)
    (kept : ∀ row rowRight, (Clause.insertion row).Alike (.insertion rowRight) →
      (Clause.insertion (edit row)).Alike (.insertion (editRight rowRight))) :
    List.Forall₂ Part.Alike (editFirstInsertion edit left)
      (editFirstInsertion editRight right) := by
  induction alike with
  | nil => exact .nil
  | cons head tail ih =>
      rcases head with @⟨clause, clauseRight, alikeClauses⟩
      cases alikeClauses with
      | insertion plain plainColumns alike =>
          exact .cons ⟨kept _ _ (.insertion plain plainColumns alike)⟩ tail
      | condition plain alike => exact .cons ⟨.condition plain alike⟩ ih
      | update plain alike => exact .cons ⟨.update plain alike⟩ ih
      | plain valueless plain =>
          cases clause with
          | insertion => cases valueless
          | _ => exact .cons ⟨.plain valueless plain⟩ ih

theorem alike_editFirstUpdate {left right : List Part} {edit : Update → Update}
    (alike : List.Forall₂ Part.Alike left right)
    (kept : ∀ change changeRight, (Clause.update change).Alike (.update changeRight) →
      (Clause.update (edit change)).Alike (.update (edit changeRight))) :
    List.Forall₂ Part.Alike (editFirstUpdate edit left) (editFirstUpdate edit right) := by
  induction alike with
  | nil => exact .nil
  | cons head tail ih =>
      rcases head with @⟨clause, clauseRight, alikeClauses⟩
      cases alikeClauses with
      | update plain alike => exact .cons ⟨kept _ _ (.update plain alike)⟩ tail
      | condition plain alike => exact .cons ⟨.condition plain alike⟩ ih
      | insertion plain plainColumns alike =>
          exact .cons ⟨.insertion plain plainColumns alike⟩ ih
      | plain valueless plain =>
          cases clause with
          | update => cases valueless
          | _ => exact .cons ⟨.plain valueless plain⟩ ih

theorem firstColumns_eq_of_alike {left right : List Part}
    (alike : List.Forall₂ Part.Alike left right) :
    (firstInsertion? left).map (·.columns) = (firstInsertion? right).map (·.columns) := by
  unfold firstInsertion?
  rw [List.map_findSome?, List.map_findSome?]
  refine findSome?_eq_of_forall₂ alike ?_
  rintro _ _ ⟨alikeClauses⟩
  cases alikeClauses <;> rfl

theorem firstAssigns_eq_of_alike {left right : List Part} (column : String)
    (alike : List.Forall₂ Part.Alike left right) :
    (firstUpdate? left).map (·.assigns column) = (firstUpdate? right).map (·.assigns column) := by
  unfold firstUpdate?
  rw [List.map_findSome?, List.map_findSome?]
  refine findSome?_eq_of_forall₂ alike ?_
  rintro _ _ ⟨alikeClauses⟩
  cases alikeClauses with
  | update plain assignments =>
      refine congrArg some (any_eq_of_forall₂ assignments ?_)
      exact fun _ _ alikeEntries => by rw [alikeEntries.1]
  | _ => rfl

theorem alike_touchParts {left right : List Part} (alike : List.Forall₂ Part.Alike left right) :
    List.Forall₂ Part.Alike (touchParts left) (touchParts right) := by
  have sameConditions := any_eq_of_forall₂ alike fun _ _ => Part.Alike.hasCondition_eq
  have sameAssigns := firstAssigns_eq_of_alike "updated_at" alike
  unfold touchParts
  rw [sameConditions]
  split
  · cases first : firstUpdate? left with
    | none =>
        have firstRight : firstUpdate? right = none := by simpa [first] using sameAssigns.symm
        simpa only [firstRight] using alike
    | some change =>
        rw [first, Option.map_some] at sameAssigns
        rcases Option.map_eq_some_iff.1 sameAssigns.symm with ⟨changeRight, firstRight, assigns⟩
        simp only [firstRight, assigns]
        split
        · exact alike
        · exact alike_editFirstUpdate alike fun _ _ => Clause.Alike.touch_update
  · exact alike

/-- A drafted hook keeps parts alike, whatever identifiers it draws. -/
theorem alike_run {phase : Phase} {hook : Hook} {left right : HookState}
    (drafted : hook.DraftedFor phase) (plain : ∀ column ∈ hook.identifierColumn?, Plain column)
    (alike : List.Forall₂ Part.Alike left.parts right.parts) :
    List.Forall₂ Part.Alike (hook.run left).parts (hook.run right).parts := by
  cases drafted with
  | touchUpdatedAt => exact alike_touchParts alike
  | generatedIdentifier column =>
      have sameColumns := firstColumns_eq_of_alike alike
      unfold Hook.run
      cases first : firstInsertion? left.parts with
      | none =>
          have firstRight : firstInsertion? right.parts = none := by
            simpa [first] using sameColumns.symm
          simpa only [firstRight] using alike
      | some row =>
          rw [first, Option.map_some] at sameColumns
          rcases Option.map_eq_some_iff.1 sameColumns.symm with ⟨rowRight, firstRight, columns⟩
          simp only [firstRight, columns]
          split
          · exact alike
          · exact alike_editFirstInsertion alike fun _ _ alikeRows =>
              alikeRows.extend_insertion (plain column rfl) _ _

theorem alike_runHooks {phase : Phase} {hooks : List Hook} {left right : HookState}
    (drafted : ∀ hook ∈ hooks, hook.DraftedFor phase)
    (plain : ∀ hook ∈ hooks, ∀ column ∈ hook.identifierColumn?, Plain column)
    (alike : List.Forall₂ Part.Alike left.parts right.parts) :
    List.Forall₂ Part.Alike (runHooks hooks left).parts (runHooks hooks right).parts := by
  induction hooks generalizing left right with
  | nil => exact alike
  | cons hook rest ih =>
      rcases List.forall_mem_cons.1 drafted with ⟨draftedHook, draftedRest⟩
      rcases List.forall_mem_cons.1 plain with ⟨plainHook, plainRest⟩
      exact ih draftedRest plainRest (alike_run draftedHook plainHook alike)

/-- A registry whose hooks fill plainly named columns only. -/
def Registry.ColumnsPlain (registry : Registry) : Prop :=
  ∀ entry ∈ registry.hooks, ∀ column ∈ entry.hook.identifierColumn?, Plain column

/-- Firing the hooks of two alike statements leaves them alike. -/
theorem alike_fire {registry : Registry} (drafted : registry.Drafted)
    (plain : registry.ColumnsPlain) {left right : Statement}
    (noLiteral : left.literal = none) (noLiteralRight : right.literal = none)
    (alike : List.Forall₂ Part.Alike left.parts right.parts)
    (supply supplyRight : IdentifierSupply) :
    List.Forall₂ Part.Alike (registry.fire supply left).statement.parts
      (registry.fire supplyRight right).statement.parts := by
  unfold Registry.fire
  rw [noLiteral, noLiteralRight, statementPhase?_eq_of_alike alike]
  cases statementPhase? right.parts with
  | none => exact alike
  | some found =>
      rcases found with ⟨phase, table⟩
      simp only [drafted.runPhase_eq]
      refine alike_runHooks (fun _ => drafted.draftedFor_of_mem_hooksFor) ?_ alike
      intro hook member
      rcases List.mem_map.1 member with ⟨entry, entryMember, rfl⟩
      exact plain entry (List.mem_filter.1 entryMember).1

end RankedSql

import RankedSql.Proofs.AlikeStatements
import RankedSql.Proofs.FiredParts
import RankedSql.Proofs.OpenSemicolon

/-!
# Values stay in their literals

A composed statement is read back with the lexer. Whatever the values of the calls are, its literals
are closed, they stand for the texts of the values and for the drawn identifiers and for nothing
else, and the text around them depends on the names and the shape of the calls only
(`literals_of_composedSql`). So no value can add to the statement, or make the guard see a second
one.

The texts of the values follow from three facts: calls add their clauses in order and joins keep
them (`filter_parts_afterCalls`), hooks extend one of the clauses (`parts_fire_of_insertion`,
`parts_fire_of_update`), and the ranks put rows and updates before conditions
(`contents_renderParts_eq`).
-/

namespace RankedSql

/-- The texts that the values of an insertion or update are stored as. -/
def Call.rowTexts (registry : Registry) : Call → List String
  | .insert table data | .update table data =>
      data.flatMap fun entry =>
        (entry.2.storedText? ((registry.column? table entry.1).map (·.type))).toList
  | _ => []

/-- The text that the value of a condition is compared as. -/
def Call.conditionTexts : Call → List String
  | .condition _ _ value _ => value.inlineText?.toList
  | _ => []

/-- The identifiers that are drawn for a call which comes before all other insertions and updates:
one for each column that its table fills and its row misses. -/
def Call.drawnIdentifiers (registry : Registry) (supply : IdentifierSupply) : Call → List String
  | .insert table data =>
      supply.take
        (missingColumns (data.map Prod.fst) (registry.identifierColumns table)).length
  | _ => []

/-- The texts that belong into the literals of a composed statement: those of the rows and updates,
the first row with its identifiers, and then those of the conditions. -/
def literalTexts (registry : Registry) (supply : IdentifierSupply) (calls : List Call) :
    List String :=
  (match calls.filter Call.isWrite with
    | [] => []
    | first :: later =>
        first.rowTexts registry ++ first.drawnIdentifiers registry supply ++
          later.flatMap (Call.rowTexts registry)) ++
    calls.flatMap Call.conditionTexts

/-! ## The texts of parts -/

/-- What the literals of a part stand for. -/
def Part.texts (part : Part) : List String := part.clause.writtenValues.flatMap contents

theorem flatMap_texts_partsAt {parts : List Part} {rank : Rank} {keep : Part → Bool}
    (selects : ∀ part ∈ parts, part.texts ≠ [] → (part.rank == rank) = keep part) :
    (partsAt rank parts).flatMap Part.texts = (parts.filter keep).flatMap Part.texts := by
  induction parts with
  | nil => rfl
  | cons part rest ih =>
      rcases List.forall_mem_cons.1 selects with ⟨selectsPart, selectsRest⟩
      have restEq := ih selectsRest
      unfold partsAt at restEq ⊢
      by_cases none : part.texts = []
      · simp only [List.filter_cons]
        split <;> split <;> simp [none, restEq]
      · simp only [List.filter_cons, selectsPart none]
        split <;> simp [restEq]

theorem texts_eq_nil_or {part partRight : Part} (alike : part.Alike partRight) :
    part.texts = [] ∨ (part.rank = .projection ∧ part.clause.isWrite = true ∧
      part.clause.isCondition = false) ∨ (part.rank = .filter ∧ part.clause.isWrite = false ∧
      part.clause.isCondition = true) := by
  rcases alike with @⟨clause, clauseRight, alikeClauses⟩
  cases alikeClauses with
  | condition => exact .inr (.inr ⟨rfl, rfl, rfl⟩)
  | insertion => exact .inr (.inl ⟨rfl, rfl, rfl⟩)
  | update => exact .inr (.inl ⟨rfl, rfl, rfl⟩)
  | plain valueless plain =>
      left
      cases clause with
      | condition | insertion | update => cases valueless
      | _ => rfl

/-- The literals of a text are those of its rows and updates, and then those of its conditions. -/
theorem contents_renderParts_eq {parts partsRight : List Part}
    (alike : List.Forall₂ Part.Alike parts partsRight) :
    contents (renderParts parts) =
      (writeParts parts).flatMap Part.texts ++ (conditionParts parts).flatMap Part.texts := by
  have cases : ∀ part ∈ parts, part.texts = [] ∨
      (part.rank = .projection ∧ part.clause.isWrite = true ∧ part.clause.isCondition = false) ∨
      (part.rank = .filter ∧ part.clause.isWrite = false ∧ part.clause.isCondition = true) := by
    induction alike with
    | nil => simp
    | cons head _ ih => exact List.forall_mem_cons.2 ⟨texts_eq_nil_or head, ih⟩
  have projection : (partsAt .projection parts).flatMap Part.texts =
      (writeParts parts).flatMap Part.texts := by
    refine flatMap_texts_partsAt fun part member holds => ?_
    rcases cases part member with none | ⟨rank, write, _⟩ | ⟨rank, write, _⟩
    · exact absurd none holds
    · simp [rank, write]
    · simp [rank, write]
  have filter : (partsAt .filter parts).flatMap Part.texts =
      (conditionParts parts).flatMap Part.texts := by
    refine flatMap_texts_partsAt fun part member holds => ?_
    rcases cases part member with none | ⟨rank, _, condition⟩ | ⟨rank, _, condition⟩
    · exact absurd none holds
    · simp [rank, condition]
    · simp [rank, condition]
  have others (rank : Rank) (notProjection : rank ≠ .projection) (notFilter : rank ≠ .filter) :
      (partsAt rank parts).flatMap Part.texts = [] := by
    refine List.flatMap_eq_nil_iff.2 fun part member => ?_
    rcases cases part (List.mem_filter.1 member).1 with none | ⟨found, _⟩ | ⟨found, _⟩
    · exact none
    · exact absurd ((rank_of_mem_partsAt member).symm.trans found) notProjection
    · exact absurd ((rank_of_mem_partsAt member).symm.trans found) notFilter
  calc contents (renderParts parts)
    _ = (sortByRank parts).flatMap Part.texts := contents_renderParts alike
    _ = _ := by
        rw [sortByRank_eq_flatMap]
        simp [Rank.all, List.flatMap_append, projection, filter, others .target, others .ordering]

/-! ## The texts of calls -/

theorem texts_insertionOf (registry : Registry) (table : String)
    (data : List (String × Value)) (rank : Rank) :
    (Part.mk (.insertion (insertionOf registry table data)) rank).texts =
      (Call.insert table data).rowTexts registry := by
  simp [Part.texts, Clause.writtenValues, insertionOf, Call.rowTexts, List.flatMap_map,
    Registry.storedValue, Value.contents_stored]

theorem texts_updateOf (registry : Registry) (table : String) (data : List (String × Value))
    (rank : Rank) :
    (Part.mk (.update (updateOf registry table data)) rank).texts =
      (Call.update table data).rowTexts registry := by
  simp [Part.texts, Clause.writtenValues, updateOf, Call.rowTexts, List.flatMap_map,
    Registry.storedValue, Value.contents_stored, Function.comp_def]

theorem flatMap_texts_writes (registry : Registry) {calls : List Call}
    (writes : ∀ call ∈ calls, call.isWrite = true) :
    ((calls.filterMap (Call.clause? registry)).map Part.ofClause).flatMap Part.texts =
      calls.flatMap (Call.rowTexts registry) := by
  induction calls with
  | nil => rfl
  | cons call rest ih =>
      rcases List.forall_mem_cons.1 writes with ⟨write, writesRest⟩
      have restEq := ih writesRest
      cases call with
      | insert table data =>
          simpa [Call.clause?, Part.ofClause, texts_insertionOf] using restEq
      | update table data => simpa [Call.clause?, Part.ofClause, texts_updateOf] using restEq
      | _ => cases write

theorem flatMap_texts_conditions (registry : Registry) (calls : List Call) :
    (((calls.filterMap (Call.clause? registry)).filter Clause.isCondition).map
      Part.ofClause).flatMap Part.texts = calls.flatMap Call.conditionTexts := by
  induction calls with
  | nil => rfl
  | cons call rest ih =>
      cases call with
      | condition field comparison value alternate =>
          simp [List.filter_cons, Call.clause?, Clause.isCondition, Part.texts, Part.ofClause,
            Clause.writtenValues, Value.contents_inline, Call.conditionTexts, ← ih]
      | _ =>
          simp [List.filterMap_cons, Call.clause?, Clause.isCondition, Call.conditionTexts, ← ih]

/-! ## The texts of hooks -/

/-- The time of a change is no literal. -/
theorem texts_touched (change : Update) (rank : Rank) (touches : Prop) [Decidable touches] :
    (Part.mk (.update (if touches then change.touched else change)) rank).texts =
      (Part.mk (.update change) rank).texts := by
  have plain : Plain "CURRENT_TIMESTAMP" := by decide
  split
  · unfold Update.touched
    split
    · rfl
    · simp [Part.texts, Clause.writtenValues, Update.extend, plain.contents_eq]
  · rfl

theorem texts_fill (row : Insertion) (rank : Rank) (columns identifiers : List String) :
    (Part.mk (.insertion (row.fill columns identifiers)) rank).texts =
      (Part.mk (.insertion row) rank).texts ++ identifiers := by
  have drawn : (identifiers.map (Text.quoted '"')).flatMap contents = identifiers := by
    induction identifiers with
    | nil => rfl
    | cons identifier rest ih => simp [contents_quoted, ih]
  simp [Part.texts, Clause.writtenValues, Insertion.fill, drawn]

theorem conditionTexts_afterCalls (registry : Registry) (calls : List Call) :
    (conditionParts (Statement.empty.afterCalls registry calls).parts).flatMap Part.texts =
      calls.flatMap Call.conditionTexts := by
  rw [← flatMap_texts_conditions registry]
  exact congrArg _
    (filter_parts_afterCalls (fun _ _ => rfl) (fun _ => rfl) registry .empty calls)

/-- The texts of a statement after its hooks are those that belong into its literals. -/
theorem texts_fire_afterCalls {registry : Registry} (drafted : registry.Drafted)
    (supply : IdentifierSupply) (calls : List Call) :
    let fired := (registry.fire supply (Statement.empty.afterCalls registry calls)).statement.parts
    (writeParts fired).flatMap Part.texts ++ (conditionParts fired).flatMap Part.texts =
      literalTexts registry supply calls := by
  have noLiteral := Statement.empty.literal_afterCalls registry calls
  have writes_eq := writeParts_afterCalls registry calls
  unfold literalTexts
  rw [← conditionTexts_afterCalls registry]
  cases writes : calls.filter Call.isWrite with
  | nil =>
      rw [writes] at writes_eq
      simp only [parts_fire_of_no_writes drafted noLiteral writes_eq, writes_eq]
      rfl
  | cons first later =>
      have areWrites : ∀ call ∈ first :: later, call.isWrite = true := fun call member =>
        (List.mem_filter.1 (writes ▸ member)).2
      rcases List.forall_mem_cons.1 areWrites with ⟨firstWrite, laterWrites⟩
      rw [writes] at writes_eq
      have laterTexts := flatMap_texts_writes registry laterWrites
      cases first with
      | insert table data =>
          rcases parts_fire_of_insertion drafted noLiteral writes_eq supply with
              ⟨writesFired, conditionsFired⟩
          simp only [writesFired, conditionsFired, List.flatMap_cons, texts_fill,
            texts_insertionOf, laterTexts]
          rfl
      | update table data =>
          rcases parts_fire_of_update drafted noLiteral writes_eq supply with
              ⟨writesFired, conditionsFired⟩
          simp only [writesFired, conditionsFired, List.flatMap_cons, texts_touched,
            texts_updateOf, laterTexts, Call.drawnIdentifiers, List.append_nil]
      | _ => cases firstWrite

/-! ## Composed statements -/

theorem alike_composed {registry : Registry} (drafted : registry.Drafted)
    (plain : registry.ColumnsPlain) {calls callsRight : List Call}
    (plainCalls : ∀ call ∈ calls, call.NamesPlain)
    (retexted : List.Forall₂ Call.Retexted calls callsRight)
    (supply supplyRight : IdentifierSupply) :
    List.Forall₂ Part.Alike
      (registry.fire supply (Statement.empty.afterCalls registry calls)).statement.parts
      (registry.fire supplyRight
        (Statement.empty.afterCalls registry callsRight)).statement.parts :=
  alike_fire drafted plain (Statement.empty.literal_afterCalls registry calls)
    (Statement.empty.literal_afterCalls registry callsRight)
    (alike_afterCalls registry .nil plainCalls retexted) supply supplyRight

/-- Values never leave their literals. Of the statement that calls with plain names compose, under
hooks that come from table definitions, every literal is closed; the literals stand for the texts
of the values and the drawn identifiers, in clause order; other texts and other identifiers leave
the tokens outside literals as they are; and the guard sees no second statement. -/
theorem literals_of_composedSql {registry : Registry} (drafted : registry.Drafted)
    (plainColumns : registry.ColumnsPlain) {calls : List Call}
    (plainCalls : ∀ call ∈ calls, call.NamesPlain) (supply : IdentifierSupply) :
    let sql := composedSql registry supply calls
    (∀ token ∈ lex sql, token.isComplete = true) ∧
      contents sql = literalTexts registry supply calls ∧
      (∀ retexted otherSupply, List.Forall₂ Call.Retexted calls retexted →
        outline (composedSql registry otherSupply retexted) = outline sql) ∧
      ∀ position, Guard.validate sql ≠ .error (.rejected (.chained position) sql) := by
  have self : List.Forall₂ Call.Retexted calls calls :=
    List.forall₂_same.2 fun call _ => Call.Retexted.refl call
  have alike := alike_composed drafted plainColumns plainCalls self supply supply
  have sealed : Sealed (composedSql registry supply calls) := by
    rw [render_fire_afterCalls]
    exact (alike_renderParts alike).sealed
  refine ⟨?_, ?_, ?_, ?_⟩
  · exact fun token member => Token.isComplete_of_isSealed (sealed token member)
  · rw [render_fire_afterCalls, contents_renderParts_eq alike,
      texts_fire_afterCalls drafted supply calls]
  · intro retexted otherSupply related
    rw [render_fire_afterCalls, render_fire_afterCalls]
    exact (alike_renderParts
      (alike_composed drafted plainColumns plainCalls related supply otherSupply)).outline_eq.symm
  · intro position rejected
    have found := Guard.validate_eq_chained_iff.1 rejected
    have noSemicolon : .code ';' ∉ lex (composedSql registry supply calls) := fun member => by
      simpa [Token.isSealed] using sealed _ member
    rw [Guard.openSemicolon?_eq, codeSemicolonFrom?_eq_none_iff.2 noSemicolon] at found
    cases found

theorem literals_of_marked_text :
    let registry := (Statement.empty.createTableWith .empty "notes" [.uuid "id"]).registry
    let calls := [Call.insert "notes" [("body", .text "\"; DELETE FROM notes; --")],
      .condition "body" .equal (.text "it's") false]
    registry.Drafted ∧ registry.ColumnsPlain ∧ (∀ call ∈ calls, call.NamesPlain) ∧
      contents (composedSql registry ⟨Nat.repr⟩ calls) =
        ["\"; DELETE FROM notes; --", "0", "it's"] := by
  intro registry calls
  have drafted : registry.Drafted := Registry.drafted_empty.createTableWith _ _ _
  have plainColumns : registry.ColumnsPlain := by
    intro entry member column filled
    rcases List.mem_singleton.1 member with rfl
    rcases Option.some.inj filled with rfl
    decide
  have plainCalls : ∀ call ∈ calls, call.NamesPlain := by
    decide
  refine ⟨drafted, plainColumns, plainCalls, ?_⟩
  rw [(literals_of_composedSql drafted plainColumns plainCalls ⟨Nat.repr⟩).2.1]
  decide

end RankedSql

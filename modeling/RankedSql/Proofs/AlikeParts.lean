import RankedSql.Proofs.RankOrder
import RankedSql.Proofs.Sealed

/-!
# Parts that differ inside literals

Two clauses are alike when they have the same names and differ at most inside the literals of their
values. Writing out two lists of alike parts gives alike texts (`alike_renderParts`), since layout
looks at the shape of clauses only. The literals of the text are those of the parts in the order of
the ranks (`contents_renderParts`): connecting words hold none, and sort terms that are moved into
the first one hold none either.
-/

namespace RankedSql

/-- Whether values were written into a clause. -/
def Clause.holdsValues : Clause → Bool
  | .condition _ | .insertion _ | .update _ => true
  | _ => false

/-- The values that were written into a clause, in order. -/
def Clause.writtenValues : Clause → List String
  | .condition test => [test.value]
  | .insertion row => row.values
  | .update change => change.assignments.map Prod.snd
  | _ => []

/-- Two assignments to the same plainly named column, alike in their values. -/
def AlikeAssignments (left right : String × String) : Prop :=
  left.1 = right.1 ∧ Plain left.1 ∧ Alike left.2 right.2

/-- Two clauses of the same kind with the same plain names, alike in their values. -/
inductive Clause.Alike : Clause → Clause → Prop where
  | plain {clause : Clause} (valueless : clause.holdsValues = false) (plain : Plain clause.text) :
      Clause.Alike clause clause
  | condition {field left right : String} {comparison : Comparison} {alternate : Bool}
      (plain : Plain field) (alike : RankedSql.Alike left right) :
      Clause.Alike (.condition ⟨field, comparison, left, alternate⟩)
        (.condition ⟨field, comparison, right, alternate⟩)
  | insertion {table : String} {columns left right : List String} (plain : Plain table)
      (plainColumns : ∀ column ∈ columns, Plain column)
      (alike : List.Forall₂ RankedSql.Alike left right) :
      Clause.Alike (.insertion ⟨table, columns, left⟩) (.insertion ⟨table, columns, right⟩)
  | update {table : String} {left right : List (String × String)} (plain : Plain table)
      (alike : List.Forall₂ AlikeAssignments left right) :
      Clause.Alike (.update ⟨table, left⟩) (.update ⟨table, right⟩)

/-- Two parts with alike clauses, each at the rank of its clause. -/
inductive Part.Alike : Part → Part → Prop where
  | ofClause {left right : Clause} (alike : left.Alike right) :
      Part.Alike (.ofClause left) (.ofClause right)

/-- Two layouts in the same state, alike in their segments. -/
structure Layout.Alike (left right : Layout) : Prop where
  segments : List.Forall₂ RankedSql.Alike left.segments right.segments
  conditionSeen_eq : left.conditionSeen = right.conditionSeen
  orderingAt_eq : left.orderingAt = right.orderingAt

/-! ## Clauses -/

theorem plain_symbol (comparison : Comparison) : Plain comparison.symbol := by
  cases comparison <;> decide

theorem plain_conditionStart {field : String} (plain : Plain field) (comparison : Comparison) :
    Plain (field ++ " " ++ comparison.symbol ++ " ") :=
  ((plain.append (by decide)).append (plain_symbol comparison)).append (by decide)

theorem plain_insertionStart {table : String} {columns : List String} (plain : Plain table)
    (plainColumns : ∀ column ∈ columns, Plain column) :
    Plain ("INSERT INTO " ++ table ++ " (" ++ Text.joinWith ", " columns ++ ") VALUES (") := by
  have names : Plain (Text.joinWith ", " columns) := Plain.joinWith (by decide) plainColumns
  exact (((Plain.append (by decide) plain).append (by decide)).append names).append (by decide)

theorem plain_updateStart {table : String} (plain : Plain table) :
    Plain ("UPDATE " ++ table ++ " SET ") :=
  (Plain.append (by decide) plain).append (by decide)

theorem alike_assignments {left right : List (String × String)}
    (alike : List.Forall₂ AlikeAssignments left right) :
    List.Forall₂ RankedSql.Alike (left.map fun entry => entry.1 ++ " = " ++ entry.2)
      (right.map fun entry => entry.1 ++ " = " ++ entry.2) := by
  rw [List.forall₂_map_left_iff, List.forall₂_map_right_iff]
  refine alike.imp ?_
  rintro ⟨column, value⟩ ⟨_, valueRight⟩ ⟨rfl, plainColumn, alikeValues⟩
  exact alikeValues.plain_append (plainColumn.append (by decide))

theorem Clause.Alike.text {left right : Clause} (alike : left.Alike right) :
    RankedSql.Alike left.text right.text := by
  cases alike with
  | plain valueless plain => exact plain.alike
  | @condition _ _ _ comparison _ plain alike =>
      exact alike.plain_append (plain_conditionStart plain comparison)
  | insertion plain plainColumns alike =>
      have values := RankedSql.Alike.joinWith (by decide) (by decide : ", " ≠ "") alike
      exact (values.plain_append (plain_insertionStart plain plainColumns)).append_plain (by decide)
  | update plain alike =>
      have assignments := RankedSql.Alike.joinWith (by decide) (by decide : ", " ≠ "")
        (alike_assignments alike)
      exact assignments.plain_append (plain_updateStart plain)

theorem contents_assignments {left right : List (String × String)}
    (alike : List.Forall₂ AlikeAssignments left right) :
    (left.map fun entry => entry.1 ++ " = " ++ entry.2).flatMap contents =
      (left.map Prod.snd).flatMap contents := by
  induction alike with
  | nil => rfl
  | @cons entry _ rest _ head _ ih =>
      have start : Plain (entry.1 ++ " = ") := head.2.1.append (by decide)
      simp only [List.map_cons, List.flatMap_cons, start.contents_append, ih]

/-- The literals of a clause are those of its written values. -/
theorem Clause.Alike.contents_text {left right : Clause} (alike : left.Alike right) :
    contents left.text = left.writtenValues.flatMap contents := by
  cases alike with
  | plain valueless plain =>
      rw [plain.contents_eq]
      cases left with
      | condition | insertion | update => simp [holdsValues] at valueless
      | _ => rfl
  | @condition _ value _ comparison _ plain alike =>
      have start := (plain_conditionStart plain comparison).contents_append value
      rw [← List.flatMap_singleton contents value] at start
      exact start
  | @insertion table columns values _ plain plainColumns alike =>
      have sealed : Sealed (Text.joinWith ", " values) :=
        (RankedSql.Alike.joinWith (by decide) (by decide) alike).sealed
      have closed : contents (Text.joinWith ", " values ++ ")") = values.flatMap contents := by
        rw [sealed.contents_append_plain (by decide), contents_joinWith (by decide) (by decide)
          (sealed_of_forall₂_alike alike)]
      have start := (plain_insertionStart plain plainColumns).contents_append
        (Text.joinWith ", " values ++ ")")
      rw [← String.append_assoc, closed] at start
      exact start
  | @update table assignments _ plain alike =>
      have start := (plain_updateStart plain).contents_append
        (Text.joinWith ", " (assignments.map fun entry => entry.1 ++ " = " ++ entry.2))
      rw [contents_joinWith (by decide) (by decide) (sealed_of_forall₂_alike
        (alike_assignments alike)), contents_assignments alike] at start
      exact start

theorem Part.Alike.rank_eq {left right : Part} (alike : left.Alike right) :
    left.rank = right.rank := by
  rcases alike with ⟨alike⟩
  cases alike <;> rfl

theorem Part.Alike.text {left right : Part} (alike : left.Alike right) :
    RankedSql.Alike left.text right.text := by
  rcases alike with ⟨alike⟩
  exact alike.text

/-! ## Layout -/

theorem forall₂_modify {α : Type} {R : α → α → Prop} {left right : List α} {edit : α → α}
    (related : List.Forall₂ R left right)
    (kept : ∀ first second, R first second → R (edit first) (edit second)) (index : Nat) :
    List.Forall₂ R (left.modify index edit) (right.modify index edit) := by
  induction related generalizing index with
  | nil => simp
  | cons head tail ih =>
      cases index with
      | zero => exact .cons (kept _ _ head) tail
      | succ index => exact .cons head (ih index)

theorem lex_eq_nil_iff {text : String} : lex text = [] ↔ text = "" := by
  constructor
  · intro none
    have spelled := flatMap_source_lexFrom (.literals false) .code text.toList
    rw [← lex, none] at spelled
    simpa [LexState.pending] using spelled.symm
  · rintro rfl
    rfl

theorem Alike.eq_empty_iff {left right : String} (alike : Alike left right) :
    left = "" ↔ right = "" := by
  have lengths := congrArg List.length alike.outline_eq
  simp only [outline, List.length_map] at lengths
  rw [← lex_eq_nil_iff, ← lex_eq_nil_iff, ← List.length_eq_zero_iff, ← List.length_eq_zero_iff,
    lengths]

theorem Layout.Alike.append {left right : Layout} {segment segmentRight : String}
    (alike : left.Alike right) (alikeSegment : RankedSql.Alike segment segmentRight) :
    (left.append segment).Alike (right.append segmentRight) :=
  ⟨List.rel_append alike.segments (.cons alikeSegment .nil), alike.conditionSeen_eq,
    alike.orderingAt_eq⟩

theorem plain_orderingTail {field : String} {direction : Direction}
    (plain : Plain (Clause.ordering field direction).text) :
    Plain (", " ++ field ++ " " ++ direction.sql) := by
  change Plain ("ORDER BY " ++ field ++ " " ++ direction.sql) at plain
  simp only [plain_append] at plain
  rcases plain with ⟨⟨⟨_, plainField⟩, plainBlank⟩, plainDirection⟩
  exact ((Plain.append (by decide) plainField).append plainBlank).append plainDirection

theorem plain_connector (layout : Layout) (condition : Condition) :
    Plain (layout.connector condition ++ " ") := by
  unfold Layout.connector
  split
  · exact (by decide : Plain ("WHERE" ++ " "))
  · split
    · exact (by decide : Plain ("OR" ++ " "))
    · exact (by decide : Plain ("AND" ++ " "))

/-- A sort term opens the clause in both layouts, or extends it in both by the same plain text. -/
theorem Layout.Alike.add_ordering {left right : Layout} (alike : left.Alike right)
    {field : String} {direction : Direction}
    (plain : Plain (Clause.ordering field direction).text) :
    (left.add (.ofClause (.ordering field direction))).Alike
      (right.add (.ofClause (.ordering field direction))) := by
  unfold Layout.add
  split
  · exact alike
  · cases opened : left.orderingAt with
    | some index =>
        have openedRight := alike.orderingAt_eq.symm.trans opened
        simp only [Part.ofClause, openedRight]
        refine ⟨forall₂_modify alike.segments ?_ index, alike.conditionSeen_eq, rfl⟩
        exact fun _ _ alikeSegments => alikeSegments.append_plain (plain_orderingTail plain)
    | none =>
        have openedRight := alike.orderingAt_eq.symm.trans opened
        have appended := alike.append plain.alike
        simp only [Part.ofClause, openedRight]
        refine ⟨appended.segments, appended.conditionSeen_eq, ?_⟩
        rw [alike.segments.length_eq]

theorem Layout.Alike.add_plain {left right : Layout} {clause : Clause}
    (alike : left.Alike right) (valueless : clause.holdsValues = false)
    (plain : Plain clause.text) :
    (left.add (.ofClause clause)).Alike (right.add (.ofClause clause)) := by
  cases clause with
  | ordering field direction => exact alike.add_ordering plain
  | condition | insertion | update => simp [Clause.holdsValues] at valueless
  | _ =>
      unfold Layout.add
      split
      · exact alike
      · exact alike.append plain.alike

theorem Layout.Alike.add {left right : Layout} {part partRight : Part}
    (alike : left.Alike right) (alikeParts : part.Alike partRight) :
    (left.add part).Alike (right.add partRight) := by
  have alikeText := alikeParts.text
  have sameEmptiness := alikeText.eq_empty_iff
  rcases alikeParts with ⟨alikeClauses⟩
  cases alikeClauses with
  | plain valueless plain => exact alike.add_plain valueless plain
  | @condition field leftValue rightValue comparison alternate =>
      have sameWord : left.connector ⟨field, comparison, leftValue, alternate⟩ =
          right.connector ⟨field, comparison, rightValue, alternate⟩ := by
        simp [Layout.connector, alike.conditionSeen_eq]
      have appended := alike.append
        (alikeText.plain_append (plain_connector left ⟨field, comparison, leftValue, alternate⟩))
      unfold Layout.add
      simp only [sameEmptiness]
      split
      · exact alike
      · refine ⟨?_, rfl, appended.orderingAt_eq⟩
        simpa [Layout.append, Part.ofClause, sameWord] using appended.segments
  | insertion | update =>
      unfold Layout.add
      simp only [sameEmptiness]
      split
      · exact alike
      · exact alike.append alikeText

theorem alike_layout {left right : List Part} (alike : List.Forall₂ Part.Alike left right) :
    (left.foldl Layout.add Layout.empty).Alike (right.foldl Layout.add Layout.empty) := by
  have empty : Layout.empty.Alike Layout.empty := ⟨.nil, rfl, rfl⟩
  exact List.rel_foldl (fun _ _ alike _ _ => alike.add) empty alike

theorem alike_renderParts {left right : List Part} (alike : List.Forall₂ Part.Alike left right) :
    Alike (renderParts left) (renderParts right) := by
  have sorted := forall₂_sortByRank alike fun _ _ => Part.Alike.rank_eq
  exact Alike.joinWith (by decide) (by decide) (alike_layout sorted).segments

/-! ## Literals of a layout -/

/-- What the literals of the segments stand for, in order. -/
def Layout.contents (layout : Layout) : List String := layout.segments.flatMap RankedSql.contents

theorem Layout.contents_append (layout : Layout) (segment : String) :
    (layout.append segment).contents = layout.contents ++ RankedSql.contents segment := by
  simp [Layout.contents, Layout.append]

theorem flatMap_contents_modify {segments : List String} {text : String} (plain : Plain text)
    (sealed : ∀ segment ∈ segments, Sealed segment) (index : Nat) :
    (segments.modify index (· ++ text)).flatMap contents = segments.flatMap contents := by
  induction segments generalizing index with
  | nil => simp
  | cons head tail ih =>
      rcases List.forall_mem_cons.1 sealed with ⟨sealedHead, sealedTail⟩
      cases index with
      | zero =>
          simp [sealedHead.contents_append_plain plain]
      | succ index => simp [ih sealedTail index]

theorem Layout.Alike.contents_add_ordering {left right : Layout} (alike : left.Alike right)
    {field : String} {direction : Direction}
    (plain : Plain (Clause.ordering field direction).text) :
    (left.add (.ofClause (.ordering field direction))).contents = left.contents := by
  unfold Layout.add
  split
  · rfl
  · cases opened : left.orderingAt with
    | some index =>
        have sealed := sealed_of_forall₂_alike alike.segments
        simp only [Part.ofClause]
        exact flatMap_contents_modify (plain_orderingTail plain) sealed index
    | none =>
        have appended := left.contents_append (Clause.ordering field direction).text
        rw [plain.contents_eq, List.append_nil] at appended
        exact appended

theorem Layout.Alike.contents_add_plain {left right : Layout} {clause : Clause}
    (alike : left.Alike right) (valueless : clause.holdsValues = false)
    (plain : Plain clause.text) :
    (left.add (.ofClause clause)).contents = left.contents := by
  cases clause with
  | ordering field direction => exact alike.contents_add_ordering plain
  | condition | insertion | update => simp [Clause.holdsValues] at valueless
  | _ =>
      unfold Layout.add
      split
      · rfl
      · rw [← List.append_nil left.contents, ← plain.contents_eq]
        exact left.contents_append _

theorem Layout.Alike.contents_add {left right : Layout} {part partRight : Part}
    (alike : left.Alike right) (alikeParts : part.Alike partRight) :
    (left.add part).contents = left.contents ++ RankedSql.contents part.text := by
  rcases alikeParts with ⟨alikeClauses⟩
  cases alikeClauses with
  | plain valueless plain =>
      rw [Part.text, Part.ofClause, plain.contents_eq, List.append_nil]
      exact alike.contents_add_plain valueless plain
  | @condition field value _ comparison alternate =>
      have word := plain_connector left ⟨field, comparison, value, alternate⟩
      unfold Layout.add
      split
      · next nothing => simp [nothing, (show Plain "" by decide).contents_eq]
      · rw [← word.contents_append]
        exact left.contents_append _
  | insertion | update =>
      unfold Layout.add
      split
      · next nothing => simp [nothing, (show Plain "" by decide).contents_eq]
      · exact left.contents_append _

theorem Layout.Alike.contents_foldl {left right : Layout} {parts partsRight : List Part}
    (alike : left.Alike right) (alikeParts : List.Forall₂ Part.Alike parts partsRight) :
    (parts.foldl Layout.add left).contents =
      left.contents ++ parts.flatMap fun part => RankedSql.contents part.text := by
  induction alikeParts generalizing left right with
  | nil => simp
  | @cons part _ rest _ head tail ih =>
      rw [List.foldl_cons, ih (alike.add head), alike.contents_add head, List.flatMap_cons,
        List.append_assoc]

theorem flatMap_contents_text {parts partsRight : List Part}
    (alike : List.Forall₂ Part.Alike parts partsRight) :
    (parts.flatMap fun part => contents part.text) =
      parts.flatMap fun part => part.clause.writtenValues.flatMap contents := by
  induction alike with
  | nil => rfl
  | cons head _ ih =>
      rcases head with ⟨alikeClauses⟩
      rw [List.flatMap_cons, List.flatMap_cons, ih]
      exact congrArg (· ++ _) alikeClauses.contents_text

/-- The literals of a text are those of the written values of its parts, in the order of the
ranks. -/
theorem contents_renderParts {parts partsRight : List Part}
    (alike : List.Forall₂ Part.Alike parts partsRight) :
    contents (renderParts parts) =
      (sortByRank parts).flatMap fun part => part.clause.writtenValues.flatMap contents := by
  have sorted := forall₂_sortByRank alike fun _ _ => Part.Alike.rank_eq
  have empty : Layout.empty.Alike Layout.empty := ⟨.nil, rfl, rfl⟩
  have sealed := sealed_of_forall₂_alike (alike_layout sorted).segments
  calc contents (renderParts parts)
    _ = ((sortByRank parts).foldl Layout.add Layout.empty).contents :=
        contents_joinWith (by decide) (by decide) sealed
    _ = (sortByRank parts).flatMap fun part => contents part.text := empty.contents_foldl sorted
    _ = _ := flatMap_contents_text sorted

end RankedSql

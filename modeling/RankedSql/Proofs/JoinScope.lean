import Mathlib.Data.List.Forall2
import RankedSql.Proofs.ComposedParts

/-!
# The scope of joins

The operands of a join name columns through the names of tables, and a name means something only if
a part of the statement makes it visible: a table after `FROM` under its alias or its own name, a
joined table likewise. The operands are fixed when the join is made; the name of the table after
`FROM` is not, for the first join that brings an alias sets it.

Which names are visible in the end depends on the calls alone: each join shows the side that it
attaches, and each table after `FROM` goes by the first alias that a join anchored there brought
(`Recorded.sourceAliases_eq`). Hence a sequence of calls is well scoped exactly if every join calls
its anchor by one of these names (`joinsScoped_iff`). A join that brings a second alias for a table
after `FROM` fails this, and so does one that went without the alias that a later join brings.
-/

namespace RankedSql

/-! ## Visible names -/

/-- The join of a part, if it is one. -/
def Part.join? (part : Part) : Option Join :=
  match part.clause with
  | .join joined => some joined
  | _ => none

/-- The name under which a part lets the columns of its table be named. -/
def Part.visibleName? (part : Part) : Option String :=
  match part.clause with
  | .source table alias? => some (alias?.getD table)
  | .join joined => some (joined.alias?.getD joined.table)
  | _ => none

/-- The names that the parts bring into scope, in order. -/
def visibleNames (parts : List Part) : List String := parts.filterMap Part.visibleName?

/-- The alias under which a part names a table after `FROM`, if the part does so. -/
def Part.sourceAlias? (table : String) (part : Part) : Option (Option String) :=
  match part.clause with
  | .source other alias? => if other = table then some alias? else none
  | _ => none

/-- The aliases under which a table is named after `FROM`, in the order of the parts. -/
def sourceAliases (table : String) (parts : List Part) : List (Option String) :=
  parts.filterMap (Part.sourceAlias? table)

theorem sourceAliases_cons_source (table other : String) (alias? : Option String) (rank : Rank)
    (rest : List Part) :
    sourceAliases table (⟨.source other alias?, rank⟩ :: rest) =
      if other = table then alias? :: sourceAliases table rest else sourceAliases table rest := by
  by_cases same : other = table <;>
    simp [sourceAliases, Part.sourceAlias?, same]

theorem mem_visibleNames_iff {name : String} {parts : List Part} :
    name ∈ visibleNames parts ↔
      (∃ table, ∃ alias? ∈ sourceAliases table parts, alias?.getD table = name) ∨
        ∃ joined ∈ parts.filterMap Part.join?, joined.alias?.getD joined.table = name := by
  simp only [visibleNames, sourceAliases, List.mem_filterMap]
  constructor
  · rintro ⟨⟨clause, rank⟩, member, visible⟩
    cases clause with
    | source table alias? =>
        exact .inl ⟨table, alias?, ⟨_, member, by simp [Part.sourceAlias?]⟩,
          Option.some.inj visible⟩
    | join joined => exact .inr ⟨joined, ⟨_, member, rfl⟩, Option.some.inj visible⟩
    | _ => cases visible
  · rintro (⟨table, alias?, ⟨⟨clause, rank⟩, member, found⟩, rfl⟩ |
      ⟨joined, ⟨⟨clause, rank⟩, member, found⟩, rfl⟩)
    · cases clause with
      | source other present =>
          simp only [Part.sourceAlias?] at found
          split at found
          · next same =>
              rcases Option.some.inj found with rfl
              exact ⟨_, member, same ▸ rfl⟩
          · cases found
      | _ => cases found
    · cases clause with
      | join other =>
          rcases Option.some.inj found with rfl
          exact ⟨_, member, rfl⟩
      | _ => cases found

/-! ## The joins of a sequence of calls -/

namespace JoinSide

/-- The name that a join calls its side by. -/
def name (side : JoinSide) : String := side.alias?.getD side.table

theorem operand_eq_text_iff {side : JoinSide} {name : String} :
    side.operand = (ColumnPath.mk name side.column).text ↔ side.name = name := by
  simp [operand, ColumnPath.text, JoinSide.name, ← String.toList_inj]

end JoinSide

namespace MadeJoin

/-- The side that is there before the join. -/
def anchored (made : MadeJoin) : JoinSide :=
  match made.anchor with
  | .target => made.target
  | .source | .joinedSource => made.source

/-- The side that the join adds. -/
def attached (made : MadeJoin) : JoinSide :=
  match made.anchor with
  | .target => made.source
  | .source | .joinedSource => made.target

/-- The clause that a join adds. -/
def clause (made : MadeJoin) : Join :=
  { kind := made.spec.kind
    table := made.attached.table
    alias? := made.attached.alias?
    left := made.target.operand
    comparison := made.spec.comparison
    right := made.source.operand }

/-- The alias that a join brings for a table after `FROM`, if it is anchored there. -/
def sourceAlias? (table : String) (made : MadeJoin) : Option String :=
  match made.anchor with
  | .target | .source => if made.anchored.table = table then made.anchored.alias? else none
  | .joinedSource => none

/-- A join is in scope if its operands are columns of its references under visible names. -/
def Scoped (names : List String) (made : MadeJoin) (joined : Join) : Prop :=
  (∃ name ∈ names, joined.left = (ColumnPath.mk name made.targetPath.column).text) ∧
    ∃ name ∈ names, joined.right = (ColumnPath.mk name made.sourcePath.column).text

instance (names : List String) (made : MadeJoin) (joined : Join) :
    Decidable (made.Scoped names joined) :=
  inferInstanceAs (Decidable (_ ∧ _))

end MadeJoin

/-- The join that a call makes. -/
def Statement.made? (statement : Statement) : Call → Option MadeJoin
  | .join target source spec => statement.madeJoin? target source spec
  | _ => none

/-- The joins that a sequence of calls makes; the calls that fail make none. -/
def madeJoins (registry : Registry) : Statement → List Call → List MadeJoin
  | _, [] => []
  | statement, call :: rest =>
      (statement.made? call).toList ++
        madeJoins registry (statement.afterEdit registry (.call call)) rest

/-- The tables that a sequence of calls names after `FROM`. -/
def sourceTables (calls : List Call) : List String :=
  calls.filterMap fun call =>
    match call with
    | .source table => some table
    | _ => none

/-- The joins of the statement that a sequence of calls composes are in scope. -/
def JoinsScoped (registry : Registry) (calls : List Call) : Prop :=
  let parts := (Statement.empty.afterCalls registry calls).parts
  List.Forall₂ (MadeJoin.Scoped (visibleNames parts)) (madeJoins registry .empty calls)
    (parts.filterMap Part.join?)

instance (registry : Registry) (calls : List Call) : Decidable (JoinsScoped registry calls) :=
  inferInstanceAs (Decidable (List.Forall₂ _ _ _))

/-! ## Names that calls give -/

/-- The alias of a table after `FROM`: the first one that a join anchored there brings. -/
def firstAlias? (table : String) (made : List MadeJoin) : Option String :=
  made.findSome? (MadeJoin.sourceAlias? table)

/-- The aliases of a table that is named after `FROM` a number of times: only the first mention
gets one. -/
def aliasesFor (table : String) (made : List MadeJoin) : Nat → List (Option String)
  | 0 => []
  | later + 1 => firstAlias? table made :: List.replicate later none

/-- The names that joins and tables after `FROM` end up with. -/
def givenNames (sources : List String) (made : List MadeJoin) : List String :=
  made.map (·.attached.name) ++ sources.map (fun table => (firstAlias? table made).getD table) ++
    sources.filter fun table => decide (1 < sources.count table)

/-- The aliases of a table after its first mention is given one, unless it has one. -/
def fillFirst (alias? : Option String) : List (Option String) → List (Option String)
  | [] => []
  | first :: rest => first.or alias? :: rest

@[simp]
theorem fillFirst_none (aliases : List (Option String)) : fillFirst none aliases = aliases := by
  cases aliases <;> simp [fillFirst]

theorem aliasesFor_append (table : String) (made : List MadeJoin) (added : MadeJoin)
    (mentions : Nat) :
    aliasesFor table (made ++ [added]) mentions =
      fillFirst (added.sourceAlias? table) (aliasesFor table made mentions) := by
  cases mentions with
  | zero => rfl
  | succ later =>
      cases brought : added.sourceAlias? table <;>
        simp [aliasesFor, fillFirst, firstAlias?, List.findSome?_append, brought]

theorem mem_aliasesFor_iff {table : String} {made : List MadeJoin} {mentions : Nat}
    {alias? : Option String} :
    alias? ∈ aliasesFor table made mentions ↔
      0 < mentions ∧ alias? = firstAlias? table made ∨ 1 < mentions ∧ alias? = none := by
  cases mentions with
  | zero => simp [aliasesFor]
  | succ later => simp [aliasesFor, List.mem_replicate, Nat.pos_iff_ne_zero]

theorem mem_givenNames_iff {sources : List String} {made : List MadeJoin} {name : String} :
    name ∈ givenNames sources made ↔
      (∃ table, ∃ alias? ∈ aliasesFor table made (sources.count table),
        alias?.getD table = name) ∨ ∃ join ∈ made, join.attached.name = name := by
  simp only [givenNames, mem_aliasesFor_iff, List.mem_append, List.mem_map, List.mem_filter,
    decide_eq_true_eq, List.count_pos_iff]
  constructor
  · rintro ((attached | ⟨table, mentioned, rfl⟩) | ⟨mentioned, again⟩)
    · exact .inr attached
    · exact .inl ⟨table, _, .inl ⟨mentioned, rfl⟩, rfl⟩
    · exact .inl ⟨name, none, .inr ⟨again, rfl⟩, rfl⟩
  · rintro (⟨table, alias?, ⟨mentioned, rfl⟩ | ⟨again, rfl⟩, rfl⟩ | attached)
    · exact .inl (.inr ⟨table, mentioned, rfl⟩)
    · exact .inr ⟨List.count_pos_iff.1 (Nat.lt_of_succ_lt again), again⟩
    · exact .inl (.inl attached)

/-! ## What a join leaves of the parts -/

theorem sourceAliases_fillAlias (table other : String) (alias? : Option String)
    (parts : List Part) :
    sourceAliases table (fillAlias other alias? parts) =
      fillFirst (if other = table then alias? else none) (sourceAliases table parts) := by
  induction parts with
  | nil => rfl
  | cons part rest ih =>
      rcases part with ⟨clause, rank⟩
      cases clause with
      | source found present =>
          simp only [fillAlias]
          by_cases mentioned : found = other
          · by_cases same : other = table
            · simp [sourceAliases_cons_source, mentioned, same, fillFirst]
            · simp [sourceAliases_cons_source, mentioned, same]
          · by_cases same : found = table
            · have others : other ≠ table := fun eq => mentioned (same.trans eq.symm)
              simp [sourceAliases_cons_source, same, others, Ne.symm others, ih]
            · simp [sourceAliases_cons_source, mentioned, same, ih]
      | _ => exact ih

namespace MadeJoin

theorem sourceAliases_extend (made : MadeJoin) (table : String) (parts : List Part) :
    sourceAliases table (made.extend parts) =
      fillFirst (made.sourceAlias? table) (sourceAliases table parts) := by
  have noSource (joined : Join) : sourceAliases table [Part.ofClause (.join joined)] = [] := rfl
  have append (parts : List Part) (joined : Join) :
      sourceAliases table (parts ++ [Part.ofClause (.join joined)]) =
        sourceAliases table parts := by
    rw [sourceAliases, List.filterMap_append]
    exact List.append_nil _
  rcases made with ⟨spec, targetPath, sourcePath, anchor⟩
  cases anchor with
  | target | source => exact (append _ _).trans (sourceAliases_fillAlias _ _ _ _)
  | joinedSource => exact (append _ _).trans (fillFirst_none _).symm

theorem filterMap_join?_extend (made : MadeJoin) (parts : List Part) :
    (made.extend parts).filterMap Part.join? = parts.filterMap Part.join? ++ [made.clause] := by
  rcases made with ⟨spec, targetPath, sourcePath, anchor⟩
  cases anchor with
  | target | source =>
      exact (List.filterMap_append ..).trans
        (congrArg (· ++ _) (filterMap_fillAlias (fun _ _ _ => rfl) _ _ parts))
  | joinedSource => exact List.filterMap_append ..

end MadeJoin

theorem hasSource_iff {table : String} {parts : List Part} :
    hasSource parts table = true ↔ sourceAliases table parts ≠ [] := by
  simp only [hasSource, sourceAliases, List.any_eq_true, ne_eq, List.filterMap_eq_nil_iff,
    not_forall]
  apply exists_congr
  intro part
  rcases part with ⟨clause, rank⟩
  cases clause with
  | source other alias? => simp [Part.sourceTable?, Part.sourceAlias?]
  | _ => simp [Part.sourceTable?, Part.sourceAlias?]

/-- A join is made as its options say, at a table that a part names. -/
theorem anchored_of_madeJoin? {statement : Statement} {target source : String} {spec : JoinSpec}
    {made : MadeJoin} (taken : statement.madeJoin? target source spec = some made) :
    made.spec = spec ∧
      match made.anchor with
      | .target | .source => hasSource statement.parts made.anchored.table = true
      | .joinedSource => hasJoin statement.parts made.anchored.table = true := by
  unfold Statement.madeJoin? at taken
  split at taken
  · rcases Option.map_eq_some_iff.1 taken with ⟨anchor, anchored, rfl⟩
    refine ⟨rfl, ?_⟩
    unfold joinAnchor? at anchored
    split at anchored
    · next present =>
        rcases Option.some.inj anchored with rfl
        exact present
    · split at anchored
      · next present =>
          rcases Option.some.inj anchored with rfl
          exact present
      · split at anchored
        · next present =>
            rcases Option.some.inj anchored with rfl
            exact present
        · cases anchored
  · cases taken

/-- A join that is anchored after `FROM` is anchored at a table that is named there. -/
theorem hasSource_of_madeJoin? {statement : Statement} {target source : String}
    {spec : JoinSpec} {made : MadeJoin}
    (taken : statement.madeJoin? target source spec = some made)
    (afterFrom : made.anchor ≠ .joinedSource) :
    hasSource statement.parts made.anchored.table = true := by
  have present := (anchored_of_madeJoin? taken).2
  rcases made with ⟨spec, targetPath, sourcePath, anchor⟩
  cases anchor with
  | target | source => exact present
  | joinedSource => exact absurd rfl afterFrom

/-! ## What a run of calls leaves of the parts -/

/-- The parts are those that some mentions after `FROM` and some joins leave. -/
structure Recorded (parts : List Part) (sources : List String) (made : List MadeJoin) : Prop where
  joins_eq : parts.filterMap Part.join? = made.map MadeJoin.clause
  sourceAliases_eq : ∀ table,
    sourceAliases table parts = aliasesFor table made (sources.count table)
  mentioned : ∀ join ∈ made, join.anchor ≠ .joinedSource → join.anchored.table ∈ sources

namespace Recorded

theorem nil : Recorded [] [] [] :=
  ⟨rfl, fun _ => rfl, nofun⟩

variable {parts : List Part} {sources : List String} {made : List MadeJoin}

/-- No alias is brought for a table that is not named after `FROM`. -/
theorem firstAlias?_eq_none (recorded : Recorded parts sources made) {table : String}
    (absent : table ∉ sources) : firstAlias? table made = none := by
  apply List.findSome?_eq_none_iff.2
  intro join member
  have mentioned := recorded.mentioned join member
  rcases join with ⟨spec, targetPath, sourcePath, anchor⟩
  cases anchor with
  | target | source =>
      refine if_neg ?_
      rintro rfl
      exact absent (mentioned nofun)
  | joinedSource => rfl

theorem push (recorded : Recorded parts sources made) {clause : Clause}
    (noSource : ∀ table alias?, clause ≠ .source table alias?)
    (noJoin : ∀ joined, clause ≠ .join joined) :
    Recorded (parts ++ [.ofClause clause]) sources made where
  joins_eq := by
    rw [List.filterMap_append, recorded.joins_eq]
    cases clause with
    | join joined => exact absurd rfl (noJoin joined)
    | _ => exact List.append_nil _
  sourceAliases_eq table := by
    rw [sourceAliases, List.filterMap_append, ← sourceAliases, recorded.sourceAliases_eq]
    cases clause with
    | source other alias? => exact absurd rfl (noSource other alias?)
    | _ => exact List.append_nil _
  mentioned := recorded.mentioned

theorem pushSource (recorded : Recorded parts sources made) (table : String) :
    Recorded (parts ++ [.ofClause (.source table none)]) (sources ++ [table]) made where
  joins_eq := by
    rw [List.filterMap_append, recorded.joins_eq]
    exact List.append_nil _
  sourceAliases_eq other := by
    have added : sourceAliases other [.ofClause (.source table none)] =
        if table = other then [none] else [] := sourceAliases_cons_source other table none _ []
    rw [sourceAliases, List.filterMap_append, ← sourceAliases, ← sourceAliases, added,
      recorded.sourceAliases_eq, List.count_append]
    by_cases same : table = other
    · subst same
      cases count : sources.count table with
      | zero =>
          have noAlias := recorded.firstAlias?_eq_none (List.count_eq_zero.1 count)
          simp [aliasesFor, noAlias]
      | succ later => simp [aliasesFor, List.replicate_succ']
    · simp [same]
  mentioned join member afterFrom :=
    List.mem_append_left _ (recorded.mentioned join member afterFrom)

theorem extend (recorded : Recorded parts sources made) {target source : String}
    {spec : JoinSpec} {added : MadeJoin}
    (taken : (Statement.mk parts none).madeJoin? target source spec = some added) :
    Recorded (added.extend parts) sources (made ++ [added]) where
  joins_eq := by
    rw [added.filterMap_join?_extend, recorded.joins_eq, List.map_append]
    rfl
  sourceAliases_eq table := by
    rw [added.sourceAliases_extend, recorded.sourceAliases_eq, aliasesFor_append]
  mentioned join member afterFrom := by
    rcases List.mem_append.1 member with old | new
    · exact recorded.mentioned join old afterFrom
    · rcases List.mem_singleton.1 new with rfl
      have present := hasSource_iff.1 (hasSource_of_madeJoin? taken afterFrom)
      rw [recorded.sourceAliases_eq] at present
      refine List.count_pos_iff.1 (Nat.pos_of_ne_zero fun absent => present ?_)
      rw [absent]
      rfl

theorem afterEdit {statement : Statement} (recorded : Recorded statement.parts sources made)
    (registry : Registry) (call : Call) :
    Recorded (statement.afterEdit registry (.call call)).parts (sources ++ sourceTables [call])
      (made ++ (statement.made? call).toList) := by
  cases call with
  | source table =>
      have noJoin : statement.made? (.source table) = none := rfl
      rw [noJoin, Option.toList_none, List.append_nil]
      exact recorded.pushSource table
  | join target source spec =>
      rw [Statement.afterEdit_join, Statement.made?]
      cases taken : statement.madeJoin? target source spec with
      | none => simpa [sourceTables] using recorded
      | some added => simpa [sourceTables] using recorded.extend taken
  | _ =>
      simp only [sourceTables, Statement.made?, List.filterMap_cons, List.filterMap_nil,
        Option.toList_none, List.append_nil]
      exact recorded.push (fun _ _ => nofun) fun _ => nofun

/-- Each call adds to the record what it names after `FROM` and what it joins. -/
theorem afterCalls {statement : Statement} (recorded : Recorded statement.parts sources made)
    (registry : Registry) (calls : List Call) :
    Recorded (statement.afterCalls registry calls).parts (sources ++ sourceTables calls)
      (made ++ madeJoins registry statement calls) := by
  induction calls generalizing statement sources made with
  | nil => simpa [sourceTables, madeJoins] using recorded
  | cons call rest ih =>
      have cons : sourceTables (call :: rest) = sourceTables [call] ++ sourceTables rest := by
        rw [← List.singleton_append, sourceTables, List.filterMap_append]
        rfl
      rw [Statement.afterCalls_cons, cons, madeJoins, ← List.append_assoc, ← List.append_assoc]
      exact ih (recorded.afterEdit registry call)

/-- The names that the parts make visible are the given ones. -/
theorem mem_visibleNames_iff (recorded : Recorded parts sources made) {name : String} :
    name ∈ visibleNames parts ↔ name ∈ givenNames sources made := by
  rw [RankedSql.mem_visibleNames_iff, mem_givenNames_iff, recorded.joins_eq]
  simp only [recorded.sourceAliases_eq, List.mem_map, exists_exists_and_eq_and]
  rfl

end Recorded

/-! ## Scope -/

namespace MadeJoin

theorem attached_name_mem {made : MadeJoin} {joins : List MadeJoin} (member : made ∈ joins)
    (sources : List String) : made.attached.name ∈ givenNames sources joins :=
  mem_givenNames_iff.2 (.inr ⟨made, member, rfl⟩)

/-- A join is in scope exactly if the names of both its sides are there. -/
theorem scoped_clause_iff {made : MadeJoin} {names : List String} :
    made.Scoped names made.clause ↔ made.attached.name ∈ names ∧ made.anchored.name ∈ names := by
  have operand_iff (side : JoinSide) :
      (∃ name ∈ names, side.operand = (ColumnPath.mk name side.column).text) ↔
        side.name ∈ names := by
    simp only [JoinSide.operand_eq_text_iff, exists_eq_right']
  have sides : made.Scoped names made.clause ↔
      made.target.name ∈ names ∧ made.source.name ∈ names :=
    and_congr (operand_iff made.target) (operand_iff made.source)
  rw [sides, attached, anchored]
  cases made.anchor with
  | target => exact and_comm
  | source | joinedSource => exact Iff.rfl

end MadeJoin

theorem recorded_afterCalls (registry : Registry) (calls : List Call) :
    Recorded (Statement.empty.afterCalls registry calls).parts (sourceTables calls)
      (madeJoins registry .empty calls) := by
  have empty : Recorded Statement.empty.parts [] [] := .nil
  exact empty.afterCalls registry calls

/-- Joins are in scope exactly if each calls its anchor by a name that the calls end up giving: that
of a side that a join attaches, or that of a table after `FROM`. Such a table goes by the first
alias that a join anchored there brings, and not by that of any later one. -/
theorem joinsScoped_iff (registry : Registry) (calls : List Call) :
    let made := madeJoins registry .empty calls
    (JoinsScoped registry calls ↔
      ∀ join ∈ made, join.anchored.name ∈ givenNames (sourceTables calls) made) ∧
    ∀ join ∈ made, join.anchor ≠ .joinedSource → ∃ later,
      sourceAliases join.anchored.table (Statement.empty.afterCalls registry calls).parts =
        firstAlias? join.anchored.table made :: later := by
  intro made
  have recorded := recorded_afterCalls registry calls
  constructor
  · unfold JoinsScoped
    simp only [recorded.joins_eq, List.forall₂_map_right_iff, List.forall₂_same,
      MadeJoin.scoped_clause_iff, recorded.mem_visibleNames_iff]
    exact forall₂_congr fun join member =>
      and_iff_right (MadeJoin.attached_name_mem member (sourceTables calls))
  · intro join member afterFrom
    have mentioned := List.count_pos_iff.2 (recorded.mentioned join member afterFrom)
    rw [recorded.sourceAliases_eq, ← Nat.succ_pred_eq_of_pos mentioned]
    exact ⟨_, rfl⟩

/-- The alias that a second join brings for a table after `FROM` is in its operand only. -/
theorem not_joinsScoped_of_second_alias :
    let calls := [Call.source "users",
      .join "orders.user_id" "u.id" { aliases := [("users", "u")] },
      .join "posts.author_id" "users.id" { aliases := [("users", "x")] }]
    (Statement.empty.afterCalls .empty calls).render =
        "FROM users u INNER JOIN orders ON orders.user_id = u.id " ++
          "INNER JOIN posts ON posts.author_id = x.id" ∧
      ¬JoinsScoped .empty calls := by
  decide +kernel

end RankedSql

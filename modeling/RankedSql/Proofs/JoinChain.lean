import RankedSql.Proofs.CallOrder
import RankedSql.Proofs.JoinScope
import RankedSql.Proofs.RenderedSegments

/-!
# Chains of joins

A join hangs on a part that is there before it: a table after `FROM` or a joined table. Its operands
are columns under two names, that of the table it adds and that of the table it hangs on. Whether a
part in front gives the second name depends on the aliases of all joins, for the table after `FROM`
takes its alias from one join and the operand of another takes it from its own.

If all joins bring the same aliases, a table goes by the same name in each of them. A table after
`FROM` then has this alias or none yet (`Chained.sources`), so the alias that a join fills in is the
one in its operand, and no later join fills in another. So every join is linked to a part in front
of it (`Chained.linked`), and as both stand at one rank, also in the text (`joins_linked`).
-/

namespace RankedSql

/-- A call that brings the given aliases, if it is a join. -/
def Call.UsesAliases (aliases : List (String × String)) : Call → Prop
  | .join _ _ spec => spec.aliases = aliases
  | _ => True

instance (aliases : List (String × String)) : DecidablePred (Call.UsesAliases aliases)
  | .join _ _ spec => inferInstanceAs (Decidable (spec.aliases = aliases))
  | .select _ | .source _ | .condition _ _ _ _ | .orderBy _ _ | .limit _ | .offset _
  | .insert _ _ | .update _ _ | .delete _ | .dropTable _ => isTrue trivial

/-- The operands of a join are columns of its references, one under the join's own name and one
under another name. -/
def MadeJoin.Links (made : MadeJoin) (own other : String) (joined : Join) : Prop :=
  (joined.left = (ColumnPath.mk own made.targetPath.column).text ∧
      joined.right = (ColumnPath.mk other made.sourcePath.column).text) ∨
    joined.left = (ColumnPath.mk other made.targetPath.column).text ∧
      joined.right = (ColumnPath.mk own made.sourcePath.column).text

theorem MadeJoin.links_clause (made : MadeJoin) :
    made.Links made.attached.name made.anchored.name made.clause := by
  rcases made with ⟨spec, targetPath, sourcePath, anchor⟩
  cases anchor with
  | target => exact .inr ⟨rfl, rfl⟩
  | source | joinedSource => exact .inl ⟨rfl, rfl⟩

theorem MadeJoin.alias?_attached (made : MadeJoin) :
    made.attached.alias? = made.spec.aliasOf? made.attached.table := by
  rcases made with ⟨spec, targetPath, sourcePath, anchor⟩
  cases anchor <;> rfl

theorem MadeJoin.alias?_anchored (made : MadeJoin) :
    made.anchored.alias? = made.spec.aliasOf? made.anchored.table := by
  rcases made with ⟨spec, targetPath, sourcePath, anchor⟩
  cases anchor <;> rfl

/-! ## Parts that name a table -/

/-- A part that names a table, after `FROM` or in a join, under its alias among the given ones. -/
inductive Part.Names (aliases : List (String × String)) (table : String) : Part → Prop where
  | source (rank : Rank) : Names aliases table ⟨.source table (aliases.lookup table), rank⟩
  | join {joined : Join} (rank : Rank) (same : joined.table = table)
      (alias?_eq : joined.alias? = aliases.lookup table) : Names aliases table ⟨.join joined, rank⟩

/-- A part as it is, or a table after `FROM` with its alias among the given ones. -/
inductive Part.Filled (aliases : List (String × String)) : Part → Part → Prop where
  | same (part : Part) : Filled aliases part part
  | source (table : String) (alias? : Option String) (rank : Rank) :
      Filled aliases ⟨.source table alias?, rank⟩ ⟨.source table (aliases.lookup table), rank⟩

/-- The parts that joins with the same aliases leave: every table after `FROM` has its alias or
none, and every join is one of those made and comes behind a part that names its anchor. -/
structure Chained (aliases : List (String × String)) (made : List MadeJoin) (parts : List Part) :
    Prop where
  sources : ∀ table alias? rank, Part.mk (.source table alias?) rank ∈ parts →
    alias? = none ∨ alias? = aliases.lookup table
  linked : ∀ before joined rank, before ++ [⟨.join joined, rank⟩] <+: parts →
    ∃ join ∈ made, joined = join.clause ∧ join.spec.aliases = aliases ∧
      ∃ provider ∈ before, provider.Names aliases join.anchored.table

variable {aliases : List (String × String)}

theorem Part.Names.visibleName? {table : String} {part : Part} (names : part.Names aliases table) :
    part.visibleName? = some ((aliases.lookup table).getD table) := by
  cases names with
  | source rank => rfl
  | join rank same alias?_eq => rw [← alias?_eq, ← same]; rfl

theorem Part.Names.filled {table : String} {part filled : Part} (names : part.Names aliases table)
    (fills : part.Filled aliases filled) : filled.Names aliases table := by
  cases fills with
  | same => exact names
  | source table alias? rank =>
      cases names with
      | source => exact .source rank

theorem or_lookup {table : String} {alias? : Option String}
    (known : alias? = none ∨ alias? = aliases.lookup table) :
    alias?.or (aliases.lookup table) = aliases.lookup table := by
  rcases known with rfl | rfl
  · exact Option.none_or
  · exact Option.or_self

/-- Filling in the alias of a table changes no part otherwise. -/
theorem forall₂_fillAlias {parts : List Part}
    (sources : ∀ table alias? rank, Part.mk (.source table alias?) rank ∈ parts →
      alias? = none ∨ alias? = aliases.lookup table) (table : String) :
    List.Forall₂ (Part.Filled aliases) parts
      (fillAlias table (aliases.lookup table) parts) := by
  have unchanged (parts : List Part) : List.Forall₂ (Part.Filled aliases) parts parts :=
    List.forall₂_same.2 fun part _ => .same part
  induction parts with
  | nil => exact .nil
  | cons part rest ih =>
      have later := ih fun other alias? rank member =>
        sources other alias? rank (List.mem_cons_of_mem _ member)
      rcases part with ⟨clause, rank⟩
      cases clause with
      | source other present =>
          simp only [fillAlias]
          split
          · next same =>
              subst same
              rw [or_lookup (sources other present rank List.mem_cons_self)]
              exact .cons (.source other present rank) (unchanged rest)
          · exact .cons (.same _) later
      | _ => exact .cons (.same _) later

/-- A table that is named after `FROM` goes by its alias once that is filled in. -/
theorem exists_names_fillAlias {parts : List Part}
    (sources : ∀ table alias? rank, Part.mk (.source table alias?) rank ∈ parts →
      alias? = none ∨ alias? = aliases.lookup table) {table : String}
    (present : hasSource parts table = true) :
    ∃ provider ∈ fillAlias table (aliases.lookup table) parts, provider.Names aliases table := by
  induction parts with
  | nil => cases present
  | cons part rest ih =>
      have later := ih fun other alias? rank member =>
        sources other alias? rank (List.mem_cons_of_mem _ member)
      rcases part with ⟨clause, rank⟩
      cases clause with
      | source other alias? =>
          simp only [fillAlias]
          split
          · next same =>
              subst same
              rw [or_lookup (sources other alias? rank List.mem_cons_self)]
              exact ⟨_, List.mem_cons_self, .source rank⟩
          · next different =>
              have presentLater : hasSource rest table = true := by
                simpa [hasSource, Part.sourceTable?, different] using present
              rcases later presentLater with ⟨provider, member, names⟩
              exact ⟨provider, List.mem_cons_of_mem _ member, names⟩
      | _ =>
          rcases later present with ⟨provider, member, names⟩
          exact ⟨provider, List.mem_cons_of_mem _ member, names⟩

theorem exists_split_of_forall₂ {α β : Type} {R : α → β → Prop} {left : List α}
    {before after : List β} {element : β}
    (related : List.Forall₂ R left (before ++ element :: after)) :
    ∃ front first back, left = front ++ first :: back ∧ List.Forall₂ R front before ∧
      R first element := by
  have front := List.forall₂_take_append left before (element :: after) related
  have rest := List.forall₂_drop_append left before (element :: after) related
  rcases List.forall₂_cons_right_iff.1 rest with ⟨first, back, first_rel, _, split⟩
  exact ⟨_, first, back, by rw [← split, List.take_append_drop], front, first_rel⟩

theorem exists_mem_of_forall₂ {α β : Type} {R : α → β → Prop} {left : List α} {right : List β}
    (related : List.Forall₂ R left right) {element : α} (member : element ∈ left) :
    ∃ other ∈ right, R element other := by
  induction related with
  | nil => cases member
  | @cons head headRight tail tailRight relatedHead _ ih =>
      rcases List.mem_cons.1 member with rfl | later
      · exact ⟨headRight, List.mem_cons_self, relatedHead⟩
      · rcases ih later with ⟨other, otherMember, relatedOther⟩
        exact ⟨other, List.mem_cons_of_mem _ otherMember, relatedOther⟩

/-! ## Calls with the same aliases -/

namespace Chained

variable {parts : List Part} {made : List MadeJoin}

theorem nil : Chained aliases [] [] where
  sources _ _ _ member := by cases member
  linked _ _ _ inside := by simp at inside

theorem push (chained : Chained aliases made parts) {clause : Clause}
    (noAlias : ∀ table alias?, clause = .source table alias? → alias? = none)
    (noJoin : ∀ joined, clause ≠ .join joined) :
    Chained aliases made (parts ++ [.ofClause clause]) where
  sources table alias? rank member := by
    rcases List.mem_append.1 member with old | new
    · exact chained.sources table alias? rank old
    · have same := List.mem_singleton.1 new
      exact .inl (noAlias table alias? (congrArg Part.clause same).symm)
  linked before joined rank inside := by
    rcases List.prefix_concat_iff.1 inside with whole | earlier
    · have same := List.append_inj_right' whole rfl
      have clauses := congrArg Part.clause (List.singleton_inj.1 same)
      exact absurd clauses.symm (noJoin joined)
    · exact chained.linked before joined rank earlier

/-- Filling in an alias keeps the links, as it only makes parts name a table that did not yet. -/
theorem fill (chained : Chained aliases made parts) (table : String) :
    Chained aliases made (fillAlias table (aliases.lookup table) parts) where
  sources other alias? rank member := by
    have filled := (forall₂_fillAlias chained.sources table).flip
    rcases exists_mem_of_forall₂ filled member with ⟨part, partMember, fills⟩
    cases fills with
    | same => exact chained.sources other alias? rank partMember
    | source => exact .inr rfl
  linked before joined rank inside := by
    have filled := forall₂_fillAlias chained.sources table
    rcases inside with ⟨later, split⟩
    rw [← split, List.append_assoc, List.singleton_append] at filled
    rcases exists_split_of_forall₂ filled with ⟨front, first, back, parts_eq, filledFront, fills⟩
    cases fills
    have earlier : front ++ [⟨.join joined, rank⟩] <+: parts :=
      ⟨back, by rw [parts_eq, List.append_assoc, List.singleton_append]⟩
    rcases chained.linked front joined rank earlier with ⟨join, member, clause, same, link⟩
    rcases link with ⟨provider, providerMember, names⟩
    rcases exists_mem_of_forall₂ filledFront providerMember with ⟨other, otherMember, fills⟩
    exact ⟨join, member, clause, same, other, otherMember, names.filled fills⟩

/-- A join that is added behind a part that names its anchor is linked to it. -/
theorem attach (chained : Chained aliases made parts) {added : MadeJoin}
    (same : added.spec.aliases = aliases) {provider : Part} (member : provider ∈ parts)
    (names : provider.Names aliases added.anchored.table) :
    Chained aliases (made ++ [added]) (parts ++ [.ofClause (.join added.clause)]) where
  sources table alias? rank found := by
    rcases List.mem_append.1 found with old | new
    · exact chained.sources table alias? rank old
    · cases List.mem_singleton.1 new
  linked before joined rank inside := by
    rcases List.prefix_concat_iff.1 inside with whole | earlier
    · rcases List.append_inj_left' whole rfl with rfl
      cases List.singleton_inj.1 (List.append_inj_right' whole rfl)
      exact ⟨added, by simp, rfl, same, provider, member, names⟩
    · rcases chained.linked before joined rank earlier with ⟨join, joinMember, linked⟩
      exact ⟨join, List.mem_append_left _ joinMember, linked⟩

/-- A joined table goes by its alias. -/
theorem exists_join (chained : Chained aliases made parts) {table : String}
    (present : hasJoin parts table = true) :
    ∃ provider ∈ parts, provider.Names aliases table := by
  rcases List.any_eq_true.1 present with ⟨⟨clause, rank⟩, member, names⟩
  cases clause with
  | join joined =>
      have same : joined.table = table := Option.some.inj (beq_iff_eq.1 names)
      rcases List.append_of_mem member with ⟨before, later, split⟩
      have inside : before ++ [⟨.join joined, rank⟩] <+: parts := ⟨later, by simp [split]⟩
      rcases chained.linked before joined rank inside with ⟨join, _, rfl, sameAliases, _⟩
      refine ⟨_, member, .join rank same ?_⟩
      rw [← same, ← sameAliases]
      exact join.alias?_attached
  | _ => simp [Part.joinedTable?] at names

/-- A join that is made with the same aliases is linked to its anchor. -/
theorem extend (chained : Chained aliases made parts) {target source : String} {spec : JoinSpec}
    (same : spec.aliases = aliases) {added : MadeJoin}
    (taken : (Statement.mk parts none).madeJoin? target source spec = some added) :
    Chained aliases (made ++ [added]) (added.extend parts) := by
  rcases anchored_of_madeJoin? taken with ⟨rfl, present⟩
  rcases added with ⟨spec, targetPath, sourcePath, anchor⟩
  subst same
  cases anchor with
  | target | source =>
      rcases exists_names_fillAlias chained.sources present with ⟨provider, member, names⟩
      exact (chained.fill _).attach rfl member names
  | joinedSource =>
      rcases chained.exists_join present with ⟨provider, member, names⟩
      exact chained.attach rfl member names

theorem afterEdit {statement : Statement} (chained : Chained aliases made statement.parts)
    (registry : Registry) {call : Call} (uses : call.UsesAliases aliases) :
    Chained aliases (made ++ (statement.made? call).toList)
      (statement.afterEdit registry (.call call)).parts := by
  cases call with
  | join target source spec =>
      rw [Statement.afterEdit_join, Statement.made?]
      cases taken : statement.madeJoin? target source spec with
      | none => simpa using chained
      | some added => exact chained.extend uses taken
  | _ =>
      simp only [Statement.made?, Option.toList_none, List.append_nil]
      refine chained.push (fun _ _ same => ?_) fun _ same => ?_
      · cases same <;> rfl
      · cases same

theorem afterCalls {statement : Statement} (chained : Chained aliases made statement.parts)
    (registry : Registry) {calls : List Call} (uses : ∀ call ∈ calls, call.UsesAliases aliases) :
    Chained aliases (made ++ madeJoins registry statement calls)
      (statement.afterCalls registry calls).parts := by
  induction calls generalizing statement made with
  | nil => simpa [madeJoins] using chained
  | cons call rest ih =>
      rcases List.forall_mem_cons.1 uses with ⟨usesCall, usesRest⟩
      rw [Statement.afterCalls_cons, madeJoins, ← List.append_assoc]
      exact ih (chained.afterEdit registry usesCall) usesRest

end Chained

/-! ## Links in the text -/

namespace Placed

variable {parts : List Part}

theorem plain_of_mem_front (placed : Placed parts) :
    ∀ part ∈ partsAt .projection parts ++ partsAt .target parts,
      part.condition? = none ∧ part.sortTerm? = none := by
  intro part member
  have home : part.clause.defaultRank = .projection ∨ part.clause.defaultRank = .target := by
    rcases List.mem_append.1 member with first | second
    · exact .inl ((placed_partsAt placed _ part first).symm.trans (rank_of_mem_partsAt first))
    · exact .inr ((placed_partsAt placed _ part second).symm.trans (rank_of_mem_partsAt second))
  rcases part with ⟨clause, rank⟩
  cases clause with
  | condition | ordering => rcases home with other | other <;> cases other
  | _ => exact ⟨rfl, rfl⟩

/-- The text of placed parts starts with the texts of projections and targets. -/
theorem renderParts_eq_front (placed : Placed parts) :
    ∃ back, renderParts parts = Text.joinWith " "
      (shownTexts (partsAt .projection parts ++ partsAt .target parts) ++ back) := by
  have ranked : rankedParts parts = (partsAt .projection parts ++ partsAt .target parts) ++
      (partsAt .filter parts ++ partsAt .ordering parts) := by
    simp [rankedParts, Rank.all]
  refine ⟨(segmentsOf (partsAt .filter parts ++ partsAt .ordering parts)).map Segment.text, ?_⟩
  rw [renderParts_eq_segments, ranked, texts_segmentsOf_append placed.plain_of_mem_front]

end Placed

theorem Part.visibleName?_text {part : Part} {name : String}
    (visible : part.visibleName? = some name) :
    part.text ≠ "" ∧ part.clause.defaultRank = .target := by
  rcases part with ⟨clause, rank⟩
  cases clause with
  | source table alias? =>
      refine ⟨fun empty => ?_, rfl⟩
      have spelled : "FROM " ++ aliasedTable table alias? = "" := empty
      simp at spelled
  | join joined =>
      refine ⟨fun empty => ?_, rfl⟩
      have spelled : joined.kind.sql ++ " JOIN " ++ aliasedTable joined.table joined.alias? ++
          " ON " ++ joined.left ++ " " ++ joined.comparison.symbol ++ " " ++ joined.right = "" :=
        empty
      simp at spelled
  | _ => cases visible

theorem shownTexts_partsAt_cons {part : Part} {name : String}
    (visible : part.visibleName? = some name) (home : part.rank = part.clause.defaultRank)
    (rest : List Part) :
    shownTexts (partsAt .target (part :: rest)) =
      part.text :: shownTexts (partsAt .target rest) := by
  rcases part.visibleName?_text visible with ⟨notEmpty, atTarget⟩
  rw [partsAt_cons_of_eq (home.trans atTarget)]
  simp [shownTexts, notEmpty]

/-- If all joins bring the same aliases, then after any of the calls every join is linked to a part
in front of it: one operand is a column under the name that the join itself makes visible, and the
other one under the name that the part in front does. The part comes before the join in the text
too. -/
theorem joins_linked {registry : Registry} {aliases : List (String × String)} {calls : List Call}
    (uses : ∀ call ∈ calls, call.UsesAliases aliases) {steps : List Call}
    (taken : steps <+: calls) :
    let statement := Statement.empty.afterCalls registry steps
    ∀ before joined rank later, statement.parts = before ++ ⟨.join joined, rank⟩ :: later →
      ∃ made ∈ madeJoins registry .empty steps, ∃ earlier provider between own name back,
        joined = made.clause ∧ before = earlier ++ provider :: between ∧
        (Part.mk (.join joined) rank).visibleName? = some own ∧
        provider.visibleName? = some name ∧ made.Links own name joined ∧
        statement.render = Text.joinWith " "
          (shownTexts (partsAt .projection statement.parts ++ partsAt .target earlier) ++
            provider.text :: (shownTexts (partsAt .target between) ++
              (Part.mk (.join joined) rank).text :: back)) := by
  intro statement before joined rank later split
  have usesSteps : ∀ call ∈ steps, call.UsesAliases aliases := fun call member =>
    uses call (taken.subset member)
  have empty : Chained aliases [] Statement.empty.parts := .nil
  have chained := empty.afterCalls registry usesSteps
  have inside : before ++ [⟨.join joined, rank⟩] <+: statement.parts :=
    ⟨later, by rw [split, List.append_assoc, List.singleton_append]⟩
  rcases chained.linked before joined rank inside with
    ⟨made, member, rfl, same, provider, providerMember, names⟩
  rcases List.append_of_mem providerMember with ⟨earlier, between, rfl⟩
  have name_eq : (aliases.lookup made.anchored.table).getD made.anchored.table =
      made.anchored.name := by
    rw [JoinSide.name, made.alias?_anchored, JoinSpec.aliasOf?, same]
  have visible := names.visibleName?
  rw [name_eq] at visible
  have own : (Part.mk (.join made.clause) rank).visibleName? = some made.attached.name := rfl
  have placed : Placed statement.parts := Statement.placed_afterCalls placed_nil registry steps
  have providerPlaced := placed provider (by rw [split]; simp)
  have joinPlaced := placed ⟨.join made.clause, rank⟩ (by rw [split]; simp)
  rcases placed.renderParts_eq_front with ⟨back, front⟩
  have targets : shownTexts (partsAt .target statement.parts) =
      shownTexts (partsAt .target earlier) ++ provider.text ::
        (shownTexts (partsAt .target between) ++ (Part.mk (.join made.clause) rank).text ::
          shownTexts (partsAt .target later)) := by
    rw [split, List.append_assoc, List.cons_append, partsAt_append, shownTexts_append,
      shownTexts_partsAt_cons visible providerPlaced, partsAt_append, shownTexts_append,
      shownTexts_partsAt_cons own joinPlaced]
  have noLiteral : statement.literal = none := Statement.empty.literal_afterCalls registry steps
  refine ⟨made, member, earlier, provider, between, made.attached.name, made.anchored.name,
    shownTexts (partsAt .target later) ++ back, rfl, rfl, own, visible, made.links_clause, ?_⟩
  rw [Statement.render, noLiteral]
  simp only [front, shownTexts_append, targets, List.append_assoc, List.cons_append]

/-- The second join of a chain is linked to a part in front of it, also with a join that fails and
another mention of the first table in between. -/
theorem joins_linked_of_chain :
    let aliases := [("users", "u"), ("orders", "o")]
    let calls := [Call.source "users", .join "orders.user_id" "users.id" { aliases },
      .join "tags.id" "labels.id" { aliases }, .source "users",
      .join "items.order_id" "o.id" { kind := .left, aliases }]
    let statement := Statement.empty.afterCalls .empty calls
    let joined := Join.mk .left "items" none "items.order_id" .equal "o.id"
    (∀ call ∈ calls, call.UsesAliases aliases) ∧ calls <+: calls ∧
      statement.parts = statement.parts.take 3 ++ [⟨.join joined, .target⟩] ∧
      statement.render = "FROM users u INNER JOIN orders o ON o.user_id = u.id FROM users " ++
        "LEFT JOIN items ON items.order_id = o.id" ∧
      ∃ made ∈ madeJoins .empty .empty calls, ∃ provider ∈ statement.parts.take 3, ∃ name,
        provider.visibleName? = some name ∧ made.Links "items" name joined := by
  intro aliases calls statement joined
  have uses : ∀ call ∈ calls, call.UsesAliases aliases := by decide
  have split : statement.parts = statement.parts.take 3 ++ [⟨.join joined, .target⟩] := by
    decide +kernel
  have text : statement.render = "FROM users u INNER JOIN orders o ON o.user_id = u.id " ++
      "FROM users LEFT JOIN items ON items.order_id = o.id" := by decide +kernel
  have linked : ∃ made ∈ madeJoins .empty .empty calls, ∃ provider ∈ statement.parts.take 3,
      ∃ name, provider.visibleName? = some name ∧ made.Links "items" name joined := by
    rcases joins_linked uses (List.prefix_refl calls) _ joined .target [] split with
      ⟨made, member, earlier, provider, between, own, name, _, _, before_eq, own_eq, visible,
        links, _⟩
    rcases Option.some.inj own_eq with rfl
    exact ⟨made, member, provider, by rw [before_eq]; simp, name, visible, links⟩
  exact ⟨uses, List.prefix_refl calls, split, text, linked⟩

end RankedSql

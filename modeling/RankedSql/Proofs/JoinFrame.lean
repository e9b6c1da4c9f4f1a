import RankedSql.Database
import RankedSql.Proofs.RankViews

/-!
# The frame of a join

A join needs little and changes little. Its references must be paths, whose names stand for tables
by the aliases at hand (`StandsFor`), and one of the two sides must be in the statement already.
Then it adds one part at the end, and it may give one table after `FROM` an alias: the first mention
of the target's table or else of the source's table. `Attaches` lists the three ways, and
`Database.step_join_frame` says that a handle does one of them or stays as it is.
-/

namespace RankedSql

/-! ## References -/

/-- The table that a name stands for: that of the first entry with the name as its alias, or the
table of this name if no entry has it. -/
inductive StandsFor (aliases : List (String × String)) (name : String) : String → Prop where
  | listed {table : String} (before after : List (String × String))
      (aliases_eq : aliases = before ++ (table, name) :: after)
      (first : ∀ entry ∈ before, entry.2 ≠ name) : StandsFor aliases name table
  | unlisted (absent : ∀ entry ∈ aliases, entry.2 ≠ name) : StandsFor aliases name name

theorem standsFor_iff {spec : JoinSpec} {name table : String} :
    StandsFor spec.aliases name table ↔ (spec.tableOf? name).getD name = table := by
  constructor
  · intro stands
    cases stands with
    | listed before after aliases_eq first =>
        have found : spec.aliases.find? (fun entry => entry.2 == name) = some (table, name) := by
          apply List.find?_eq_some_iff_append.2
          refine ⟨by simp, before, after, aliases_eq, ?_⟩
          intro entry earlier
          simpa using first entry earlier
        simp [JoinSpec.tableOf?, found]
    | unlisted absent =>
        have missing : spec.aliases.find? (fun entry => entry.2 == name) = none := by
          apply List.find?_eq_none.2
          intro entry member
          simpa using absent entry member
        simp [JoinSpec.tableOf?, missing]
  · intro resolved
    cases found : spec.aliases.find? (fun entry => entry.2 == name) with
    | none =>
        simp only [JoinSpec.tableOf?, found, Option.map_none, Option.getD_none] at resolved
        subst resolved
        apply StandsFor.unlisted
        intro entry member
        simpa using List.find?_eq_none.1 found entry member
    | some entry =>
        rcases entry with ⟨listedTable, listedName⟩
        rcases List.find?_eq_some_iff_append.1 found with ⟨same, before, after, aliases_eq, first⟩
        simp only [beq_iff_eq] at same
        simp only [JoinSpec.tableOf?, found, Option.map_some, Option.getD_some] at resolved
        subst same resolved
        apply StandsFor.listed before after aliases_eq
        intro entry earlier
        simpa using first entry earlier

/-- A side as a reference gives it: the name before the first point stands for its table, which goes
by its first alias, and the column is what is behind the point. -/
inductive JoinSide.ReadFrom (aliases : List (String × String)) : JoinSide → String → Prop where
  | path {name table : String} (column : String) (noPoint : '.' ∉ name.toList)
      (stands : StandsFor aliases name table) :
      ReadFrom aliases ⟨table, aliases.lookup table, column⟩ (name ++ "." ++ column)

theorem JoinSide.resolve_eq_ok_iff {spec : JoinSpec} {reference : String} {side : JoinSide} :
    JoinSide.resolve spec reference = .ok side ↔ side.ReadFrom spec.aliases reference := by
  constructor
  · intro resolved
    unfold JoinSide.resolve at resolved
    split at resolved
    · next path read =>
        rcases Except.ok.inj resolved with rfl
        rcases ColumnPath.ofText?_eq_some_iff.1 read with ⟨rfl, noPoint⟩
        exact .path path.column noPoint (standsFor_iff.2 rfl)
    · cases resolved
  · intro read
    cases read with
    | @path name table column noPoint stands =>
        have split : ColumnPath.ofText? (name ++ "." ++ column) = some ⟨name, column⟩ :=
          ColumnPath.ofText?_eq_some_iff.2 ⟨rfl, noPoint⟩
        simp [JoinSide.resolve, split, JoinSide.ofPath, standsFor_iff.1 stands, JoinSpec.aliasOf?]

/-- A reference that gives a side has a point. -/
theorem JoinSide.ReadFrom.point_mem {aliases : List (String × String)} {side : JoinSide}
    {reference : String} (read : side.ReadFrom aliases reference) : '.' ∈ reference.toList := by
  cases read with
  | path column noPoint stands => simp

/-! ## Tables that are there -/

/-- A part names the table after `FROM`. -/
def NamesAfterFrom (parts : List Part) (table : String) : Prop :=
  ∃ part ∈ parts, ∃ present, part.clause = .source table present

/-- A part joins the table. -/
def JoinsTable (parts : List Part) (table : String) : Prop :=
  ∃ part ∈ parts, ∃ joined, part.clause = .join joined ∧ joined.table = table

variable {parts : List Part} {target source : JoinSide} {table : String}

theorem sourceTable?_eq_some_iff {part : Part} :
    part.sourceTable? = some table ↔ ∃ present, part.clause = .source table present := by
  rcases part with ⟨clause, rank⟩
  cases clause <;> simp [Part.sourceTable?]

theorem joinedTable?_eq_some_iff {part : Part} :
    part.joinedTable? = some table ↔
      ∃ joined, part.clause = .join joined ∧ joined.table = table := by
  rcases part with ⟨clause, rank⟩
  cases clause <;> simp [Part.joinedTable?]

theorem hasSource_iff_namesAfterFrom :
    hasSource parts table = true ↔ NamesAfterFrom parts table := by
  simp [hasSource, NamesAfterFrom, sourceTable?_eq_some_iff]

theorem hasJoin_iff_joinsTable : hasJoin parts table = true ↔ JoinsTable parts table := by
  simp [hasJoin, JoinsTable, joinedTable?_eq_some_iff]

theorem isSome_joinAnchor?_iff :
    (joinAnchor? parts target source).isSome ↔ NamesAfterFrom parts target.table ∨
      NamesAfterFrom parts source.table ∨ JoinsTable parts source.table := by
  simp only [← hasSource_iff_namesAfterFrom, ← hasJoin_iff_joinsTable, joinAnchor?]
  split
  · simp_all
  · split
    · simp_all
    · split <;> simp_all

theorem withAlias?_of_unnamed {part : Part} (unnamed : part.sourceTable? ≠ some table)
    (alias? : Option String) : Clause.withAlias? table alias? part.clause = none := by
  rcases part with ⟨clause, rank⟩
  cases clause with
  | source other present =>
      have different : other ≠ table := by
        rintro rfl
        exact unnamed rfl
      simp [Clause.withAlias?, different]
  | _ => rfl

/-- A table that is named after `FROM` has a first mention there, which is the one that is given an
alias. -/
theorem NamesAfterFrom.exists_first (named : NamesAfterFrom parts table)
    (alias? : Option String) :
    ∃ before present rank after, parts = before ++ ⟨.source table present, rank⟩ :: after ∧
      ¬NamesAfterFrom before table ∧
      fillAlias table alias? parts =
        before ++ ⟨.source table (present.or alias?), rank⟩ :: after := by
  have found : (parts.find? fun part => part.sourceTable? == some table).isSome := by
    rw [List.find?_isSome]
    exact List.any_eq_true.1 (hasSource_iff_namesAfterFrom.2 named)
  rcases Option.isSome_iff_exists.1 found with ⟨part, first⟩
  rcases List.find?_eq_some_iff_append.1 first with ⟨names, before, after, parts_eq, earlier⟩
  rcases sourceTable?_eq_some_iff.1 (beq_iff_eq.1 names) with ⟨present, clause_eq⟩
  rcases part with ⟨clause, rank⟩
  subst clause_eq
  have unnamed : ∀ other ∈ before, other.sourceTable? ≠ some table := by
    intro other member
    simpa using earlier other member
  refine ⟨before, present, rank, after, parts_eq, ?_, ?_⟩
  · rintro ⟨other, member, alias_eq⟩
    exact unnamed other member (sourceTable?_eq_some_iff.2 alias_eq)
  · rw [parts_eq, fillAlias_eq_editFirst]
    apply editFirst_append
    · intro other member
      exact withAlias?_of_unnamed (unnamed other member) alias?
    · simp [Clause.withAlias?]

/-- What a join makes of the parts that are there, and which side it attaches behind them. -/
inductive Attaches (parts : List Part) (target source : JoinSide) :
    JoinSide → List Part → Prop where
  /-- The target's table is named after `FROM`: its first mention there takes the target's alias,
  unless it has one, and the source is attached. -/
  | toTarget (before after : List Part) (present : Option String) (rank : Rank)
      (parts_eq : parts = before ++ ⟨.source target.table present, rank⟩ :: after)
      (first : ¬NamesAfterFrom before target.table) :
      Attaches parts target source source
        (before ++ ⟨.source target.table (present.or target.alias?), rank⟩ :: after)
  /-- Only the source's table is named after `FROM`: its first mention there takes the source's
  alias, unless it has one, and the target is attached. -/
  | toSource (before after : List Part) (present : Option String) (rank : Rank)
      (noTarget : ¬NamesAfterFrom parts target.table)
      (parts_eq : parts = before ++ ⟨.source source.table present, rank⟩ :: after)
      (first : ¬NamesAfterFrom before source.table) :
      Attaches parts target source target
        (before ++ ⟨.source source.table (present.or source.alias?), rank⟩ :: after)
  /-- The source's table is joined and neither table is named after `FROM`: the target is attached,
  and nothing else changes. -/
  | toJoined (noTarget : ¬NamesAfterFrom parts target.table)
      (noSource : ¬NamesAfterFrom parts source.table) (joined : JoinsTable parts source.table) :
      Attaches parts target source target parts

/-- The parts after a join are those that its anchor asks for. -/
theorem attaches_of_joinAnchor? {anchor : JoinAnchor}
    (anchored : joinAnchor? parts target source = some anchor) (spec : JoinSpec) :
    ∃ attached front, Attaches parts target source attached front ∧
      joinParts spec parts target source anchor =
        front ++ [.ofClause (joinClause spec attached target source)] := by
  unfold joinAnchor? at anchored
  split at anchored
  · next present =>
      rcases Option.some.inj anchored with rfl
      have named := hasSource_iff_namesAfterFrom.1 present
      rcases named.exists_first target.alias? with
        ⟨before, known, rank, after, parts_eq, first, filled⟩
      refine ⟨source, _, .toTarget before after known rank parts_eq first, ?_⟩
      rw [joinParts, filled]
  · next absent =>
      have noTarget := mt hasSource_iff_namesAfterFrom.2 absent
      split at anchored
      · next present =>
          rcases Option.some.inj anchored with rfl
          have named := hasSource_iff_namesAfterFrom.1 present
          rcases named.exists_first source.alias? with
            ⟨before, known, rank, after, parts_eq, first, filled⟩
          refine ⟨target, _, .toSource before after known rank noTarget parts_eq first, ?_⟩
          rw [joinParts, filled]
      · next absentSource =>
          have noSource := mt hasSource_iff_namesAfterFrom.2 absentSource
          split at anchored
          · next present =>
              rcases Option.some.inj anchored with rfl
              have joined := hasJoin_iff_joinsTable.1 present
              exact ⟨target, parts, .toJoined noTarget noSource joined, rfl⟩
          · cases anchored

/-! ## The join -/

namespace Statement

variable {statement : Statement} {spec : JoinSpec}

/-- A join succeeds exactly if its references give two sides of which one is anchored. -/
theorem join_eq_ok_iff {joined : Statement} {target source : String} :
    statement.join target source spec = .ok joined ↔
      ∃ targetSide sourceSide : JoinSide, ∃ anchor, targetSide.ReadFrom spec.aliases target ∧
        sourceSide.ReadFrom spec.aliases source ∧
        joinAnchor? statement.parts targetSide sourceSide = some anchor ∧
        joined = ⟨joinParts spec statement.parts targetSide sourceSide anchor,
          statement.literal⟩ := by
  simp only [← JoinSide.resolve_eq_ok_iff]
  constructor
  · intro done
    unfold join at done
    split at done
    · cases done
    · cases done
    · next targetSide sourceSide targetRead sourceRead =>
        split at done
        · next anchor anchored =>
            rcases Except.ok.inj done with rfl
            exact ⟨targetSide, sourceSide, anchor, targetRead, sourceRead, anchored, rfl⟩
        · cases done
  · rintro ⟨targetSide, sourceSide, anchor, targetRead, sourceRead, anchored, rfl⟩
    simp [join, targetRead, sourceRead, anchored]

/-- What a join needs, told from the references, the aliases and the parts. -/
theorem exists_join_iff (statement : Statement) (target source : String) (spec : JoinSpec) :
    (∃ joined, statement.join target source spec = .ok joined) ↔
      '.' ∈ target.toList ∧ '.' ∈ source.toList ∧
        ∃ targetSide sourceSide : JoinSide, targetSide.ReadFrom spec.aliases target ∧
          sourceSide.ReadFrom spec.aliases source ∧
          (NamesAfterFrom statement.parts targetSide.table ∨
            NamesAfterFrom statement.parts sourceSide.table ∨
            JoinsTable statement.parts sourceSide.table) := by
  constructor
  · rintro ⟨joined, done⟩
    rcases join_eq_ok_iff.1 done with
      ⟨targetSide, sourceSide, anchor, targetRead, sourceRead, anchored, _⟩
    refine ⟨targetRead.point_mem, sourceRead.point_mem, targetSide, sourceSide, targetRead,
      sourceRead, ?_⟩
    apply isSome_joinAnchor?_iff.1
    simp [anchored]
  · rintro ⟨_, _, targetSide, sourceSide, targetRead, sourceRead, there⟩
    rcases Option.isSome_iff_exists.1 (isSome_joinAnchor?_iff.2 there) with ⟨anchor, anchored⟩
    exact ⟨_, join_eq_ok_iff.2
      ⟨targetSide, sourceSide, anchor, targetRead, sourceRead, anchored, rfl⟩⟩

/-- What a join that succeeds makes of the statement. -/
theorem exists_of_join {joined : Statement} {target source : String}
    (done : statement.join target source spec = .ok joined) :
    ∃ targetSide sourceSide attached : JoinSide, ∃ front,
      targetSide.ReadFrom spec.aliases target ∧
      sourceSide.ReadFrom spec.aliases source ∧
      Attaches statement.parts targetSide sourceSide attached front ∧
      joined = ⟨front ++ [.ofClause (joinClause spec attached targetSide sourceSide)],
        statement.literal⟩ := by
  rcases join_eq_ok_iff.1 done with
    ⟨targetSide, sourceSide, anchor, targetRead, sourceRead, anchored, rfl⟩
  rcases attaches_of_joinAnchor? anchored spec with ⟨attached, front, attaches, parts_eq⟩
  refine ⟨targetSide, sourceSide, attached, front, targetRead, sourceRead, attaches, ?_⟩
  rw [parts_eq]

end Statement

/-- What a join on a handle comes to. It succeeds exactly if both references have a point and, of
the tables that the names before the points stand for, one of the two is named after `FROM` or the
source's is joined. A join that fails leaves the handle as it is. One that succeeds adds one part at
the end, which compares a column of the target with one of the source, in this order, and attaches
the source if the target's table is named after `FROM` and the target otherwise; of the parts that
are there it changes at most the first mention of the table it hangs on, which takes an alias if it
has none. It leaves the registry and the literal alone and sends nothing. -/
theorem Database.step_join_frame (database : Database) (target source : String) (spec : JoinSpec) :
    let parts := database.pending.parts
    let outcome := database.step (.edit (.call (.join target source spec)))
    ((∃ written, outcome.result = .ok written) ↔
      '.' ∈ target.toList ∧ '.' ∈ source.toList ∧
        ∃ targetSide sourceSide : JoinSide, targetSide.ReadFrom spec.aliases target ∧
          sourceSide.ReadFrom spec.aliases source ∧
          (NamesAfterFrom parts targetSide.table ∨ NamesAfterFrom parts sourceSide.table ∨
            JoinsTable parts sourceSide.table)) ∧
    (∀ error, outcome.result = .error error → outcome = ⟨database, .error error, [], []⟩) ∧
    ∀ written, outcome.result = .ok written →
      ∃ targetSide sourceSide attached : JoinSide, ∃ front,
        targetSide.ReadFrom spec.aliases target ∧
        sourceSide.ReadFrom spec.aliases source ∧
        Attaches parts targetSide sourceSide attached front ∧
        let added : Join :=
          { kind := spec.kind
            table := attached.table
            alias? := attached.alias?
            left := targetSide.operand
            comparison := spec.comparison
            right := sourceSide.operand }
        let pending := ⟨front ++ [.ofClause (.join added)], database.pending.literal⟩
        outcome = ⟨{ database with pending }, .ok none, [], []⟩ := by
  intro parts outcome
  have possible := database.pending.exists_join_iff target source spec
  cases done : database.pending.join target source spec with
  | error error =>
      have outcome_eq : outcome = ⟨database, .error error, [], []⟩ := by
        simp only [outcome, step, Statement.edit, Statement.perform, done]
      rw [done] at possible
      refine ⟨Iff.trans ?_ possible, ?_, ?_⟩
      · simp [outcome_eq]
      · intro other failed
        rw [outcome_eq] at failed ⊢
        rw [Except.error.inj failed]
      · intro written succeeded
        rw [outcome_eq] at succeeded
        cases succeeded
  | ok joined =>
      have outcome_eq : outcome = ⟨{ database with pending := joined }, .ok none, [], []⟩ := by
        simp only [outcome, step, Statement.edit, Statement.perform, done]
      rw [done] at possible
      refine ⟨Iff.trans ?_ possible, ?_, ?_⟩
      · simp [outcome_eq]
      · intro error failed
        rw [outcome_eq] at failed
        cases failed
      · intro written _
        rcases Statement.exists_of_join done with
          ⟨targetSide, sourceSide, attached, front, targetRead, sourceRead, attaches, rfl⟩
        exact ⟨targetSide, sourceSide, attached, front, targetRead, sourceRead, attaches,
          outcome_eq⟩

/-- A join through an alias succeeds and fills the alias in. One whose target is no path fails, and
the handle stays as it is. -/
theorem Database.step_join_frame_of_alias :
    let parts := [Part.ofClause (.projection ["*"]), .ofClause (.source "users" none)]
    let database : Database := ⟨⟨parts, none⟩, .empty, ⟨Nat.repr⟩⟩
    let aliases := [("users", "u")]
    let linked := database.step (.edit (.call (.join "orders.user_id" "u.id" { aliases })))
    let refused := database.step (.edit (.call (.join "posts" "users.id" { aliases })))
    (∃ written, linked.result = .ok written) ∧
      (∃ targetSide sourceSide attached : JoinSide, ∃ front added,
        targetSide.ReadFrom aliases "orders.user_id" ∧ sourceSide.ReadFrom aliases "u.id" ∧
        Attaches parts targetSide sourceSide attached front ∧
        linked.database.pending = ⟨front ++ [.ofClause (.join added)], none⟩) ∧
      linked.database.pending.render =
        "SELECT * FROM users u INNER JOIN orders ON orders.user_id = u.id" ∧
      refused = ⟨database, .error (.badJoin "posts" .notAPath), [], []⟩ := by
  intro parts database aliases linked refused
  rcases database.step_join_frame "orders.user_id" "u.id" { aliases } with ⟨possible, _, frame⟩
  rcases database.step_join_frame "posts" "users.id" { aliases } with ⟨_, unchanged, _⟩
  have succeeds : ∃ written, linked.result = .ok written := by
    refine possible.2 ⟨by decide, by decide, ⟨"orders", none, "user_id"⟩,
      ⟨"users", some "u", "id"⟩, JoinSide.resolve_eq_ok_iff.1 rfl,
      JoinSide.resolve_eq_ok_iff.1 rfl, .inr (.inl ?_)⟩
    exact ⟨.ofClause (.source "users" none), by decide, none, rfl⟩
  rcases succeeds with ⟨written, result⟩
  rcases frame written result with
    ⟨targetSide, sourceSide, attached, front, targetRead, sourceRead, attaches, outcome_eq⟩
  refine ⟨⟨written, result⟩, ⟨targetSide, sourceSide, attached, front, _, targetRead, sourceRead,
    attaches, congrArg (·.database.pending) outcome_eq⟩, by decide +kernel, unchanged _ rfl⟩

end RankedSql

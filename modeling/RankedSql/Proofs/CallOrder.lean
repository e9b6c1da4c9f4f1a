import Mathlib.Data.List.Perm.Basic
import RankedSql.Proofs.FiredParts
import RankedSql.Proofs.RankViews

/-!
# The order of calls

A statement may be composed in any order of its calls, as long as the calls of each rank keep their
order among themselves (`SameByRank`). Most calls only add a part; a join also reads the parts that
are there and may change one, but only parts of its own rank. So the parts of a rank are those that
the calls of that rank alone leave (`Statement.onlyAt_afterCalls`), and a call fails, or does not,
just as it would among the calls of its rank (`filter_outcomes`).

Two such sequences thus compose statements that agree at each rank. Their hooks then do the same
(`Registry.Drafted.rearranged_fire`), and the text is the same (`composed_eq_of_sameByRank`).
-/

namespace RankedSql

/-! ## Ranks of calls -/

namespace Call

/-- The rank of the part that a call adds; a join counts at its rank also if it fails. -/
def rank : Call → Rank
  | .select _ | .insert _ _ | .update _ _ | .delete _ => .projection
  | .source _ | .dropTable _ | .join _ _ _ => .target
  | .condition _ _ _ _ => .filter
  | .orderBy _ _ | .limit _ | .offset _ => .ordering

/-- Whether a call is a join, which reads the parts before it. -/
def isJoin : Call → Bool
  | .join _ _ _ => true
  | _ => false

theorem defaultRank_of_clause? {registry : Registry} {call : Call} {clause : Clause}
    (adds : call.clause? registry = some clause) : clause.defaultRank = call.rank := by
  cases call with
  | join => cases adds
  | _ =>
      rcases Option.some.inj adds with rfl
      rfl

end Call

/-- The calls of one rank. -/
def callsAt (rank : Rank) (calls : List Call) : List Call :=
  calls.filter fun call => call.rank == rank

theorem callsAt_cons_of_eq {rank : Rank} {call : Call} (same : call.rank = rank)
    (calls : List Call) : callsAt rank (call :: calls) = call :: callsAt rank calls := by
  simp [callsAt, same]

theorem callsAt_cons_of_ne {rank : Rank} {call : Call} (different : call.rank ≠ rank)
    (calls : List Call) : callsAt rank (call :: calls) = callsAt rank calls := by
  simp [callsAt, different]

/-- Two sequences with the same calls of each rank in the same order. -/
def SameByRank (left right : List Call) : Prop := ∀ rank, callsAt rank left = callsAt rank right

namespace SameByRank

/-- One sequence is a permutation of the other. -/
theorem perm {left right : List Call} (same : SameByRank left right) : left.Perm right := by
  classical
  apply List.perm_iff_count.2
  intro call
  have atRank : (call.rank == call.rank) = true := beq_self_eq_true _
  have counts (calls : List Call) : (callsAt call.rank calls).count call = calls.count call :=
    List.count_filter (p := fun other : Call => other.rank == call.rank) atRank
  rw [← counts, same, counts]

/-- Neighbours of different ranks may change places. -/
theorem swap {first second : Call} (different : first.rank ≠ second.rank)
    (before after : List Call) :
    SameByRank (before ++ first :: second :: after) (before ++ second :: first :: after) := by
  intro rank
  simp only [callsAt, List.filter_append, List.filter_cons, beq_iff_eq]
  by_cases atFirst : first.rank = rank
  · have notSecond : second.rank ≠ rank := fun eq => different (atFirst.trans eq.symm)
    simp [atFirst, notSecond]
  · simp [atFirst]

end SameByRank

/-! ## Calls among the parts of one rank -/

theorem placed_fillAlias {parts : List Part} (placed : Placed parts) (table : String)
    (alias? : Option String) : Placed (fillAlias table alias? parts) :=
  fillAlias_eq_editFirst table alias? parts ▸
    placed_editFirst placed (editsAt_withAlias? table alias?)

namespace Placed

variable {parts : List Part}

theorem partsAt_fillAlias (placed : Placed parts) (table : String) (alias? : Option String)
    (rank : Rank) :
    partsAt rank (fillAlias table alias? parts) = fillAlias table alias? (partsAt rank parts) := by
  rw [fillAlias_eq_editFirst, fillAlias_eq_editFirst]
  exact placed.partsAt_editFirst (editsAt_withAlias? table alias?) rank

theorem fillAlias_partsAt_of_ne (placed : Placed parts) (table : String) (alias? : Option String)
    {rank : Rank} (away : rank ≠ .target) :
    fillAlias table alias? (partsAt rank parts) = partsAt rank parts := by
  rw [fillAlias_eq_editFirst]
  exact placed.editFirst_partsAt_of_ne (editsAt_withAlias? table alias?) away

/-- The anchor of a join shows among the tables alone. -/
theorem joinAnchor?_partsAt (placed : Placed parts) (target source : JoinSide) :
    joinAnchor? (partsAt .target parts) target source = joinAnchor? parts target source := by
  have sources (table : String) : hasSource (partsAt .target parts) table = hasSource parts table :=
    placed.any_partsAt fun part named => rank_of_sourceTable? part table (beq_iff_eq.1 named)
  have joins (table : String) : hasJoin (partsAt .target parts) table = hasJoin parts table :=
    placed.any_partsAt fun part named => rank_of_joinedTable? part table (beq_iff_eq.1 named)
  simp only [joinAnchor?, sources, joins]

theorem extend (placed : Placed parts) (made : MadeJoin) : Placed (made.extend parts) := by
  rcases made with ⟨spec, targetPath, sourcePath, anchor⟩
  cases anchor with
  | target | source => exact placed_push (placed_fillAlias placed _ _) _
  | joinedSource => exact placed_push placed _

theorem partsAt_extend (placed : Placed parts) (made : MadeJoin) :
    partsAt .target (made.extend parts) = made.extend (partsAt .target parts) := by
  have append (parts : List Part) (joined : Join) :
      partsAt .target (parts ++ [.ofClause (.join joined)]) =
        partsAt .target parts ++ [.ofClause (.join joined)] := partsAt_append ..
  rcases made with ⟨spec, targetPath, sourcePath, anchor⟩
  cases anchor with
  | target | source =>
      exact (append _ _).trans (congrArg (· ++ _) (placed.partsAt_fillAlias _ _ _))
  | joinedSource => exact append _ _

theorem partsAt_extend_of_ne (placed : Placed parts) (made : MadeJoin) {rank : Rank}
    (away : rank ≠ .target) : partsAt rank (made.extend parts) = partsAt rank parts := by
  have append (parts : List Part) (joined : Join) :
      partsAt rank (parts ++ [.ofClause (.join joined)]) = partsAt rank parts := by
    rw [partsAt_append, partsAt_singleton_of_ne (Ne.symm away), List.append_nil]
  rcases made with ⟨spec, targetPath, sourcePath, anchor⟩
  cases anchor with
  | target | source =>
      refine (append _ _).trans ((placed.partsAt_fillAlias _ _ rank).trans ?_)
      exact placed.fillAlias_partsAt_of_ne _ _ away
  | joinedSource => exact append _ _

end Placed

namespace Statement

/-- The statement with the parts of one rank only. -/
def onlyAt (rank : Rank) (statement : Statement) : Statement :=
  { statement with parts := partsAt rank statement.parts }

variable {statement : Statement}

theorem madeJoin?_onlyAt (placed : Placed statement.parts) (target source : String)
    (spec : JoinSpec) :
    (statement.onlyAt .target).madeJoin? target source spec =
      statement.madeJoin? target source spec := by
  unfold madeJoin?
  split
  · rw [onlyAt, placed.joinAnchor?_partsAt]
  · rfl

theorem placed_afterEdit (placed : Placed statement.parts) (registry : Registry) (call : Call) :
    Placed (statement.afterEdit registry (.call call)).parts := by
  cases adds : call.clause? registry with
  | some clause =>
      rw [afterEdit_of_clause? adds]
      exact placed_push placed clause
  | none =>
      cases call with
      | join target source spec =>
          rw [afterEdit_join]
          split
          · exact placed.extend _
          · exact placed
      | _ => cases adds

/-- A call leaves the parts of its rank as it would if there were no others. -/
theorem onlyAt_afterEdit (placed : Placed statement.parts) (registry : Registry) (call : Call) :
    (statement.afterEdit registry (.call call)).onlyAt call.rank =
      (statement.onlyAt call.rank).afterEdit registry (.call call) := by
  cases adds : call.clause? registry with
  | some clause =>
      have sameRank := Call.defaultRank_of_clause? adds
      rw [afterEdit_of_clause? adds, afterEdit_of_clause? adds, onlyAt, push, partsAt_append,
        partsAt_singleton_of_eq sameRank]
      rfl
  | none =>
      cases call with
      | join target source spec =>
          rw [afterEdit_join, afterEdit_join, Call.rank, madeJoin?_onlyAt placed]
          split
          · rw [onlyAt, placed.partsAt_extend]
            rfl
          · rfl
      | _ => cases adds

/-- A call leaves the parts of all other ranks alone. -/
theorem onlyAt_afterEdit_of_ne (placed : Placed statement.parts) (registry : Registry)
    {call : Call} {rank : Rank} (different : call.rank ≠ rank) :
    (statement.afterEdit registry (.call call)).onlyAt rank = statement.onlyAt rank := by
  cases adds : call.clause? registry with
  | some clause =>
      have away : (Part.ofClause clause).rank ≠ rank :=
        fun eq => different ((Call.defaultRank_of_clause? adds).symm.trans eq)
      rw [afterEdit_of_clause? adds, onlyAt, push, partsAt_append, partsAt_singleton_of_ne away,
        List.append_nil]
      rfl
  | none =>
      cases call with
      | join target source spec =>
          rw [afterEdit_join]
          split
          · rw [onlyAt, placed.partsAt_extend_of_ne _ (Ne.symm different)]
            rfl
          · rfl
      | _ => cases adds

theorem placed_afterCalls (placed : Placed statement.parts) (registry : Registry)
    (calls : List Call) : Placed (statement.afterCalls registry calls).parts := by
  induction calls generalizing statement with
  | nil => exact placed
  | cons call rest ih => exact ih (placed_afterEdit placed registry call)

/-- The parts of a rank are those that the calls of that rank alone leave. -/
theorem onlyAt_afterCalls (placed : Placed statement.parts) (registry : Registry)
    (calls : List Call) (rank : Rank) :
    (statement.afterCalls registry calls).onlyAt rank =
      (statement.onlyAt rank).afterCalls registry (callsAt rank calls) := by
  -- A call of another rank changes nothing that the rank sees, so both runs skip it; that the parts
  -- stay placed is what lets the next call be split off in the same way.
  induction calls generalizing statement with
  | nil => rfl
  | cons call rest ih =>
      rw [afterCalls_cons, ih (placed_afterEdit placed registry call)]
      by_cases same : call.rank = rank
      · rw [callsAt_cons_of_eq same, afterCalls_cons, ← same, onlyAt_afterEdit placed]
      · rw [callsAt_cons_of_ne same, onlyAt_afterEdit_of_ne placed registry same]

/-! ## Calls that fail -/

/-- The error with which a call fails. -/
def failure? (registry : Registry) (statement : Statement) (call : Call) : Option Error :=
  match statement.perform registry call with
  | .ok _ => none
  | .error error => some error

theorem failure?_onlyAt (placed : Placed statement.parts) (registry : Registry) (call : Call) :
    (statement.onlyAt call.rank).failure? registry call = statement.failure? registry call := by
  cases call with
  | join target source spec =>
      simp only [failure?, perform, join, Call.rank, onlyAt, placed.joinAnchor?_partsAt]
      cases JoinSide.resolve spec target with
      | error => rfl
      | ok target =>
          cases JoinSide.resolve spec source with
          | error => rfl
          | ok source =>
              simp only
              cases joinAnchor? statement.parts target source with
              | none => rfl
              | some anchor => rfl
  | _ => rfl

end Statement

/-- The calls of a sequence, each with the error with which it fails. -/
def outcomes (registry : Registry) : Statement → List Call → List (Call × Option Error)
  | _, [] => []
  | statement, call :: rest =>
      (call, statement.failure? registry call) ::
        outcomes registry (statement.afterEdit registry (.call call)) rest

/-- The joins of a sequence of calls, each with the error with which it fails. -/
def joinOutcomes (registry : Registry) (calls : List Call) : List (Call × Option Error) :=
  (outcomes registry .empty calls).filter (·.1.isJoin)

/-- Among the calls of its rank alone, each call fails with the same error. -/
theorem filter_outcomes {statement : Statement} (placed : Placed statement.parts)
    (registry : Registry) (calls : List Call) (rank : Rank) :
    ((outcomes registry statement calls).filter fun outcome => outcome.1.rank == rank) =
      outcomes registry (statement.onlyAt rank) (callsAt rank calls) := by
  induction calls generalizing statement with
  | nil => rfl
  | cons call rest ih =>
      have later := ih (Statement.placed_afterEdit placed registry call)
      by_cases same : call.rank = rank
      · rw [callsAt_cons_of_eq same, outcomes, outcomes, List.filter_cons,
          if_pos (beq_iff_eq.2 same), later, ← same, Statement.failure?_onlyAt placed,
          Statement.onlyAt_afterEdit placed]
      · rw [callsAt_cons_of_ne same, outcomes, List.filter_cons,
          if_neg (fun eq => same (beq_iff_eq.1 eq)), later,
          Statement.onlyAt_afterEdit_of_ne placed registry same]

theorem Call.rank_of_isJoin {call : Call} (joins : call.isJoin = true) : call.rank = .target := by
  cases call with
  | join => rfl
  | _ => cases joins

theorem joinOutcomes_eq_callsAt (registry : Registry) (calls : List Call) :
    joinOutcomes registry calls = joinOutcomes registry (callsAt .target calls) := by
  -- Joins are calls of one rank, so they can be picked among the calls of that rank.
  have among : joinOutcomes registry calls =
      ((outcomes registry .empty calls).filter (·.1.rank == .target)).filter (·.1.isJoin) := by
    rw [List.filter_filter, joinOutcomes]
    apply List.filter_congr
    intro outcome _
    cases joins : outcome.1.isJoin with
    | false => rfl
    | true => simp [Call.rank_of_isJoin joins]
  rw [among, filter_outcomes placed_nil]
  rfl

/-! ## Rearranged calls -/

theorem SameByRank.rearranged {left right : List Call} (same : SameByRank left right)
    (registry : Registry) :
    Rearranged (Statement.empty.afterCalls registry left).parts
      (Statement.empty.afterCalls registry right).parts where
  placed := Statement.placed_afterCalls placed_nil registry left
  placedRight := Statement.placed_afterCalls placed_nil registry right
  partsAt_eq rank := by
    have start : Placed Statement.empty.parts := placed_nil
    have onlyAt_eq (calls : List Call) := Statement.onlyAt_afterCalls start registry calls rank
    exact congrArg (·.parts) ((onlyAt_eq left).trans (same rank ▸ (onlyAt_eq right).symm))

/-- On a drafted registry, the hooks of statements that agree at each rank belong to the same phase,
draw the same identifiers, and leave statements that agree at each rank. -/
theorem Registry.Drafted.rearranged_fire {registry : Registry} (drafted : registry.Drafted)
    {left right : Statement} (literal_eq : left.literal = right.literal)
    (rearranged : Rearranged left.parts right.parts) (supply : IdentifierSupply) :
    let fired := registry.fire supply left
    let firedRight := registry.fire supply right
    fired.phase = firedRight.phase ∧ fired.identifiers = firedRight.identifiers ∧
      Rearranged fired.statement.parts firedRight.statement.parts := by
  unfold fire
  rw [literal_eq, rearranged.statementPhase?_eq]
  split
  · next phase table _ found =>
      have state : HookState.Rearranged ⟨left.parts, supply, []⟩ ⟨right.parts, supply, []⟩ :=
        ⟨rearranged, rfl⟩
      have hooksDrafted : ∀ hook ∈ registry.hooksFor phase table, hook.DraftedFor phase :=
        fun _ => drafted.draftedFor_of_mem_hooksFor
      have final := state.runHooks hooksDrafted
      rw [← drafted.runPhase_eq phase table, ← drafted.runPhase_eq phase table] at final
      exact ⟨rfl, final.identifiers_eq, final.parts⟩
  · exact ⟨rfl, rfl, rearranged⟩

/-- The order of calls matters inside a rank only. Sequences with the same calls of each rank in the
same order fail at the same joins with the same errors, fire the hooks of the same phase and table,
and come to the same text, on which the guard decides alike. -/
theorem composed_eq_of_sameByRank {registry : Registry} (drafted : registry.Drafted)
    {left right : List Call} (same : SameByRank left right) (supply : IdentifierSupply) :
    let composed (calls : List Call) := Statement.empty.afterCalls registry calls
    joinOutcomes registry left = joinOutcomes registry right ∧
      statementPhase? (composed left).parts = statementPhase? (composed right).parts ∧
      (registry.fire supply (composed left)).phase =
        (registry.fire supply (composed right)).phase ∧
      composedSql registry supply left = composedSql registry supply right ∧
      Guard.validate (composedSql registry supply left) =
        Guard.validate (composedSql registry supply right) := by
  intro composed
  have rearranged := same.rearranged registry
  have literal_eq : (composed left).literal = (composed right).literal :=
    (Statement.empty.literal_afterCalls registry left).trans
      (Statement.empty.literal_afterCalls registry right).symm
  rcases drafted.rearranged_fire literal_eq rearranged supply with ⟨phase_eq, _, fired⟩
  have joins_eq : joinOutcomes registry left = joinOutcomes registry right := by
    rw [joinOutcomes_eq_callsAt, same, ← joinOutcomes_eq_callsAt]
  have sql_eq : composedSql registry supply left = composedSql registry supply right := by
    rw [render_fire_afterCalls, render_fire_afterCalls]
    exact fired.renderParts_eq
  exact ⟨joins_eq, rearranged.statementPhase?_eq, phase_eq, sql_eq, congrArg _ sql_eq⟩

/-- An update that is composed from its condition backwards touches its row all the same, and the
first of its joins fails in either order. -/
theorem composed_eq_of_condition_first :
    let registry :=
      (Statement.empty.createTableWith .empty "notes" [.uuid "id", .timestamps]).registry
    let calls := [Call.update "notes" [("body", .text "x")], .source "users",
      .join "tags.id" "labels.id" {}, .join "notes.author" "users.id" {},
      .condition "age" .atLeast (.int 18) false]
    let reordered := [Call.condition "age" .atLeast (.int 18) false, .source "users",
      .join "tags.id" "labels.id" {}, .update "notes" [("body", .text "x")],
      .join "notes.author" "users.id" {}]
    registry.Drafted ∧ SameByRank calls reordered ∧
      (joinOutcomes registry reordered).map Prod.snd =
        [some (.badJoin "tags.id" (.unanchored "tags" "labels")), none] ∧
      statementPhase? (Statement.empty.afterCalls registry reordered).parts =
        some (.beforeUpdate, "notes") ∧
      composedSql registry ⟨Nat.repr⟩ reordered =
        "UPDATE notes SET body = \"x\", updated_at = CURRENT_TIMESTAMP FROM users " ++
          "INNER JOIN notes ON notes.author = users.id WHERE age >= 18" := by
  intro registry calls reordered
  have drafted : registry.Drafted := Registry.drafted_empty.createTableWith _ _ _
  have same : SameByRank calls reordered := fun rank => by cases rank <;> rfl
  rcases composed_eq_of_sameByRank drafted same ⟨Nat.repr⟩ with ⟨joins_eq, phase_eq, _, sql_eq, _⟩
  rw [← joins_eq, ← phase_eq, ← sql_eq]
  refine ⟨drafted, same, ?_, ?_, ?_⟩ <;> decide +kernel

end RankedSql

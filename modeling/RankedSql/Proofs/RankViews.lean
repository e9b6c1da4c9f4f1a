import RankedSql.Proofs.ComposedParts
import RankedSql.Proofs.DraftedHooks
import RankedSql.Proofs.RankOrder

/-!
# Parts of one rank

Calls leave each part at the rank of its clause (`Placed`). Of such parts, whatever looks for a
clause of some kind, and whatever edits the first one, needs to see one rank only: the search gives
the same among the parts of that rank (`Placed.findSome?_partsAt`), and the edit commutes with
taking the parts of any rank (`Placed.partsAt_editFirst`).

So two lists that have the same parts at each rank are one to the hooks of table definitions
(`Rearranged.runHooks`) and in the text (`Rearranged.renderParts_eq`).
-/

namespace RankedSql

/-- Every part stands at the rank of its clause. -/
def Placed (parts : List Part) : Prop := ∀ part ∈ parts, part.rank = part.clause.defaultRank

theorem partsAt_append (rank : Rank) (left right : List Part) :
    partsAt rank (left ++ right) = partsAt rank left ++ partsAt rank right :=
  List.filter_append left right

theorem partsAt_singleton_of_eq {rank : Rank} {part : Part} (same : part.rank = rank) :
    partsAt rank [part] = [part] := partsAt_cons_of_eq same []

theorem partsAt_singleton_of_ne {rank : Rank} {part : Part} (different : part.rank ≠ rank) :
    partsAt rank [part] = [] := partsAt_cons_of_ne different []

/-! ## Edits of one clause -/

/-- An edit of clauses of one rank, which they keep. -/
def EditsAt (home : Rank) (edit? : Clause → Option Clause) : Prop :=
  ∀ clause edited, edit? clause = some edited →
    clause.defaultRank = home ∧ edited.defaultRank = home

theorem editsAt_withAlias? (table : String) (alias? : Option String) :
    EditsAt .target (Clause.withAlias? table alias?) := by
  intro clause edited found
  cases clause with
  | source other present =>
      simp only [Clause.withAlias?] at found
      split at found
      · rcases Option.some.inj found with rfl
        exact ⟨rfl, rfl⟩
      · cases found
  | _ => cases found

theorem editsAt_withRow? (edit : Insertion → Insertion) :
    EditsAt .projection (Clause.withRow? edit) := by
  intro clause edited found
  cases clause with
  | insertion row =>
      rcases Option.some.inj found with rfl
      exact ⟨rfl, rfl⟩
  | _ => cases found

theorem editsAt_withUpdate? (edit : Update → Update) :
    EditsAt .projection (Clause.withUpdate? edit) := by
  intro clause edited found
  cases clause with
  | update change =>
      rcases Option.some.inj found with rfl
      exact ⟨rfl, rfl⟩
  | _ => cases found

variable {parts : List Part} {home : Rank} {edit? : Clause → Option Clause}

theorem placed_nil : Placed [] := nofun

theorem placed_push (placed : Placed parts) (clause : Clause) :
    Placed (parts ++ [.ofClause clause]) :=
  List.forall_mem_append.2 ⟨placed, List.forall_mem_singleton.2 rfl⟩

theorem placed_partsAt (placed : Placed parts) (rank : Rank) : Placed (partsAt rank parts) :=
  fun part member => placed part (List.mem_filter.1 member).1

theorem placed_editFirst (placed : Placed parts) (edits : EditsAt home edit?) :
    Placed (editFirst edit? parts) := by
  induction parts with
  | nil => exact List.forall_mem_nil _
  | cons part rest ih =>
      rcases List.forall_mem_cons.1 placed with ⟨head, tail⟩
      unfold editFirst
      split
      · next edited found =>
          rcases edits _ _ found with ⟨atHome, staysHome⟩
          exact List.forall_mem_cons.2 ⟨head.trans (atHome.trans staysHome.symm), tail⟩
      · exact List.forall_mem_cons.2 ⟨head, ih tail⟩

namespace Placed

/-- At other ranks there is nothing for an edit to do. -/
theorem editFirst_partsAt_of_ne (placed : Placed parts) (edits : EditsAt home edit?)
    {rank : Rank} (away : rank ≠ home) :
    editFirst edit? (partsAt rank parts) = partsAt rank parts := by
  apply editFirst_of_forall_none
  intro part member
  cases found : edit? part.clause with
  | none => rfl
  | some edited =>
      have atRank := (placed_partsAt placed rank part member).symm.trans
        (rank_of_mem_partsAt member)
      exact absurd (atRank.symm.trans (edits _ _ found).1) away

/-- An edit of the first clause of a kind commutes with taking the parts of a rank. -/
theorem partsAt_editFirst (placed : Placed parts) (edits : EditsAt home edit?) (rank : Rank) :
    partsAt rank (editFirst edit? parts) = editFirst edit? (partsAt rank parts) := by
  induction parts with
  | nil => rfl
  | cons part rest ih =>
      rcases List.forall_mem_cons.1 placed with ⟨head, tail⟩
      have restPlaced : Placed rest := tail
      cases found : edit? part.clause with
      | some edited =>
          have edited_eq (rest : List Part) :
              editFirst edit? (part :: rest) = { part with clause := edited } :: rest := by
            simp only [editFirst, found]
          have partHome : part.rank = home := head.trans (edits _ _ found).1
          rw [edited_eq]
          by_cases same : part.rank = rank
          · rw [partsAt_cons_of_eq same, edited_eq]
            exact @partsAt_cons_of_eq rank ⟨edited, part.rank⟩ same rest
          · rw [partsAt_cons_of_ne same, restPlaced.editFirst_partsAt_of_ne edits
              fun eq => same (partHome.trans eq.symm)]
            exact @partsAt_cons_of_ne rank ⟨edited, part.rank⟩ same rest
      | none =>
          have kept (rest : List Part) :
              editFirst edit? (part :: rest) = part :: editFirst edit? rest := by
            simp only [editFirst, found]
          rw [kept]
          by_cases same : part.rank = rank
          · rw [partsAt_cons_of_eq same, partsAt_cons_of_eq same, kept, ih restPlaced]
          · rw [partsAt_cons_of_ne same, partsAt_cons_of_ne same, ih restPlaced]

/-! ## Searches for one kind of clause -/

theorem findSome?_partsAt {α : Type} {select : Part → Option α} (placed : Placed parts)
    (atHome : ∀ part found, select part = some found → part.clause.defaultRank = home) :
    (partsAt home parts).findSome? select = parts.findSome? select := by
  induction parts with
  | nil => rfl
  | cons part rest ih =>
      rcases List.forall_mem_cons.1 placed with ⟨head, tail⟩
      by_cases same : part.rank = home
      · rw [partsAt_cons_of_eq same, List.findSome?_cons, List.findSome?_cons, ih tail]
      · have unselected : select part = none := by
          cases found : select part with
          | none => rfl
          | some value => exact absurd (head.trans (atHome part value found)) same
        rw [partsAt_cons_of_ne same, List.findSome?_cons, unselected, ih tail]

theorem any_partsAt {test : Part → Bool} (placed : Placed parts)
    (atHome : ∀ part, test part = true → part.clause.defaultRank = home) :
    (partsAt home parts).any test = parts.any test := by
  rw [Bool.eq_iff_iff, List.any_eq_true, List.any_eq_true]
  constructor
  · rintro ⟨part, member, holds⟩
    exact ⟨part, (List.mem_filter.1 member).1, holds⟩
  · rintro ⟨part, member, holds⟩
    have rank := (placed part member).trans (atHome part holds)
    exact ⟨part, List.mem_filter.2 ⟨member, beq_iff_eq.2 rank⟩, holds⟩

end Placed

/-! ## The kinds of clauses and their ranks -/

theorem rank_of_writePhase? (part : Part) (found : Phase × String)
    (writes : part.writePhase? = some found) : part.clause.defaultRank = .projection := by
  rcases part with ⟨clause, rank⟩
  cases clause with
  | insertion | update => rfl
  | _ => cases writes

theorem rank_of_insertion? (part : Part) (row : Insertion) (found : part.insertion? = some row) :
    part.clause.defaultRank = .projection := by
  rcases part with ⟨clause, rank⟩
  cases clause with
  | insertion => rfl
  | _ => cases found

theorem rank_of_update? (part : Part) (change : Update) (found : part.update? = some change) :
    part.clause.defaultRank = .projection := by
  rcases part with ⟨clause, rank⟩
  cases clause with
  | update => rfl
  | _ => cases found

theorem rank_of_isProjection (part : Part) (holds : part.isProjection = true) :
    part.clause.defaultRank = .projection := by
  rcases part with ⟨clause, rank⟩
  cases clause with
  | projection => rfl
  | _ => cases holds

theorem rank_of_sourceTable? (part : Part) (table : String)
    (found : part.sourceTable? = some table) : part.clause.defaultRank = .target := by
  rcases part with ⟨clause, rank⟩
  cases clause with
  | source => rfl
  | _ => cases found

theorem rank_of_joinedTable? (part : Part) (table : String)
    (found : part.joinedTable? = some table) : part.clause.defaultRank = .target := by
  rcases part with ⟨clause, rank⟩
  cases clause with
  | join => rfl
  | _ => cases found

theorem rank_of_condition? (part : Part) (holds : part.condition?.isSome = true) :
    part.clause.defaultRank = .filter := by
  rcases part with ⟨clause, rank⟩
  cases clause with
  | condition => rfl
  | _ => cases holds

/-! ## Lists that agree at each rank -/

/-- Two lists of parts with the same parts of each rank in the same order. -/
structure Rearranged (left right : List Part) : Prop where
  placed : Placed left
  placedRight : Placed right
  partsAt_eq : ∀ rank, partsAt rank left = partsAt rank right

namespace Rearranged

variable {left right : List Part}

theorem renderParts_eq (rearranged : Rearranged left right) :
    renderParts left = renderParts right := by
  simp only [renderParts, sortByRank_eq_flatMap, rearranged.partsAt_eq]

theorem findSome?_eq {α : Type} {select : Part → Option α} (rearranged : Rearranged left right)
    (atHome : ∀ part found, select part = some found → part.clause.defaultRank = home) :
    left.findSome? select = right.findSome? select := by
  rw [← rearranged.placed.findSome?_partsAt atHome, rearranged.partsAt_eq,
    rearranged.placedRight.findSome?_partsAt atHome]

theorem any_eq {test : Part → Bool} (rearranged : Rearranged left right)
    (atHome : ∀ part, test part = true → part.clause.defaultRank = home) :
    left.any test = right.any test := by
  rw [← rearranged.placed.any_partsAt atHome, rearranged.partsAt_eq,
    rearranged.placedRight.any_partsAt atHome]

theorem editFirst (rearranged : Rearranged left right) (edits : EditsAt home edit?) :
    Rearranged (editFirst edit? left) (editFirst edit? right) where
  placed := placed_editFirst rearranged.placed edits
  placedRight := placed_editFirst rearranged.placedRight edits
  partsAt_eq rank := by
    rw [rearranged.placed.partsAt_editFirst edits, rearranged.placedRight.partsAt_editFirst edits,
      rearranged.partsAt_eq]

theorem statementPhase?_eq (rearranged : Rearranged left right) :
    statementPhase? left = statementPhase? right := by
  simp only [statementPhase?, rearranged.findSome?_eq rank_of_writePhase?,
    rearranged.any_eq rank_of_isProjection, rearranged.findSome?_eq rank_of_sourceTable?]

theorem touchParts (rearranged : Rearranged left right) :
    Rearranged (touchParts left) (touchParts right) := by
  unfold RankedSql.touchParts firstUpdate?
  rw [rearranged.any_eq rank_of_condition?, rearranged.findSome?_eq rank_of_update?]
  split
  · split
    · split
      · exact rearranged
      · simp only [editFirstUpdate_eq_editFirst]
        exact rearranged.editFirst (editsAt_withUpdate? _)
    · exact rearranged
  · exact rearranged

end Rearranged

/-! ## Hooks -/

/-- Two states that hooks cannot tell apart. -/
structure HookState.Rearranged (left right : HookState) : Prop where
  parts : RankedSql.Rearranged left.parts right.parts
  identifiers_eq : left.identifiers = right.identifiers

/-- A drafted hook does the same to two lists that agree at each rank, and draws the same
identifiers. -/
theorem HookState.Rearranged.run {left right : HookState} (rearranged : left.Rearranged right)
    {phase : Phase} {hook : Hook} (drafted : hook.DraftedFor phase) :
    (hook.run left).Rearranged (hook.run right) := by
  cases drafted with
  | touchUpdatedAt => exact ⟨rearranged.parts.touchParts, rearranged.identifiers_eq⟩
  | generatedIdentifier column =>
      have sameRow : firstInsertion? left.parts = firstInsertion? right.parts :=
        rearranged.parts.findSome?_eq rank_of_insertion?
      simp only [Hook.run, sameRow, rearranged.identifiers_eq]
      split
      · split
        · exact rearranged
        · simp only [editFirstInsertion_eq_editFirst]
          exact ⟨rearranged.parts.editFirst (editsAt_withRow? _), rfl⟩
      · exact rearranged

theorem HookState.Rearranged.runHooks {left right : HookState} (rearranged : left.Rearranged right)
    {phase : Phase} {hooks : List Hook} (drafted : ∀ hook ∈ hooks, hook.DraftedFor phase) :
    (runHooks hooks left).Rearranged (runHooks hooks right) := by
  induction hooks generalizing left right with
  | nil => exact rearranged
  | cons hook rest ih =>
      rcases List.forall_mem_cons.1 drafted with ⟨draftedHook, draftedRest⟩
      exact ih (rearranged.run draftedHook) draftedRest

end RankedSql

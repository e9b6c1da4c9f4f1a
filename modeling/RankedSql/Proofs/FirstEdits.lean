import RankedSql.Hook
import RankedSql.Statement.Join

/-!
# Edits of the first clause of a kind

Joins give the first mention of a table an alias, and hooks extend the first row or the first
update. These are one operation, `editFirst`, with three edits of clauses. Where the edit first
applies, it is made, and nothing else changes (`editFirst_append`).
-/

namespace RankedSql

/-- Edits the first part with a clause that the edit applies to. -/
def editFirst (edit? : Clause → Option Clause) : List Part → List Part
  | [] => []
  | part :: rest =>
      match edit? part.clause with
      | some clause => { part with clause } :: rest
      | none => part :: editFirst edit? rest

/-- The clause with an alias filled in, if it names the table after `FROM`. -/
def Clause.withAlias? (table : String) (alias? : Option String) : Clause → Option Clause
  | .source other present =>
      if other = table then some (.source other (present.or alias?)) else none
  | _ => none

/-- The clause with its inserted row changed, if it is one. -/
def Clause.withRow? (edit : Insertion → Insertion) : Clause → Option Clause
  | .insertion row => some (.insertion (edit row))
  | _ => none

/-- The clause with its update changed, if it is one. -/
def Clause.withUpdate? (edit : Update → Update) : Clause → Option Clause
  | .update change => some (.update (edit change))
  | _ => none

theorem fillAlias_eq_editFirst (table : String) (alias? : Option String) (parts : List Part) :
    fillAlias table alias? parts = editFirst (Clause.withAlias? table alias?) parts := by
  induction parts with
  | nil => rfl
  | cons part rest ih =>
      rcases part with ⟨clause, rank⟩
      cases clause with
      | source other present =>
          by_cases same : other = table <;>
            simp [fillAlias, editFirst, Clause.withAlias?, same, ih]
      | _ => exact congrArg _ ih

theorem editFirstInsertion_eq_editFirst (edit : Insertion → Insertion) (parts : List Part) :
    editFirstInsertion edit parts = editFirst (Clause.withRow? edit) parts := by
  induction parts with
  | nil => rfl
  | cons part rest ih =>
      rcases part with ⟨clause, rank⟩
      cases clause with
      | insertion row => rfl
      | _ => exact congrArg _ ih

theorem editFirstUpdate_eq_editFirst (edit : Update → Update) (parts : List Part) :
    editFirstUpdate edit parts = editFirst (Clause.withUpdate? edit) parts := by
  induction parts with
  | nil => rfl
  | cons part rest ih =>
      rcases part with ⟨clause, rank⟩
      cases clause with
      | update change => rfl
      | _ => exact congrArg _ ih

theorem editFirst_of_forall_none {edit? : Clause → Option Clause} {parts : List Part}
    (unedited : ∀ part ∈ parts, edit? part.clause = none) : editFirst edit? parts = parts := by
  induction parts with
  | nil => rfl
  | cons part rest ih =>
      rcases List.forall_mem_cons.1 unedited with ⟨head, tail⟩
      simp only [editFirst, head, ih tail]

/-- The edit is made where it first applies. -/
theorem editFirst_append {edit? : Clause → Option Clause} {before : List Part}
    (unedited : ∀ part ∈ before, edit? part.clause = none) {clause edited : Clause}
    (edits : edit? clause = some edited) (rank : Rank) (after : List Part) :
    editFirst edit? (before ++ ⟨clause, rank⟩ :: after) = before ++ ⟨edited, rank⟩ :: after := by
  induction before with
  | nil => simp [editFirst, edits]
  | cons part rest ih =>
      rcases List.forall_mem_cons.1 unedited with ⟨head, tail⟩
      simp [editFirst, head, ih tail]

/-! ## Rows and updates -/

theorem Part.withRow?_of_insertion? (part : Part) (noRow : part.insertion? = none)
    (edit : Insertion → Insertion) : part.clause.withRow? edit = none := by
  rcases part with ⟨clause, rank⟩
  cases clause with
  | insertion => cases noRow
  | _ => rfl

theorem Part.withUpdate?_of_update? (part : Part) (noUpdate : part.update? = none)
    (edit : Update → Update) : part.clause.withUpdate? edit = none := by
  rcases part with ⟨clause, rank⟩
  cases clause with
  | update => cases noUpdate
  | _ => rfl

theorem editFirstInsertion_append (edit : Insertion → Insertion) {before : List Part}
    (clear : ∀ part ∈ before, part.insertion? = none) (row : Insertion) (rank : Rank)
    (after : List Part) :
    editFirstInsertion edit (before ++ ⟨.insertion row, rank⟩ :: after) =
      before ++ ⟨.insertion (edit row), rank⟩ :: after := by
  rw [editFirstInsertion_eq_editFirst]
  apply editFirst_append
  · intro part member
    exact part.withRow?_of_insertion? (clear part member) edit
  · rfl

theorem editFirstUpdate_append (edit : Update → Update) {before : List Part}
    (clear : ∀ part ∈ before, part.update? = none) (change : Update) (rank : Rank)
    (after : List Part) :
    editFirstUpdate edit (before ++ ⟨.update change, rank⟩ :: after) =
      before ++ ⟨.update (edit change), rank⟩ :: after := by
  rw [editFirstUpdate_eq_editFirst]
  apply editFirst_append
  · intro part member
    exact part.withUpdate?_of_update? (clear part member) edit
  · rfl

end RankedSql

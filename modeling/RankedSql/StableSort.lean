/-!
# Stable sorting

Insertion sort under a Boolean order. `stableSort` only rearranges its input (`perm_stableSort`).
The result is in order (`pairwise_stableSort`), and elements that the order does not tell apart keep
their places among each other (`filter_stableSort`).
-/

namespace RankedSql

variable {α : Type}

/-- Puts an element in front of the first element that it does not exceed. -/
def insertBy (le : α → α → Bool) (element : α) : List α → List α
  | [] => [element]
  | head :: tail =>
      if le element head then element :: head :: tail else head :: insertBy le element tail

/-- Sorts a list; elements that compare equal in both directions keep their order. -/
def stableSort (le : α → α → Bool) : List α → List α
  | [] => []
  | head :: tail => insertBy le head (stableSort le tail)

theorem perm_insertBy (le : α → α → Bool) (element : α) (list : List α) :
    (insertBy le element list).Perm (element :: list) := by
  induction list with
  | nil => exact .refl _
  | cons head tail ih =>
      unfold insertBy
      split
      · exact .refl _
      · exact (ih.cons head).trans (.swap element head tail)

theorem perm_stableSort (le : α → α → Bool) (list : List α) : (stableSort le list).Perm list := by
  induction list with
  | nil => exact .refl _
  | cons head tail ih => exact (perm_insertBy le head _).trans (ih.cons head)

@[simp]
theorem mem_stableSort {le : α → α → Bool} {element : α} {list : List α} :
    element ∈ stableSort le list ↔ element ∈ list :=
  (perm_stableSort le list).mem_iff

section Order

variable {le : α → α → Bool}
  (total : ∀ left right, le left right = true ∨ le right left = true)
  (trans : ∀ first second third, le first second = true → le second third = true →
    le first third = true)

include total trans

theorem pairwise_insertBy (element : α) {list : List α}
    (sorted : list.Pairwise fun left right => le left right = true) :
    (insertBy le element list).Pairwise fun left right => le left right = true := by
  induction list with
  | nil => exact List.pairwise_singleton _ _
  | cons head tail ih =>
      rcases List.pairwise_cons.1 sorted with ⟨headLe, sortedTail⟩
      unfold insertBy
      split
      · next elementLe =>
          refine List.pairwise_cons.2 ⟨List.forall_mem_cons.2 ⟨elementLe, ?_⟩, sorted⟩
          exact fun other member => trans element head other elementLe (headLe other member)
      · next notLe =>
          refine List.pairwise_cons.2 ⟨fun other member => ?_, ih sortedTail⟩
          rcases List.mem_cons.1 ((perm_insertBy le element tail).mem_iff.1 member) with
            rfl | member
          · exact (total head other).resolve_right notLe
          · exact headLe other member

/-- A sorted list is in order. -/
theorem pairwise_stableSort (list : List α) :
    (stableSort le list).Pairwise fun left right => le left right = true := by
  induction list with
  | nil => exact .nil
  | cons head tail ih => exact pairwise_insertBy total trans head ih

end Order

/-- Insertion keeps the order of any class of elements that do not exceed one another. -/
theorem filter_insertBy {le : α → α → Bool} {keep : α → Bool}
    (keptLe : ∀ left right, keep left = true → keep right = true → le left right = true)
    (element : α) (list : List α) :
    (insertBy le element list).filter keep = (element :: list).filter keep := by
  induction list with
  | nil => rfl
  | cons head tail ih =>
      unfold insertBy
      split
      · rfl
      · next notLe =>
          by_cases elementKept : keep element = true
          · have headDropped : ¬keep head = true := fun headKept =>
              notLe (keptLe element head elementKept headKept)
            simp [ih, elementKept, headDropped]
          · simp [List.filter_cons, ih, elementKept]

/-- Sorting keeps the order of any class of elements that do not exceed one another. -/
theorem filter_stableSort {le : α → α → Bool} {keep : α → Bool}
    (keptLe : ∀ left right, keep left = true → keep right = true → le left right = true)
    (list : List α) :
    (stableSort le list).filter keep = list.filter keep := by
  induction list with
  | nil => rfl
  | cons head tail ih =>
      simp only [stableSort, filter_insertBy keptLe, List.filter_cons, ih]

end RankedSql

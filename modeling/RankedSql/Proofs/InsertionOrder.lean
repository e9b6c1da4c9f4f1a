import RankedSql.Proofs.MergedColumns
import Mathlib.Data.Finset.Card
import Mathlib.Data.List.Induction

/-!
# Columns in the order of their insertion

Columns that are recorded one after another, from none on, form a map that remembers in which order
its names came. The names stand in the order of their first insertions
(`pairwise_idxOf_names_insertAll`), each has the facts of its last insertion (`get?_insertAll`), and
nothing else of the insertions is kept (`insertAll_eq_iff`).
-/

namespace RankedSql.Columns

variable {columns : Columns} {declared : List (String × ColumnFacts)}

theorem names_insertAll_empty (declared : List (String × ColumnFacts)) :
    (empty.insertAll declared).names = (declared.map Prod.fst).eraseDups := by
  rw [names_insertAll, missingColumns_eq]
  simp

theorem nodup_names_insertAll_empty (declared : List (String × ColumnFacts)) :
    (empty.insertAll declared).names.Nodup := by
  apply nodup_names_insertAll
  simp

theorem get?_insertAll_empty (declared : List (String × ColumnFacts)) (name : String) :
    (empty.insertAll declared).get? name = lastDeclared? declared name := by
  rw [get?_insertAll, get?_empty, Option.or_none]

/-- A name stands before another exactly if it was inserted first. The induction is on the last
insertion: a name that is there keeps its first insertion, and a name that is new has its own behind
all others. -/
theorem pairwise_idxOf_names_insertAll (declared : List (String × ColumnFacts)) :
    (empty.insertAll declared).names.Pairwise fun left right =>
      (declared.map Prod.fst).idxOf left < (declared.map Prod.fst).idxOf right := by
  induction declared using List.reverseRecOn with
  | nil => simp [insertAll]
  | append_singleton earlier entry ih =>
      have recorded : ∀ name ∈ (empty.insertAll earlier).names, name ∈ earlier.map Prod.fst := by
        intro name member
        simpa [names_insertAll_empty] using member
      have kept : (empty.insertAll earlier).names.Pairwise fun left right =>
          ((earlier ++ [entry]).map Prod.fst).idxOf left <
            ((earlier ++ [entry]).map Prod.fst).idxOf right := by
        apply ih.imp_of_mem
        intro left right leftMember rightMember before
        rw [List.map_append, List.idxOf_append_of_mem (recorded left leftMember),
          List.idxOf_append_of_mem (recorded right rightMember)]
        exact before
      have step : empty.insertAll (earlier ++ [entry]) =
          (empty.insertAll earlier).insert entry.1 entry.2 := insertAll_append _ _ _
      rw [step, names_insert]
      split
      · exact kept
      · next absent =>
          have unseen : entry.1 ∉ earlier.map Prod.fst := by
            simpa [names_insertAll_empty] using absent
          refine List.pairwise_append.2 ⟨kept, List.pairwise_singleton _ _, ?_⟩
          intro left leftMember right rightMember
          rw [List.mem_singleton.1 rightMember, List.map_append,
            List.idxOf_append_of_mem (recorded left leftMember),
            List.idxOf_append_of_notMem unseen]
          exact Nat.lt_add_right _ (List.idxOf_lt_length_of_mem (recorded left leftMember))

theorem size_insertAll (declared : List (String × ColumnFacts)) :
    (empty.insertAll declared).size = (declared.map Prod.fst).toFinset.card := by
  have same : (declared.map Prod.fst).toFinset = (empty.insertAll declared).names.toFinset := by
    ext name
    simp [names_insertAll_empty]
  rw [same, List.toFinset_card_of_nodup (nodup_names_insertAll_empty declared), names,
    List.length_map, size]

/-- Columns with distinct names pair their names with what is found under each. -/
theorem map_get?_names (distinct : columns.names.Nodup) :
    columns.names.map (fun name => (name, columns.get? name)) =
      columns.entries.map fun entry => (entry.1, some entry.2) := by
  rw [names, List.map_map]
  apply List.map_congr_left
  intro entry member
  have found : columns.get? entry.1 = some entry.2 := lookup_of_mem distinct member
  simp [found]

/-- Two sequences of insertions come to the same columns exactly if they agree on the order of the
first insertions and on the facts that were inserted last. -/
theorem insertAll_eq_iff (declared other : List (String × ColumnFacts)) :
    empty.insertAll declared = empty.insertAll other ↔
      (declared.map Prod.fst).eraseDups = (other.map Prod.fst).eraseDups ∧
        ∀ name, lastDeclared? declared name = lastDeclared? other name := by
  constructor
  · intro same
    refine ⟨?_, fun name => ?_⟩
    · rw [← names_insertAll_empty, same, names_insertAll_empty]
    · rw [← get?_insertAll_empty, same, get?_insertAll_empty]
  · rintro ⟨sameOrder, sameFacts⟩
    have entries : (empty.insertAll declared).entries = (empty.insertAll other).entries := by
      rw [entries_eq (nodup_names_insertAll_empty declared),
        entries_eq (nodup_names_insertAll_empty other), names_insertAll_empty,
        names_insertAll_empty, sameOrder]
      simp only [get?_insertAll_empty, sameFacts]
    exact congrArg Columns.mk entries

/-- Insertions into no columns make a map in insertion order. -/
theorem insertAll_is_ordered_map (declared : List (String × ColumnFacts)) :
    ((empty.insertAll declared).names.Nodup ∧
      (∀ name, name ∈ (empty.insertAll declared).names ↔ name ∈ declared.map Prod.fst) ∧
      (empty.insertAll declared).names.Pairwise fun left right =>
        (declared.map Prod.fst).idxOf left < (declared.map Prod.fst).idxOf right) ∧
    (∀ name, (empty.insertAll declared).get? name = lastDeclared? declared name) ∧
    (empty.insertAll declared).entries.map (fun entry => (entry.1, some entry.2)) =
      (empty.insertAll declared).names.map (fun name => (name, lastDeclared? declared name)) ∧
    (empty.insertAll declared).size = (declared.map Prod.fst).toFinset.card ∧
    ∀ other, empty.insertAll declared = empty.insertAll other ↔
      (declared.map Prod.fst).eraseDups = (other.map Prod.fst).eraseDups ∧
        ∀ name, lastDeclared? declared name = lastDeclared? other name := by
  refine ⟨⟨nodup_names_insertAll_empty declared, fun name => ?_,
    pairwise_idxOf_names_insertAll declared⟩, get?_insertAll_empty declared, ?_,
    size_insertAll declared, insertAll_eq_iff declared⟩
  · rw [names_insertAll_empty, List.mem_eraseDups]
  · rw [← map_get?_names (nodup_names_insertAll_empty declared)]
    simp only [get?_insertAll_empty]

example :
    let text := ColumnFacts.ofType .text
    let key := ColumnFacts.filledKey .integer
    empty.insertAll [("name", text), ("id", key), ("name", key)] =
      ⟨[("name", key), ("id", key)]⟩ := by
  decide

end RankedSql.Columns

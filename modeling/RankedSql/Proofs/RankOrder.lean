import Mathlib.Data.List.Forall2
import RankedSql.Statement.Basic

/-!
# The order of ranks

Sorting by rank concatenates the parts of each rank, in the order of the ranks and each rank in the
order in which its parts were given (`sortByRank_eq_flatMap`). Sorting also respects every relation
between parts that holds only at equal ranks (`forall₂_sortByRank`).
-/

namespace RankedSql

variable {α : Type}

theorem forall₂_insertBy {R : α → α → Prop} {le : α → α → Bool} {left right : α}
    {leftList rightList : List α} (related : R left right)
    (relatedLists : List.Forall₂ R leftList rightList)
    (sameOrder : ∀ other otherRight, R other otherRight → le left other = le right otherRight) :
    List.Forall₂ R (insertBy le left leftList) (insertBy le right rightList) := by
  induction relatedLists with
  | nil => exact .cons related .nil
  | @cons head headRight tail tailRight relatedHead relatedTail ih =>
      unfold insertBy
      rw [sameOrder head headRight relatedHead]
      split
      · exact .cons related (.cons relatedHead relatedTail)
      · exact .cons relatedHead ih

theorem forall₂_stableSort {R : α → α → Prop} {le : α → α → Bool} {left right : List α}
    (related : List.Forall₂ R left right)
    (sameOrder : ∀ first firstRight second secondRight, R first firstRight →
      R second secondRight → le first second = le firstRight secondRight) :
    List.Forall₂ R (stableSort le left) (stableSort le right) := by
  induction related with
  | nil => exact .nil
  | @cons head headRight tail tailRight relatedHead _ ih =>
      exact forall₂_insertBy relatedHead ih fun other otherRight relatedOther =>
        sameOrder head headRight other otherRight relatedHead relatedOther

theorem forall₂_sortByRank {R : Part → Part → Prop} {left right : List Part}
    (related : List.Forall₂ R left right)
    (sameRank : ∀ first second, R first second → first.rank = second.rank) :
    List.Forall₂ R (sortByRank left) (sortByRank right) := by
  apply forall₂_stableSort related
  intro first firstRight second secondRight relatedFirst relatedSecond
  rw [Part.rankLe, Part.rankLe, sameRank first firstRight relatedFirst,
    sameRank second secondRight relatedSecond]

/-- The parts of one rank. -/
def partsAt (rank : Rank) (parts : List Part) : List Part :=
  parts.filter fun part => part.rank == rank

theorem rank_of_mem_partsAt {rank : Rank} {part : Part} {parts : List Part}
    (member : part ∈ partsAt rank parts) : part.rank = rank := by
  simpa using (List.mem_filter.1 member).2

theorem partsAt_cons_of_eq {rank : Rank} {part : Part} (same : part.rank = rank)
    (parts : List Part) : partsAt rank (part :: parts) = part :: partsAt rank parts := by
  simp [partsAt, same]

theorem partsAt_cons_of_ne {rank : Rank} {part : Part} (different : part.rank ≠ rank)
    (parts : List Part) : partsAt rank (part :: parts) = partsAt rank parts := by
  simp [partsAt, different]

theorem flatMap_partsAt_cons_of_ne {ranks : List Rank} {part : Part}
    (different : ∀ rank ∈ ranks, part.rank ≠ rank) (parts : List Part) :
    (ranks.flatMap fun rank => partsAt rank (part :: parts)) =
      ranks.flatMap fun rank => partsAt rank parts := by
  induction ranks with
  | nil => rfl
  | cons rank ranks ih =>
      rw [List.flatMap_cons, List.flatMap_cons,
        partsAt_cons_of_ne (different rank List.mem_cons_self),
        ih fun other member => different other (List.mem_cons_of_mem _ member)]

theorem partsAt_eq_nil_of_lt {rank : Rank} {parts : List Part}
    (behind : ∀ part ∈ parts, rank.number < part.rank.number) : partsAt rank parts = [] := by
  refine List.filter_eq_nil_iff.2 fun part member same => ?_
  have after := behind part member
  rw [beq_iff_eq.1 same] at after
  omega

theorem Rank.exists_all_eq (rank : Rank) :
    ∃ earlier later, Rank.all = earlier ++ rank :: later ∧
      (∀ other ∈ earlier, other.number < rank.number) ∧
      ∀ other ∈ later, rank.number < other.number := by
  cases rank with
  | projection => exact ⟨[], [.target, .filter, .ordering], rfl, by decide, by decide⟩
  | target => exact ⟨[.projection], [.filter, .ordering], rfl, by decide, by decide⟩
  | filter => exact ⟨[.projection, .target], [.ordering], rfl, by decide, by decide⟩
  | ordering => exact ⟨[.projection, .target, .filter], [], rfl, by decide, by decide⟩

theorem pairwise_sortByRank (parts : List Part) :
    (sortByRank parts).Pairwise fun left right => left.rank.number ≤ right.rank.number := by
  have sorted : (sortByRank parts).Pairwise fun left right => Part.rankLe left right = true := by
    apply pairwise_stableSort <;> simp only [Part.rankLe, decide_eq_true_eq] <;> omega
  exact sorted.imp of_decide_eq_true

/-- A list in the order of the ranks is made of the parts of each rank. -/
theorem flatMap_partsAt_of_pairwise {parts : List Part}
    (ordered : parts.Pairwise fun left right => left.rank.number ≤ right.rank.number) :
    (Rank.all.flatMap fun rank => partsAt rank parts) = parts := by
  induction parts with
  | nil => rfl
  | cons part rest ih =>
      rcases List.pairwise_cons.1 ordered with ⟨partLe, orderedRest⟩
      rcases part.rank.exists_all_eq with ⟨earlier, later, all_eq, earlier_lt, later_gt⟩
      have earlier_ne : ∀ rank ∈ earlier, part.rank ≠ rank := by
        rintro rank member rfl
        exact absurd (earlier_lt _ member) (by omega)
      have later_ne : ∀ rank ∈ later, part.rank ≠ rank := by
        rintro rank member rfl
        exact absurd (later_gt _ member) (by omega)
      -- Nothing behind the part has an earlier rank.
      have noEarlier : (earlier.flatMap fun rank => partsAt rank rest) = [] :=
        List.flatMap_eq_nil_iff.2 fun rank rank_mem => partsAt_eq_nil_of_lt fun other other_mem =>
          Nat.lt_of_lt_of_le (earlier_lt rank rank_mem) (partLe other other_mem)
      have whole := ih orderedRest
      rw [all_eq, List.flatMap_append, List.flatMap_cons, noEarlier, List.nil_append] at whole
      rw [all_eq, List.flatMap_append, List.flatMap_cons, flatMap_partsAt_cons_of_ne earlier_ne,
        flatMap_partsAt_cons_of_ne later_ne, partsAt_cons_of_eq rfl, noEarlier, List.nil_append,
        List.cons_append, whole]

/-- The sorted parts are the parts of each rank, one rank after the other. -/
theorem sortByRank_eq_flatMap (parts : List Part) :
    sortByRank parts = Rank.all.flatMap fun rank => partsAt rank parts :=
  calc sortByRank parts
      = Rank.all.flatMap fun rank => partsAt rank (sortByRank parts) :=
        (flatMap_partsAt_of_pairwise (pairwise_sortByRank parts)).symm
    _ = Rank.all.flatMap fun rank => partsAt rank parts := by simp only [partsAt, filter_sortByRank]

end RankedSql

import Mathlib.Data.List.Induction
import RankedSql.Proofs.RankOrder

/-!
# The segments of a statement

What the text of a statement consists of can be said without the order in which it is written. The
parts stand rank after rank, each rank in insertion order (`rankedParts`). A condition is a segment
behind the word that connects it to the conditions before it; all sort terms together are one
segment, at the place of the first of them; any other part is its own text, or nothing if that is
empty (`segmentAt?`).

Writing a statement goes over its parts once and extends the sort clause where it stands. After any
number of parts it has the segments of just these (`foldl_add_eq_layoutOf`), so it ends with those
of the whole (`render_eq_segments`).
-/

namespace RankedSql

/-! ## Segments -/

/-- The sort term of a part, if it is one. -/
def Part.sortTerm? (part : Part) : Option (String × Direction) :=
  match part.clause with
  | .ordering field direction => some (field, direction)
  | _ => none

/-- A piece of the text of a statement. -/
inductive Segment where
  /-- A condition behind the word that connects it to others. -/
  | condition (connector : String) (condition : Condition)
  | ordering (terms : List (String × Direction))
  | plain (text : String)

namespace Segment

/-- A sort term as it is written. -/
def termText (term : String × Direction) : String := term.1 ++ " " ++ term.2.sql

/-- The segment as it is written; sort terms share one `ORDER BY`. -/
def text : Segment → String
  | .condition connector test => connector ++ " " ++ (Clause.condition test).text
  | .ordering terms => "ORDER BY " ++ Text.joinWith ", " (terms.map termText)
  | .plain text => text

/-- The word in front of a condition. -/
def connector? : Segment → Option String
  | .condition connector _ => some connector
  | _ => none

/-- The condition that a segment holds. -/
def condition? : Segment → Option Condition
  | .condition _ test => some test
  | _ => none

/-- The terms of a sort clause. -/
def terms? : Segment → Option (List (String × Direction))
  | .ordering terms => some terms
  | _ => none

/-- The segment with other terms, if it is a sort clause. -/
def withTerms (terms : List (String × Direction)) : Segment → Segment
  | .ordering _ => .ordering terms
  | other => other

end Segment

/-- The parts of a statement in the order of its text. -/
def rankedParts (parts : List Part) : List Part := Rank.all.flatMap fun rank => partsAt rank parts

/-- The conditions among the parts, in order. -/
def conditionsOf (parts : List Part) : List Condition := parts.filterMap Part.condition?

/-- The sort terms among the parts, in order. -/
def sortTermsOf (parts : List Part) : List (String × Direction) := parts.filterMap Part.sortTerm?

/-- The word in front of a condition that stands behind other parts. -/
def connectorBehind (earlier : List Part) (test : Condition) : String :=
  if conditionsOf earlier = [] then "WHERE" else if test.alternate then "OR" else "AND"

/-- The segment that a part among ordered parts stands for, behind those earlier than it. -/
def segmentAt? (ordered earlier : List Part) (part : Part) : Option Segment :=
  match part.clause with
  | .condition test => some (.condition (connectorBehind earlier test) test)
  | .ordering _ _ =>
      if sortTermsOf earlier = [] then some (.ordering (sortTermsOf ordered)) else none
  | clause => if clause.text = "" then none else some (.plain clause.text)

/-- The segments of the text of ordered parts. -/
def segmentsOf (ordered : List Part) : List Segment :=
  ordered.zipIdx.filterMap fun entry => segmentAt? ordered (ordered.take entry.2) entry.1

/-! ## One more part -/

/-- Later parts change a segment only in the terms of the sort clause. -/
theorem segmentAt?_map_withTerms (ordered longer earlier : List Part) (part : Part) :
    (segmentAt? ordered earlier part).map (Segment.withTerms (sortTermsOf longer)) =
      segmentAt? longer earlier part := by
  unfold segmentAt?
  split
  · rfl
  · split <;> rfl
  · split <;> rfl

theorem segmentsOf_concat (ordered : List Part) (part : Part) :
    segmentsOf (ordered ++ [part]) =
      (segmentsOf ordered).map (Segment.withTerms (sortTermsOf (ordered ++ [part]))) ++
        (segmentAt? (ordered ++ [part]) ordered part).toList := by
  have earlier : ∀ entry ∈ ordered.zipIdx,
      segmentAt? (ordered ++ [part]) ((ordered ++ [part]).take entry.2) entry.1 =
        (segmentAt? ordered (ordered.take entry.2) entry.1).map
          (Segment.withTerms (sortTermsOf (ordered ++ [part]))) := by
    intro entry member
    have inside : entry.2 < ordered.length := by simpa using List.snd_lt_of_mem_zipIdx member
    rw [List.take_append_of_le_length (Nat.le_of_lt inside), segmentAt?_map_withTerms]
  rw [segmentsOf, List.zipIdx_append, List.filterMap_append, List.filterMap_congr earlier,
    segmentsOf, List.map_filterMap]
  congr 1
  simp [List.filterMap_cons]
  cases segmentAt? (ordered ++ [part]) ordered part <;> rfl

theorem conditionsOf_concat (ordered : List Part) (part : Part) :
    conditionsOf (ordered ++ [part]) = conditionsOf ordered ++ part.condition?.toList := by
  rw [conditionsOf, List.filterMap_append]
  cases test : part.condition? <;> simp [conditionsOf, test]

theorem sortTermsOf_concat (ordered : List Part) (part : Part) :
    sortTermsOf (ordered ++ [part]) = sortTermsOf ordered ++ part.sortTerm?.toList := by
  rw [sortTermsOf, List.filterMap_append]
  cases term : part.sortTerm? <;> simp [sortTermsOf, term]

/-! ## What the segments hold -/

namespace Segment

@[simp]
theorem connector?_withTerms (terms : List (String × Direction)) (segment : Segment) :
    (segment.withTerms terms).connector? = segment.connector? := by
  cases segment <;> rfl

@[simp]
theorem terms?_withTerms (terms : List (String × Direction)) (segment : Segment) :
    (segment.withTerms terms).terms? = segment.terms?.map fun _ => terms := by
  cases segment <;> rfl

theorem withTerms_of_terms?_eq_none {segment : Segment} (unsorted : segment.terms? = none)
    (terms : List (String × Direction)) : segment.withTerms terms = segment := by
  cases segment with
  | ordering => cases unsorted
  | condition | plain => rfl

theorem map_withTerms_of_forall_none {segments : List Segment}
    (unsorted : ∀ segment ∈ segments, segment.terms? = none) (terms : List (String × Direction)) :
    segments.map (withTerms terms) = segments :=
  (List.map_congr_left fun segment member =>
    withTerms_of_terms?_eq_none (unsorted segment member) terms).trans (List.map_id' segments)

end Segment

section

variable {ordered earlier : List Part} {part : Part}

/-- A part stands for a segment with its condition, if it has one. -/
theorem segmentAt?_bind_condition? :
    (segmentAt? ordered earlier part).bind Segment.condition? = part.condition? := by
  rcases part with ⟨clause, rank⟩
  cases clause with
  | condition test => rfl
  | ordering field direction => simp only [segmentAt?]; split <;> rfl
  | _ => simp only [segmentAt?]; split <;> rfl

theorem segmentAt?_bind_connector? :
    (segmentAt? ordered earlier part).bind Segment.connector? =
      part.condition?.map (connectorBehind earlier) := by
  rcases part with ⟨clause, rank⟩
  cases clause with
  | condition test => rfl
  | ordering field direction => simp only [segmentAt?]; split <;> rfl
  | _ => simp only [segmentAt?]; split <;> rfl

/-- The first sort term stands for the sort clause with all terms. -/
theorem segmentAt?_of_sortTerm? {term : String × Direction} (sorts : part.sortTerm? = some term) :
    segmentAt? ordered earlier part =
      if sortTermsOf earlier = [] then some (.ordering (sortTermsOf ordered)) else none := by
  rcases part with ⟨clause, rank⟩
  cases clause with
  | ordering field direction => rfl
  | _ => cases sorts

theorem terms?_of_segmentAt? (unsorted : part.sortTerm? = none) {segment : Segment}
    (found : segmentAt? ordered earlier part = some segment) : segment.terms? = none := by
  unfold segmentAt? at found
  split at found
  · rcases Option.some.inj found with rfl
    rfl
  · next sorts => simp [Part.sortTerm?, sorts] at unsorted
  · split at found
    · cases found
    · rcases Option.some.inj found with rfl
      rfl

theorem segmentAt?_of_plain (untested : part.condition? = none) (unsorted : part.sortTerm? = none) :
    segmentAt? ordered earlier part =
      if part.text = "" then none else some (.plain part.text) := by
  rcases part with ⟨clause, rank⟩
  cases clause with
  | condition test => cases untested
  | ordering field direction => cases unsorted
  | _ => rfl

theorem text_ne_empty_of_segmentAt? {segment : Segment}
    (found : segmentAt? ordered earlier part = some segment) : segment.text ≠ "" := by
  unfold segmentAt? at found
  split at found
  · rcases Option.some.inj found with rfl
    simp [Segment.text]
  · split at found
    · rcases Option.some.inj found with rfl
      simp [Segment.text]
    · cases found
  · split at found
    · cases found
    · next notEmpty =>
        rcases Option.some.inj found with rfl
        exact notEmpty

end

theorem text_ne_empty_of_mem_segmentsOf {ordered : List Part} {segment : Segment}
    (member : segment ∈ segmentsOf ordered) : segment.text ≠ "" := by
  rcases List.mem_filterMap.1 member with ⟨entry, _, found⟩
  exact text_ne_empty_of_segmentAt? found

/-- The conditions among segments are those of the parts, in the same order. -/
theorem filterMap_condition?_segmentsOf (ordered : List Part) :
    (segmentsOf ordered).filterMap Segment.condition? = conditionsOf ordered := by
  simp only [segmentsOf, List.filterMap_filterMap, segmentAt?_bind_condition?]
  rw [conditionsOf, ← List.zipIdx_map_fst 0 ordered, List.filterMap_map]
  simp

/-- At most one segment is a sort clause, and it has all the terms. -/
theorem filterMap_terms?_segmentsOf (ordered : List Part) :
    (segmentsOf ordered).filterMap Segment.terms? =
      if sortTermsOf ordered = [] then [] else [sortTermsOf ordered] := by
  induction ordered using List.reverseRecOn with
  | nil => rfl
  | append_singleton ordered part ih =>
      -- The terms of an earlier sort clause become those of the longer list.
      have before : ((segmentsOf ordered).map
          (Segment.withTerms (sortTermsOf (ordered ++ [part])))).filterMap Segment.terms? =
            if sortTermsOf ordered = [] then [] else [sortTermsOf (ordered ++ [part])] := by
        have renewed : Segment.terms? ∘ Segment.withTerms (sortTermsOf (ordered ++ [part])) =
            fun segment => segment.terms?.map fun _ => sortTermsOf (ordered ++ [part]) :=
          funext (Segment.terms?_withTerms _)
        rw [List.filterMap_map, renewed, ← List.map_filterMap, ih]
        split <;> rfl
      rw [segmentsOf_concat, List.filterMap_append, before]
      cases term : part.sortTerm? with
      | none =>
          have same : sortTermsOf (ordered ++ [part]) = sortTermsOf ordered := by
            simp [sortTermsOf_concat, term]
          have noTerms : ((segmentAt? (ordered ++ [part]) ordered part).toList).filterMap
              Segment.terms? = [] := by
            rw [List.filterMap_eq_nil_iff]
            exact fun segment member => terms?_of_segmentAt? term (Option.mem_toList.1 member)
          rw [noTerms, same, List.append_nil]
      | some pair =>
          have notEmpty : sortTermsOf (ordered ++ [part]) ≠ [] := by
            simp [sortTermsOf_concat, term]
          rw [segmentAt?_of_sortTerm? term, if_neg notEmpty]
          split <;> rfl

theorem exists_sort_clause {ordered : List Part} (sorted : sortTermsOf ordered ≠ []) :
    ∃ before after, segmentsOf ordered = before ++ .ordering (sortTermsOf ordered) :: after ∧
      (∀ segment ∈ before, segment.terms? = none) ∧ ∀ segment ∈ after, segment.terms? = none := by
  have one := filterMap_terms?_segmentsOf ordered
  rw [if_neg sorted] at one
  rcases List.filterMap_eq_cons_iff.1 one with ⟨before, clause, after, split, none, found, later⟩
  cases clause with
  | ordering terms =>
      rcases Option.some.inj found with rfl
      exact ⟨before, after, split, none, List.filterMap_eq_nil_iff.1 later⟩
  | condition | plain => cases found

theorem terms?_eq_none_of_unsorted {ordered : List Part} (unsorted : sortTermsOf ordered = []) :
    ∀ segment ∈ segmentsOf ordered, segment.terms? = none := by
  have none := filterMap_terms?_segmentsOf ordered
  rw [if_pos unsorted] at none
  exact List.filterMap_eq_nil_iff.1 none

/-- A part without a sort term leaves the segments before it as they are. -/
theorem segmentsOf_concat_of_unsorted {part : Part} (unsorted : part.sortTerm? = none)
    (ordered : List Part) :
    segmentsOf (ordered ++ [part]) =
      segmentsOf ordered ++ (segmentAt? (ordered ++ [part]) ordered part).toList := by
  have same : sortTermsOf (ordered ++ [part]) = sortTermsOf ordered := by
    simp [sortTermsOf_concat, unsorted]
  have kept : (segmentsOf ordered).map (Segment.withTerms (sortTermsOf ordered)) =
      segmentsOf ordered := by
    simp only [segmentsOf, List.map_filterMap, segmentAt?_map_withTerms]
  rw [segmentsOf_concat, same, kept]

/-! ## Writing part by part -/

/-- The layout with the segments of ordered parts. -/
def layoutOf (ordered : List Part) : Layout where
  segments := (segmentsOf ordered).map Segment.text
  conditionSeen := decide (conditionsOf ordered ≠ [])
  orderingAt := (segmentsOf ordered).findIdx? fun segment => segment.terms?.isSome

theorem connector_layoutOf (ordered : List Part) (test : Condition) :
    (layoutOf ordered).connector test = connectorBehind ordered test := by
  by_cases first : conditionsOf ordered = [] <;>
    simp [Layout.connector, layoutOf, connectorBehind, first]

theorem findIdx?_terms?_of_forall_none {segments : List Segment}
    (unsorted : ∀ segment ∈ segments, segment.terms? = none) :
    (segments.findIdx? fun segment => segment.terms?.isSome) = none := by
  rw [List.findIdx?_eq_none_iff]
  intro segment member
  rw [unsorted segment member]
  rfl

theorem findIdx?_terms?_concat (before : List Segment) {last : Segment}
    (unsorted : last.terms? = none) :
    ((before ++ [last]).findIdx? fun segment => segment.terms?.isSome) =
      before.findIdx? fun segment => segment.terms?.isSome := by
  simp [List.findIdx?_append, unsorted]

theorem findIdx?_terms?_of_split {before : List Segment}
    (unsorted : ∀ segment ∈ before, segment.terms? = none) (terms : List (String × Direction))
    (after : List Segment) :
    ((before ++ .ordering terms :: after).findIdx? fun segment => segment.terms?.isSome) =
      some before.length := by
  rw [List.findIdx?_append, findIdx?_terms?_of_forall_none unsorted, List.findIdx?_cons]
  simp [Segment.terms?]

theorem modify_append_cons {α : Type} (before after : List α) (element : α) (edit : α → α) :
    (before ++ element :: after).modify before.length edit = before ++ edit element :: after := by
  induction before with
  | nil => rfl
  | cons head tail ih => simp [ih]

/-- The text of one more term is appended to the text of a sort clause. -/
theorem text_ordering_concat {terms : List (String × Direction)} (notEmpty : terms ≠ [])
    (field : String) (direction : Direction) :
    (Segment.ordering (terms ++ [(field, direction)])).text =
      (Segment.ordering terms).text ++ (", " ++ field ++ " " ++ direction.sql) := by
  have joined : Text.joinWith ", " ((terms ++ [(field, direction)]).map Segment.termText) =
      Text.joinWith ", " (terms.map Segment.termText) ++
        (", " ++ field ++ " " ++ direction.sql) := by
    rw [List.map_append, Text.joinWith_append ", " (by simpa using notEmpty) (by simp)]
    have regroup (front comma space : String) :
        front ++ comma ++ (field ++ space ++ direction.sql) =
          front ++ (comma ++ field ++ space ++ direction.sql) := by
      simp only [String.append_assoc]
    exact regroup _ ", " " "
  rw [Segment.text, joined, ← String.append_assoc]
  rfl

/-- Writing a sort term opens the sort clause, or extends it. -/
theorem add_layoutOf_of_ordering (ordered : List Part) (field : String) (direction : Direction)
    (rank : Rank) :
    (layoutOf ordered).add ⟨.ordering field direction, rank⟩ =
      layoutOf (ordered ++ [⟨.ordering field direction, rank⟩]) := by
  have notEmpty : (Part.mk (.ordering field direction) rank).text ≠ "" := by
    intro empty
    have spelled : "ORDER BY " ++ field ++ " " ++ direction.sql = "" := empty
    simp at spelled
  have terms : sortTermsOf (ordered ++ [⟨.ordering field direction, rank⟩]) =
      sortTermsOf ordered ++ [(field, direction)] := sortTermsOf_concat ..
  have conditions : conditionsOf (ordered ++ [⟨.ordering field direction, rank⟩]) =
      conditionsOf ordered := by simp [conditionsOf_concat, Part.condition?]
  have longer := segmentsOf_concat ordered ⟨.ordering field direction, rank⟩
  rw [terms, segmentAt?_of_sortTerm? rfl, terms] at longer
  by_cases first : sortTermsOf ordered = []
  · have unsorted := terms?_eq_none_of_unsorted first
    have opened : segmentsOf (ordered ++ [⟨.ordering field direction, rank⟩]) =
        segmentsOf ordered ++ [.ordering [(field, direction)]] := by
      rw [longer, if_pos first, first, Segment.map_withTerms_of_forall_none unsorted]
      rfl
    have place := findIdx?_terms?_of_split unsorted [(field, direction)] []
    simp only [Layout.add, notEmpty, if_false, layoutOf, conditions, opened, place,
      findIdx?_terms?_of_forall_none unsorted, Layout.append, List.map_append, List.length_map]
    rfl
  · rcases exists_sort_clause first with ⟨before, after, split, noneBefore, noneAfter⟩
    have extended : segmentsOf (ordered ++ [⟨.ordering field direction, rank⟩]) =
        before ++ .ordering (sortTermsOf ordered ++ [(field, direction)]) :: after := by
      rw [longer, if_neg first, split, List.map_append, List.map_cons,
        Segment.map_withTerms_of_forall_none noneBefore,
        Segment.map_withTerms_of_forall_none noneAfter]
      exact List.append_nil _
    have place := findIdx?_terms?_of_split noneBefore (sortTermsOf ordered) after
    have placeLonger := findIdx?_terms?_of_split noneBefore
      (sortTermsOf ordered ++ [(field, direction)]) after
    have written := modify_append_cons (before.map Segment.text) (after.map Segment.text)
      (Segment.ordering (sortTermsOf ordered)).text
      (· ++ (", " ++ field ++ " " ++ direction.sql))
    rw [List.length_map, ← text_ordering_concat first] at written
    simp only [Layout.add, notEmpty, if_false, layoutOf, conditions, split, extended, place,
      placeLonger, List.map_append, List.map_cons, written]

theorem add_layoutOf_of_condition (ordered : List Part) (test : Condition) (rank : Rank) :
    (layoutOf ordered).add ⟨.condition test, rank⟩ =
      layoutOf (ordered ++ [⟨.condition test, rank⟩]) := by
  have notEmpty : (Part.mk (.condition test) rank).text ≠ "" := by
    intro empty
    have spelled : test.field ++ " " ++ test.comparison.symbol ++ " " ++ test.value = "" := empty
    simp at spelled
  have conditions : conditionsOf (ordered ++ [⟨.condition test, rank⟩]) =
      conditionsOf ordered ++ [test] := conditionsOf_concat ..
  have longer : segmentsOf (ordered ++ [⟨.condition test, rank⟩]) =
      segmentsOf ordered ++ [.condition (connectorBehind ordered test) test] :=
    segmentsOf_concat_of_unsorted rfl ordered
  have place := findIdx?_terms?_concat (segmentsOf ordered)
    (rfl : (Segment.condition (connectorBehind ordered test) test).terms? = none)
  simp only [Layout.add, notEmpty, if_false, connector_layoutOf]
  simp [layoutOf, Layout.append, longer, conditions, place, Segment.text, Part.text]

/-- Writing a part that is neither a condition nor a sort term adds its text, unless it is empty. -/
theorem add_layoutOf_of_plain (ordered : List Part) {part : Part}
    (untested : part.condition? = none) (unsorted : part.sortTerm? = none) :
    (layoutOf ordered).add part = layoutOf (ordered ++ [part]) := by
  have conditions : conditionsOf (ordered ++ [part]) = conditionsOf ordered := by
    simp [conditionsOf_concat, untested]
  have longer := segmentsOf_concat_of_unsorted unsorted ordered
  have added : (layoutOf ordered).add part =
      if part.text = "" then layoutOf ordered else (layoutOf ordered).append part.text := by
    rcases part with ⟨clause, rank⟩
    cases clause with
    | condition test => cases untested
    | ordering field direction => cases unsorted
    | _ => rfl
  rw [segmentAt?_of_plain untested unsorted] at longer
  rw [added]
  split
  · next empty => simp [layoutOf, longer, empty, conditions]
  · next notEmpty =>
    have place := findIdx?_terms?_concat (segmentsOf ordered)
      (rfl : (Segment.plain part.text).terms? = none)
    simp [layoutOf, Layout.append, longer, notEmpty, conditions, place, Segment.text]

/-- Writing a part gives the segments of one part more. -/
theorem add_layoutOf (ordered : List Part) (part : Part) :
    (layoutOf ordered).add part = layoutOf (ordered ++ [part]) := by
  rcases part with ⟨clause, rank⟩
  cases clause with
  | condition test => exact add_layoutOf_of_condition ordered test rank
  | ordering field direction => exact add_layoutOf_of_ordering ordered field direction rank
  | _ => exact add_layoutOf_of_plain ordered rfl rfl

theorem foldl_add_eq_layoutOf (ordered : List Part) :
    ordered.foldl Layout.add Layout.empty = layoutOf ordered := by
  induction ordered using List.reverseRecOn with
  | nil => rfl
  | append_singleton ordered part ih =>
      rw [List.foldl_append, List.foldl_cons, List.foldl_nil, ih, add_layoutOf]

/-! ## Plain parts in front -/

/-- The texts of parts, without the empty ones. -/
def shownTexts (parts : List Part) : List String := (parts.map Part.text).filter (· ≠ "")

theorem shownTexts_append (left right : List Part) :
    shownTexts (left ++ right) = shownTexts left ++ shownTexts right := by
  simp [shownTexts]

theorem segmentsOf_cons_of_plain {part : Part} (untested : part.condition? = none)
    (unsorted : part.sortTerm? = none) (rest : List Part) :
    segmentsOf (part :: rest) =
      (segmentAt? (part :: rest) [] part).toList ++ segmentsOf rest := by
  have sortTerms (parts : List Part) : sortTermsOf (part :: parts) = sortTermsOf parts :=
    List.filterMap_cons_none unsorted
  have conditions (parts : List Part) : conditionsOf (part :: parts) = conditionsOf parts :=
    List.filterMap_cons_none untested
  -- Such a part is nothing to what stands behind it, so its own segment can be split off.
  have behind (earlier : List Part) (later : Part) :
      segmentAt? (part :: rest) (part :: earlier) later = segmentAt? rest earlier later := by
    simp only [segmentAt?, connectorBehind, sortTerms, conditions]
  have shifted : (rest.zipIdx 1).filterMap (fun entry =>
      segmentAt? (part :: rest) ((part :: rest).take entry.2) entry.1) = segmentsOf rest := by
    rw [List.zipIdx_succ, List.filterMap_map, segmentsOf]
    exact List.filterMap_congr fun entry _ => behind _ _
  rw [← shifted, segmentsOf, List.zipIdx_cons, List.filterMap_cons, List.take_zero]
  cases segmentAt? (part :: rest) [] part <;> rfl

/-- Parts in front that are neither conditions nor sort terms are written as they are. -/
theorem texts_segmentsOf_append {front : List Part}
    (plain : ∀ part ∈ front, part.condition? = none ∧ part.sortTerm? = none) (rest : List Part) :
    (segmentsOf (front ++ rest)).map Segment.text =
      shownTexts front ++ (segmentsOf rest).map Segment.text := by
  induction front with
  | nil => rfl
  | cons part front ih =>
      rcases List.forall_mem_cons.1 plain with ⟨⟨untested, unsorted⟩, plainFront⟩
      rw [List.cons_append, segmentsOf_cons_of_plain untested unsorted,
        segmentAt?_of_plain untested unsorted, List.map_append, ih plainFront]
      by_cases empty : part.text = "" <;> simp [shownTexts, empty, Segment.text]

/-! ## The text of a statement -/

/-- The words in front of conditions: `WHERE` once, then those that connect each to the rest. -/
def connectorsOf : List Condition → List String
  | [] => []
  | _ :: rest => "WHERE" :: rest.map fun test => if test.alternate then "OR" else "AND"

theorem connectorsOf_conditionsOf_concat (ordered : List Part) (test : Condition) :
    connectorsOf (conditionsOf ordered ++ [test]) =
      connectorsOf (conditionsOf ordered) ++ [connectorBehind ordered test] := by
  cases conditions : conditionsOf ordered with
  | nil => simp [connectorsOf, connectorBehind, conditions]
  | cons first rest => simp [connectorsOf, connectorBehind, conditions]

theorem filterMap_connector?_segmentsOf (ordered : List Part) :
    (segmentsOf ordered).filterMap Segment.connector? = connectorsOf (conditionsOf ordered) := by
  induction ordered using List.reverseRecOn with
  | nil => rfl
  | append_singleton ordered part ih =>
      have kept (terms : List (String × Direction)) :
          Segment.connector? ∘ Segment.withTerms terms = Segment.connector? :=
        funext (Segment.connector?_withTerms terms)
      have added : ((segmentAt? (ordered ++ [part]) ordered part).toList).filterMap
          Segment.connector? = (part.condition?.map (connectorBehind ordered)).toList := by
        rw [← segmentAt?_bind_connector?]
        cases segmentAt? (ordered ++ [part]) ordered part with
        | none => rfl
        | some segment => cases connector : segment.connector? <;> simp [connector]
      rw [segmentsOf_concat, List.filterMap_append, List.filterMap_map, kept, ih, added,
        conditionsOf_concat]
      cases part.condition? with
      | none => simp
      | some test => exact (connectorsOf_conditionsOf_concat ordered test).symm

theorem perm_rankedParts (parts : List Part) : (rankedParts parts).Perm parts := by
  rw [rankedParts, ← sortByRank_eq_flatMap]
  exact perm_stableSort _ parts

theorem renderParts_eq_segments (parts : List Part) :
    renderParts parts = Text.joinWith " " ((segmentsOf (rankedParts parts)).map Segment.text) := by
  rw [renderParts, sortByRank_eq_flatMap, foldl_add_eq_layoutOf]
  rfl

/-- The text of a statement without a literal has its segments with one space between them, none of
them empty. The segments hold every condition and every sort term once, in the order of the ranked
parts: the first condition behind `WHERE` and the others behind what connects them, and the sort
terms in one clause. -/
theorem render_eq_segments (parts : List Part) :
    let ordered := rankedParts parts
    (Statement.mk parts none).render =
        Text.joinWith " " ((segmentsOf ordered).map Segment.text) ∧
      (∀ segment ∈ segmentsOf ordered, segment.text ≠ "") ∧
      ordered.Perm parts ∧
      (segmentsOf ordered).filterMap Segment.condition? = conditionsOf ordered ∧
      (segmentsOf ordered).filterMap Segment.connector? = connectorsOf (conditionsOf ordered) ∧
      (segmentsOf ordered).filterMap Segment.terms? =
        if sortTermsOf ordered = [] then [] else [sortTermsOf ordered] := by
  intro ordered
  refine ⟨renderParts_eq_segments parts, ?_, perm_rankedParts parts, ?_, ?_, ?_⟩
  · exact fun segment member => text_ne_empty_of_mem_segmentsOf member
  · exact filterMap_condition?_segmentsOf ordered
  · exact filterMap_connector?_segmentsOf ordered
  · exact filterMap_terms?_segmentsOf ordered

/-- A condition before the filters, an empty text between two sort terms, and a limit in front of
the sort clause stay where they are. -/
theorem render_eq_segments_of_early_condition :
    let parts : List Part :=
      [.ofClause (.limit 5), .ofClause (.ordering "age" .descending), .raw "" .ordering,
        .ofClause (.condition ⟨"age", .atLeast, "18", true⟩),
        .ofClause (.ordering "name" .ascending), ⟨.condition ⟨"id", .equal, "1", true⟩, .target⟩]
    let segments := segmentsOf (rankedParts parts)
    (Statement.mk parts none).render =
        "WHERE id = 1 OR age >= 18 LIMIT 5 ORDER BY age DESC, name ASC" ∧
      segments.filterMap Segment.condition? =
        [⟨"id", .equal, "1", true⟩, ⟨"age", .atLeast, "18", true⟩] ∧
      segments.filterMap Segment.connector? = ["WHERE", "OR"] ∧
      segments.filterMap Segment.terms? = [[("age", .descending), ("name", .ascending)]] := by
  intro parts segments
  rcases render_eq_segments parts with ⟨rendered, _, _, conditions, connectors, terms⟩
  exact ⟨rendered.trans (by decide +kernel), conditions.trans (by decide +kernel),
    connectors.trans (by decide +kernel), terms.trans (by decide +kernel)⟩

end RankedSql

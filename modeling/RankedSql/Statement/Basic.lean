import RankedSql.Part
import RankedSql.StableSort

/-!
# Statements being composed

A statement collects parts in the order of the calls. `Statement.render` writes it: the parts
sorted stably by rank, so that clauses of different ranks stand in the order of the ranks, and those
of one rank in the order of the calls. A literal text, once set, is written in place of the parts.
-/

namespace RankedSql

/-- A statement being composed: its parts in the order of the calls, and its literal, if it is set.
-/
structure Statement where
  parts : List Part
  literal : Option String
  deriving DecidableEq

namespace Statement

/-- A statement without parts. -/
def empty : Statement := ⟨[], none⟩

/-- Adds a part behind all others. -/
def push (statement : Statement) (part : Part) : Statement :=
  { statement with parts := statement.parts ++ [part] }

/-- Adds a part in front of all others. -/
def pushFront (statement : Statement) (part : Part) : Statement :=
  { statement with parts := part :: statement.parts }

/-- Turns the order of the parts around. -/
def reverse (statement : Statement) : Statement :=
  { statement with parts := statement.parts.reverse }

/-- Sets the text that is written in place of the parts. -/
def withLiteral (statement : Statement) (sql : String) : Statement :=
  { statement with literal := some sql }

end Statement

/-- The state of writing a statement out: the segments written so far, whether a condition is among
them, and which of them is the sort clause. -/
structure Layout where
  segments : List String
  conditionSeen : Bool
  orderingAt : Option Nat
  deriving DecidableEq

namespace Layout

/-- Nothing is written yet. -/
def empty : Layout := ⟨[], false, none⟩

/-- Writes a segment behind all others. -/
def append (layout : Layout) (segment : String) : Layout :=
  { layout with segments := layout.segments ++ [segment] }

/-- The word before a condition: the first one opens the clause, later ones are connected to it. -/
def connector (layout : Layout) (condition : Condition) : String :=
  if !layout.conditionSeen then "WHERE" else if condition.alternate then "OR" else "AND"

/-- Writes one part: parts without text leave no trace, and sort terms after the first extend the
segment of the first. -/
def add (layout : Layout) (part : Part) : Layout :=
  if part.text = "" then layout
  else
    match part.clause with
    | .condition condition =>
        { layout.append (layout.connector condition ++ " " ++ part.text) with
          conditionSeen := true }
    | .ordering field direction =>
        match layout.orderingAt with
        | some index =>
            { layout with
              segments :=
                layout.segments.modify index (· ++ (", " ++ field ++ " " ++ direction.sql)) }
        | none => { layout.append part.text with orderingAt := some layout.segments.length }
    | _ => layout.append part.text

end Layout

/-- The parts in the order of the text. -/
def sortByRank (parts : List Part) : List Part := stableSort Part.rankLe parts

/-- The text of a list of parts: the segments of the sorted parts with one space between them. -/
def renderParts (parts : List Part) : String :=
  Text.joinWith " " ((sortByRank parts).foldl Layout.add Layout.empty).segments

/-- The text of a statement: its literal if it has one, else the text of its parts. -/
def Statement.render (statement : Statement) : String :=
  match statement.literal with
  | some sql => sql
  | none => renderParts statement.parts

/-- Sorting keeps the order of the parts of each rank. -/
theorem filter_sortByRank (rank : Rank) (parts : List Part) :
    (sortByRank parts).filter (fun part => part.rank == rank) =
      parts.filter fun part => part.rank == rank := by
  apply filter_stableSort
  intro left right leftRank rightRank
  simp only [beq_iff_eq] at leftRank rightRank
  simp [Part.rankLe, leftRank, rightRank]

end RankedSql

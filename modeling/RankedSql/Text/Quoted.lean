/-!
# Quoted literals

A literal stands between two quote marks, and a quote mark inside it is written twice. Doubling goes
through a text character by character (`doubled_append`): a lexer can undo it while it reads.
-/

namespace RankedSql.Text

/-- Writes each quote mark twice. -/
def doubled (mark : Char) : List Char → List Char
  | [] => []
  | head :: tail =>
      if head = mark then mark :: mark :: doubled mark tail else head :: doubled mark tail

/-- The literal of a text between the given quote marks. -/
def quoted (mark : Char) (text : String) : String :=
  String.ofList (mark :: doubled mark text.toList ++ [mark])

theorem doubled_append (mark : Char) (left right : List Char) :
    doubled mark (left ++ right) = doubled mark left ++ doubled mark right := by
  induction left with
  | nil => rfl
  | cons head tail ih =>
      simp only [List.cons_append, doubled]
      split <;> simp [ih]

theorem doubled_eq_self {mark : Char} {text : List Char} (absent : mark ∉ text) :
    doubled mark text = text := by
  induction text with
  | nil => rfl
  | cons head tail ih =>
      rw [doubled, if_neg (List.ne_of_not_mem_cons absent).symm,
        ih (List.not_mem_of_not_mem_cons absent)]

/-- A mark is written twice and every other character once. -/
theorem count_doubled (mark char : Char) (text : List Char) :
    (doubled mark text).count char = (if char = mark then 2 else 1) * text.count char := by
  induction text with
  | nil => simp [doubled]
  | cons head tail ih =>
      by_cases headMark : head = mark <;> by_cases charHead : char = head <;> grind [doubled]

@[simp]
theorem toList_quoted (mark : Char) (text : String) :
    (quoted mark text).toList = mark :: doubled mark text.toList ++ [mark] := by
  simp [quoted]

end RankedSql.Text

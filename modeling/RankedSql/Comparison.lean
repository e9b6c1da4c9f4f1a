/-!
# Comparisons

The comparison operators of conditions and joins, and the operator that a symbol stands for.
-/

namespace RankedSql

/-- A comparison operator. -/
inductive Comparison where
  | equal
  | unequal
  | greater
  | less
  | atLeast
  | atMost
  deriving DecidableEq

namespace Comparison

/-- The operator as it is written. -/
def symbol : Comparison → String
  | .equal => "="
  | .unequal => "!="
  | .greater => ">"
  | .less => "<"
  | .atLeast => ">="
  | .atMost => "<="

/-- All comparison operators. -/
def all : List Comparison := [.equal, .unequal, .greater, .less, .atLeast, .atMost]

/-- The operator that a symbol stands for. -/
def ofSymbol? (symbol : String) : Option Comparison :=
  all.find? fun comparison => comparison.symbol == symbol

/-- What is said of a text that is no operator's symbol. -/
def unknownMessage (symbol : String) : String :=
  "unknown comparison operator `" ++ symbol ++ "`"

/-- A symbol is read as the operator that is written so. -/
theorem ofSymbol?_eq_some_iff {symbol : String} {comparison : Comparison} :
    ofSymbol? symbol = some comparison ↔ comparison.symbol = symbol := by
  constructor
  · intro found
    simpa using List.find?_some found
  · rintro rfl
    cases comparison <;> rfl

end Comparison

end RankedSql

/-!
# Scanning for open semicolons

A scan over a statement that keeps track of single- and double-quoted literals and stops at the
first semicolon outside them. Positions count the bytes of the UTF-8 form.
-/

namespace RankedSql

/-- Where a scan stands: outside literals, or in a literal of one of the two kinds. -/
inductive QuoteState where
  | outside
  | inSingle
  | inDouble
  deriving DecidableEq

/-- The state after a character: each kind of literal is closed only by its own mark. -/
def QuoteState.next : QuoteState → Char → QuoteState
  | .outside, char =>
      if char = '\'' then .inSingle else if char = '"' then .inDouble else .outside
  | .inSingle, char => if char = '\'' then .outside else .inSingle
  | .inDouble, char => if char = '"' then .outside else .inDouble

/-- The number of bytes of a text in UTF-8. -/
def byteLength : List Char → Nat
  | [] => 0
  | head :: tail => head.utf8Size + byteLength tail

/-- The state after a text. -/
def QuoteState.after (state : QuoteState) (text : List Char) : QuoteState :=
  text.foldl QuoteState.next state

namespace Guard

/-- The position of the first semicolon outside literals, for a scan that stands in a given state at
a given position. -/
def openSemicolonFrom? : QuoteState → Nat → List Char → Option Nat
  | _, _, [] => none
  | state, position, head :: tail =>
      if state = .outside ∧ head = ';' then some position
      else openSemicolonFrom? (state.next head) (position + head.utf8Size) tail

/-- The byte position of the first semicolon outside literals. -/
def openSemicolon? (sql : String) : Option Nat :=
  openSemicolonFrom? .outside 0 sql.toList

end Guard

end RankedSql

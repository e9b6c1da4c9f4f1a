/-!
# Ranges of code points

Properties of characters that a standard lists are given as tables of code point ranges, both ends
included.
-/

namespace RankedSql.Text

/-- Whether a character's code point lies in one of the ranges of a table. -/
def inRanges (ranges : List (Nat × Nat)) (char : Char) : Bool :=
  ranges.any fun range => decide (range.1 ≤ char.toNat) && decide (char.toNat ≤ range.2)

theorem toNat_of_isDigit {char : Char} (digit : char.isDigit = true) :
    48 ≤ char.toNat ∧ char.toNat ≤ 57 := by
  simpa [Char.isDigit, UInt32.le_iff_toNat_le] using digit

end RankedSql.Text

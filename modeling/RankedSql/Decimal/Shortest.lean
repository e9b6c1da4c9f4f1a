import RankedSql.Decimal.Basic

/-!
# Shortest decimals of binary numbers

A finite binary number of 64 bits is written with the fewest digits that still read back as it, and
among those with the nearest. All arithmetic is exact, on natural numbers: the value and the ends of
the interval of reals that round to it are multiples of a quarter of its last place.
-/

namespace RankedSql

/-- The number `significand · 2 ^ exponent`, up to its sign. -/
structure Binary64 where
  negative : Bool
  significand : Nat
  exponent : Int
  deriving DecidableEq

namespace Binary64

/-- The leading bit of a significand, above its 52 stored bits. -/
def leadingBit : Nat := 4503599627370496

/-- The number with the given 64 bits: the sign, eleven bits of exponent, and the stored bits of the
significand. Infinities and NaN have none. -/
def ofBits? (bits : Nat) : Option Binary64 :=
  let stored := bits % leadingBit
  let biased := bits / leadingBit % 2048
  let negative := bits / leadingBit / 2048 % 2 == 1
  if biased = 2047 then none
  else if biased = 0 then some ⟨negative, stored, -1074⟩
  else some ⟨negative, leadingBit + stored, (biased : Int) - 1075⟩

/-- The distance, in quarters of the last place, down to the reals that round to the neighbour
below: it is halved where the numbers below lie twice as close. -/
def lowerGap (number : Binary64) : Nat :=
  if number.significand = leadingBit ∧ -1074 < number.exponent then 1 else 2

/-- A quarter of the last place, as a fraction. -/
def quarter (number : Binary64) : Nat × Nat :=
  (Nat.pow 2 (number.exponent - 2).toNat, Nat.pow 2 (2 - number.exponent).toNat)

/-- The number of decimal digits before the point of `numerator / denominator`; for fractions below
one, zero less the number of zeros that follow the point. -/
def decade (numerator denominator : Nat) : Int :=
  if denominator ≤ numerator then (Nat.toDigits 10 (numerator / denominator)).length
  else 1 - ((Nat.toDigits 10 ((denominator - 1) / numerator)).length : Int)

/-- Of the two multiples of `10 ^ place` around the number, the one that reads back as it; of two
such the nearer, and at equal distance the upper one. -/
def onGrid? (number : Binary64) (place : Int) : Option Nat :=
  let unit := number.quarter.1 * Nat.pow 10 (-place).toNat
  let step := number.quarter.2 * Nat.pow 10 place.toNat
  let value := 4 * number.significand * unit
  let low := (4 * number.significand - number.lowerGap) * unit
  let high := (4 * number.significand + 2) * unit
  let readsBack (multiple : Nat) : Bool :=
    if number.significand % 2 = 0 then
      decide (low ≤ multiple * step) && decide (multiple * step ≤ high)
    else decide (low < multiple * step) && decide (multiple * step < high)
  let below := value / step
  let above := below + 1
  match readsBack below, readsBack above with
  | true, true => if value - below * step < above * step - value then some below else some above
  | true, false => some below
  | false, true => some above
  | false, false => none

/-- The decimal with the fewest digits, at most seventeen, that reads back as the number; seventeen
always suffice. -/
def shortest (number : Binary64) : Decimal :=
  let top := decade (4 * number.significand * number.quarter.1) number.quarter.2
  let found := (List.range 17).findSome? fun (fewer : Nat) =>
    let place := top - ((fewer : Int) + 1)
    (number.onGrid? place).map fun multiple => (⟨multiple, place⟩ : Decimal)
  found.getD
    ⟨number.significand * Nat.pow 5 (-number.exponent).toNat * Nat.pow 2 number.exponent.toNat,
      if number.exponent < 0 then number.exponent else 0⟩

/-- The shortest decimal in positional notation, after a minus sign if the number is negative. -/
def text (number : Binary64) : String :=
  let digits := if number.significand = 0 then ['0'] else number.shortest.positional
  String.ofList (if number.negative then '-' :: digits else digits)

/-- A number is written with digits, points and minus signs only. -/
theorem plain_of_mem_text {number : Binary64} {char : Char} (member : char ∈ number.text.toList) :
    char.isDigit = true ∨ char = '.' ∨ char = '-' := by
  have digits_plain : ∀ {char : Char},
      char ∈ (if number.significand = 0 then ['0'] else number.shortest.positional) →
        char.isDigit = true ∨ char = '.' := by
    intro char inDigits
    split at inDigits
    · exact Or.inl (by rw [List.mem_singleton.1 inDigits]; rfl)
    · exact Decimal.isDigit_or_point_of_mem_positional inDigits
  simp only [text, String.toList_ofList] at member
  split at member
  · rcases List.mem_cons.1 member with sign | digit
    · exact Or.inr (Or.inr sign)
    · exact (digits_plain digit).elim Or.inl fun point => Or.inr (Or.inl point)
  · exact (digits_plain member).elim Or.inl fun point => Or.inr (Or.inl point)

theorem text_ne_empty (number : Binary64) : number.text ≠ "" := by
  have digits : (if number.significand = 0 then ['0'] else number.shortest.positional) ≠ [] := by
    split
    · exact List.cons_ne_nil _ _
    · exact number.shortest.positional_ne_nil
  intro empty
  have chars := congrArg String.toList empty
  simp only [text, String.toList_ofList] at chars
  split at chars
  · cases chars
  · exact digits chars

end Binary64

end RankedSql

/-!
# Positional decimals

A decimal number is a coefficient times a power of ten. `Decimal.positional` writes it without an
exponent; the text holds digits and at most one point (`isDigit_or_point_of_mem_positional`).
-/

namespace RankedSql

/-- The number `coefficient · 10 ^ place`. -/
structure Decimal where
  coefficient : Nat
  place : Int
  deriving DecidableEq

namespace Decimal

/-- The digits without the zeros at their end. -/
def trimZeros (digits : List Char) : List Char :=
  (digits.reverse.dropWhile (· == '0')).reverse

/-- The digits of a fraction after a point, or nothing if they are all zero. -/
def fractionText (digits : List Char) : List Char :=
  match trimZeros digits with
  | [] => []
  | first :: rest => '.' :: first :: rest

/-- Positional notation: all digits of the whole part, then the fraction if there is one. -/
def positional (number : Decimal) : List Char :=
  let digits := Nat.toDigits 10 number.coefficient
  let fractionLength := (-number.place).toNat
  let padded :=
    List.replicate (fractionLength + 1 - digits.length) '0' ++ digits ++
      List.replicate number.place.toNat '0'
  let wholeLength := padded.length - fractionLength
  padded.take wholeLength ++ fractionText (padded.drop wholeLength)

theorem mem_of_mem_trimZeros {char : Char} {digits : List Char}
    (member : char ∈ trimZeros digits) : char ∈ digits := by
  have := (List.dropWhile_sublist (· == '0')).subset (List.mem_reverse.1 member)
  simpa using this

theorem mem_of_mem_fractionText {char : Char} {digits : List Char}
    (member : char ∈ fractionText digits) : char = '.' ∨ char ∈ digits := by
  unfold fractionText at member
  split at member
  · simp at member
  · next first rest trimmed =>
      rcases List.mem_cons.1 member with point | digit
      · exact Or.inl point
      · exact Or.inr (mem_of_mem_trimZeros (trimmed ▸ digit))

/-- Positional notation consists of digits and points. -/
theorem isDigit_or_point_of_mem_positional {char : Char} {number : Decimal}
    (member : char ∈ number.positional) : char.isDigit = true ∨ char = '.' := by
  have padded_digit : ∀ {char : Char} {left right : Nat},
      char ∈ List.replicate left '0' ++ Nat.toDigits 10 number.coefficient ++
        List.replicate right '0' → char.isDigit = true := by
    intro char left right inPadded
    rcases List.mem_append.1 inPadded with front | zero
    · rcases List.mem_append.1 front with zero | digit
      · rw [List.eq_of_mem_replicate zero]
        rfl
      · exact Nat.isDigit_of_mem_toDigits (by decide) (by decide) digit
    · rw [List.eq_of_mem_replicate zero]
      rfl
  unfold positional at member
  rcases List.mem_append.1 member with whole | fraction
  · exact Or.inl (padded_digit (List.mem_of_mem_take whole))
  · rcases mem_of_mem_fractionText fraction with point | digit
    · exact Or.inr point
    · exact Or.inl (padded_digit (List.mem_of_mem_drop digit))

theorem positional_ne_nil (number : Decimal) : number.positional ≠ [] := by
  -- Zeros are filled in up to one digit more than the fraction has, so the whole part has a digit.
  intro empty
  have length := congrArg List.length (List.append_eq_nil_iff.1 empty).1
  simp only [List.length_take, List.length_append, List.length_replicate, List.length_nil] at length
  omega

end Decimal

end RankedSql

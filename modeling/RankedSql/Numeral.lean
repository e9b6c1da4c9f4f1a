/-!
# Decimal numerals

Natural numbers are written with `Nat.repr`, without leading zeros. Reading accepts leading zeros
and, for sizes, one plus sign in front. Main statements: what is written is read back
(`natural?_toDigits`, `size?_toDigits`).
-/

namespace RankedSql.Numeral

/-- Reads a non-empty run of decimal digits. -/
def natural? (text : List Char) : Option Nat :=
  if text.isEmpty then none
  else if text.all Char.isDigit then some (Nat.ofDigitChars 10 text 0)
  else none

/-- The text without one plus sign in front. -/
def withoutPlus : List Char → List Char
  | '+' :: rest => rest
  | text => text

/-- Reads a number below `2 ^ 32`, with an optional plus sign. -/
def size? (text : List Char) : Option UInt32 :=
  (natural? (withoutPlus text)).bind fun number =>
    if number < UInt32.size then some (UInt32.ofNat number) else none

/-- The numeral of a number, filled up with zeros on the left to a given width. -/
def padded (width number : Nat) : String :=
  let digits := Nat.toDigits 10 number
  String.ofList (List.replicate (width - digits.length) '0' ++ digits)

theorem natural?_toDigits (number : Nat) : natural? (Nat.toDigits 10 number) = some number := by
  have allDigits : (Nat.toDigits 10 number).all Char.isDigit = true :=
    List.all_eq_true.2 fun _ member =>
      Nat.isDigit_of_mem_toDigits (by decide) (by decide) member
  have notEmpty : (Nat.toDigits 10 number).isEmpty = false :=
    List.isEmpty_eq_false_iff.2 Nat.toDigits_ne_nil
  simp [natural?, allDigits, notEmpty]

theorem isDigit_of_mem_padded {char : Char} {width number : Nat}
    (member : char ∈ (padded width number).toList) : char.isDigit = true := by
  simp only [padded, String.toList_ofList, List.mem_append, List.mem_replicate] at member
  rcases member with ⟨_, rfl⟩ | digit
  · decide
  · exact Nat.isDigit_of_mem_toDigits (by decide) (by decide) digit

theorem not_mem_padded {char : Char} (notDigit : char.isDigit = false) (width number : Nat) :
    char ∉ (padded width number).toList :=
  fun member => Bool.false_ne_true (notDigit.symm.trans (isDigit_of_mem_padded member))

theorem withoutPlus_toDigits (number : Nat) :
    withoutPlus (Nat.toDigits 10 number) = Nat.toDigits 10 number := by
  unfold withoutPlus
  split
  · next rest digits =>
      have : '+' ∈ Nat.toDigits 10 number := by simp [digits]
      exact absurd (Nat.isDigit_of_mem_toDigits (by decide) (by decide) this) (by decide)
  · rfl

theorem size?_toDigits (size : UInt32) : size? (Nat.toDigits 10 size.toNat) = some size := by
  have small : size.toNat < UInt32.size := size.toNat_lt
  rw [size?, withoutPlus_toDigits, natural?_toDigits, Option.bind_some, if_pos small,
    UInt32.ofNat_toNat]

/-- A size is read exactly from a non-empty run of digits, with an optional plus sign, that denotes
a number below `2 ^ 32`. -/
theorem size?_eq_some_iff {text : List Char} {size : UInt32} :
    size? text = some size ↔
      withoutPlus text ≠ [] ∧ (withoutPlus text).all Char.isDigit = true ∧
        Nat.ofDigitChars 10 (withoutPlus text) 0 = size.toNat := by
  unfold size? natural?
  by_cases empty : withoutPlus text = []
  · simp [empty]
  · by_cases digits : (withoutPlus text).all Char.isDigit = true
    · simp only [List.isEmpty_iff, empty, if_false, digits, if_true, Option.bind_some, ne_eq,
        not_false_eq_true, true_and]
      constructor
      · intro read
        split at read
        · next small =>
            rw [← Option.some.inj read, UInt32.toNat_ofNat', Nat.mod_eq_of_lt small]
        · simp at read
      · intro same
        have small : size.toNat < UInt32.size := size.toNat_lt
        rw [same, if_pos small, UInt32.ofNat_toNat]
    · simp [empty, digits]

end RankedSql.Numeral

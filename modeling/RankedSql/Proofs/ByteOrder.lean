import RankedSql.Numeral
import Mathlib.Data.List.Lex
import Mathlib.Data.String.Basic

/-!
# The order of texts

Texts compare byte by byte as they compare character by character, since UTF-8 keeps the order of
characters (`Text.bytes_lt_bytes_iff`). Numerals filled up to one width compare as their numbers
(`Numeral.precedes_padded`).

Both look at the first place where two lists differ (`Precedes`), which is the same place after
equal beginnings and before any ends.
-/

namespace RankedSql

/-- Two lists differ at some place, and at the first such place the entry of the left one is
smaller. -/
inductive Precedes {α : Type} [LT α] : List α → List α → Prop where
  | here {left right : α} {leftRest rightRest : List α} (lt : left < right) :
      Precedes (left :: leftRest) (right :: rightRest)
  | later {left right : List α} (common : α) (precedes : Precedes left right) :
      Precedes (common :: left) (common :: right)

namespace Precedes

variable {α : Type} [LT α] {left right : List α}

theorem lt (precedes : Precedes left right) : left < right := by
  induction precedes with
  | here lt => exact List.cons_lt_cons_iff.2 (.inl lt)
  | later common _ ih => exact List.cons_lt_cons_iff.2 (.inr ⟨rfl, ih⟩)

theorem append (precedes : Precedes left right) (leftRest rightRest : List α) :
    Precedes (left ++ leftRest) (right ++ rightRest) := by
  induction precedes with
  | here lt => exact .here lt
  | later common _ ih => exact .later common ih

theorem append_left (precedes : Precedes left right) (common : List α) :
    Precedes (common ++ left) (common ++ right) := by
  induction common with
  | nil => exact precedes
  | cons head tail ih => exact .later head ih

theorem cons_iff {leftHead rightHead : α} :
    Precedes (leftHead :: left) (rightHead :: right) ↔
      leftHead < rightHead ∨ leftHead = rightHead ∧ Precedes left right := by
  constructor
  · rintro (lt | ⟨_, precedes⟩)
    · exact .inl lt
    · exact .inr ⟨rfl, precedes⟩
  · rintro (lt | ⟨rfl, precedes⟩)
    · exact .here lt
    · exact .later _ precedes

end Precedes

namespace Text

/-- The bytes of a text in UTF-8. -/
def bytes (text : String) : List UInt8 := text.toUTF8.data.toList

theorem bytes_eq_flatMap (text : String) :
    bytes text = text.toList.flatMap String.utf8EncodeChar := by
  rw [bytes, String.toUTF8_eq_toByteArray, ← String.utf8Encode_toList, List.utf8Encode]
  simp

theorem precedes_utf8EncodeChar {left right : Char} (lt : left < right) :
    Precedes (String.utf8EncodeChar left) (String.utf8EncodeChar right) := by
  have codes : left.val.toNat < right.val.toNat := lt
  have bound : right.val.toNat < 1114112 := by
    rcases right.valid with low | ⟨_, high⟩
    · exact Nat.lt_trans low (by decide)
    · exact high
  unfold String.utf8EncodeChar
  dsimp only
  generalize left.val.toNat = leftCode at codes
  generalize right.val.toNat = rightCode at codes bound
  -- Each number of bytes on the left and on the right is one comparison of quotients.
  split_ifs <;>
    simp (disch := omega) only [Precedes.cons_iff, UInt8.lt_iff_toNat_lt, ← UInt8.toNat_inj,
      UInt8.toNat_ofNat', Nat.mod_eq_of_lt] <;>
    omega

theorem bytes_lt_bytes {left right : String} (lt : left < right) : bytes left < bytes right := by
  rw [bytes_eq_flatMap, bytes_eq_flatMap]
  have chars : left.toList < right.toList := String.lt_iff.1 lt
  generalize left.toList = leftChars, right.toList = rightChars at chars
  induction chars with
  | @nil head tail =>
      have notEmpty : String.utf8EncodeChar head ≠ [] := String.utf8EncodeChar_ne_nil
      rcases List.exists_cons_of_ne_nil notEmpty with ⟨_, _, bytes_eq⟩
      rw [List.flatMap_nil, List.flatMap_cons, bytes_eq]
      exact List.nil_lt_cons _ _
  | rel lt => exact ((precedes_utf8EncodeChar lt).append _ _).lt
  | cons _ ih => exact List.append_left_lt ih

/-- Texts compare byte by byte as they compare character by character. -/
theorem bytes_lt_bytes_iff {left right : String} : bytes left < bytes right ↔ left < right := by
  refine ⟨fun lt => ?_, bytes_lt_bytes⟩
  rcases lt_trichotomy left right with before | rfl | after
  · exact before
  · exact absurd lt (List.lt_irrefl _)
  · exact absurd lt (List.lt_asymm (bytes_lt_bytes after))

end Text

namespace Numeral

theorem toList_padded_one {number : Nat} (fits : number < 10) :
    (padded 1 number).toList = [number.digitChar] := by
  simp [padded, Nat.toDigits_of_lt_base fits]

theorem toList_padded_succ {width : Nat} (width_pos : 0 < width) (number : Nat) :
    (padded (width + 1) number).toList =
      (padded width (number / 10)).toList ++ [(number % 10).digitChar] := by
  simp only [padded, String.toList_ofList]
  rcases Nat.lt_or_ge number 10 with single | several
  · rcases Nat.exists_eq_add_one.2 width_pos with ⟨smaller, rfl⟩
    rw [Nat.toDigits_of_lt_base single, Nat.div_eq_of_lt single, Nat.mod_eq_of_lt single,
      Nat.toDigits_zero]
    simp [List.replicate_succ']
  · rw [Nat.toDigits_of_base_le (by decide) several]
    simp

theorem digitChar_lt_digitChar {left right : Nat} (lt : left < right) (fits : right < 10) :
    left.digitChar < right.digitChar := by
  have table : ∀ right < 10, ∀ left < right, left.digitChar < right.digitChar := by decide
  exact table right fits left lt

/-- Of two numerals of one width, the one of the smaller number comes first. -/
theorem precedes_padded {width left right : Nat} (width_pos : 0 < width) (lt : left < right)
    (fits : right < 10 ^ width) :
    Precedes (padded width left).toList (padded width right).toList := by
  induction width, (show 1 ≤ width from width_pos) using Nat.le_induction
    generalizing left right with
  | base =>
      rw [toList_padded_one (lt.trans fits), toList_padded_one fits]
      exact .here (digitChar_lt_digitChar lt fits)
  | succ width one_le ih =>
      rw [toList_padded_succ one_le, toList_padded_succ one_le]
      -- The numbers without their last digits are in order, or they are the same.
      have quotients : left / 10 ≤ right / 10 := Nat.div_le_div_right lt.le
      rcases Nat.lt_or_eq_of_le quotients with shorter | same
      · refine (ih one_le shorter ?_).append _ _
        rw [Nat.pow_succ] at fits
        omega
      · rw [same]
        refine Precedes.append_left (.here (digitChar_lt_digitChar ?_ ?_)) _
        · omega
        · omega

end Numeral

end RankedSql

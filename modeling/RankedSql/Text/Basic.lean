/-!
# Text operations

The few operations on plain text that the composer needs: joining, splitting at a mark, folding
ASCII letters to capitals, and looking for a phrase. Each is a recursion on the characters.
-/

namespace RankedSql.Text

/-- Joins texts with a separator between neighbours. -/
def joinWith (separator : String) : List String → String
  | [] => ""
  | [only] => only
  | first :: second :: rest => first ++ separator ++ joinWith separator (second :: rest)

@[simp]
theorem joinWith_nil (separator : String) : joinWith separator [] = "" := rfl

@[simp]
theorem joinWith_singleton (separator only : String) : joinWith separator [only] = only := rfl

theorem joinWith_cons_cons (separator first second : String) (rest : List String) :
    joinWith separator (first :: second :: rest) =
      first ++ separator ++ joinWith separator (second :: rest) := rfl

theorem joinWith_append (separator : String) {left right : List String} (leftNotEmpty : left ≠ [])
    (rightNotEmpty : right ≠ []) :
    joinWith separator (left ++ right) =
      joinWith separator left ++ separator ++ joinWith separator right := by
  fun_induction joinWith separator left with
  | case1 => exact absurd rfl leftNotEmpty
  | case2 only =>
      rcases List.exists_cons_of_ne_nil rightNotEmpty with ⟨first, rest, rfl⟩
      rfl
  | case3 first second rest ih =>
      have joined := ih (List.cons_ne_nil second rest)
      rw [List.cons_append] at joined
      rw [List.cons_append, List.cons_append, joinWith_cons_cons, joined]
      simp only [String.append_assoc]

/-- The characters before and after the first occurrence of a mark. -/
def splitAtFirst? (mark : Char) : List Char → Option (List Char × List Char)
  | [] => none
  | head :: tail =>
      if head = mark then some ([], tail)
      else (splitAtFirst? mark tail).map fun halves => (head :: halves.1, halves.2)

/-- The two halves around the mark give back the text, and the first half is free of the mark. -/
theorem eq_of_splitAtFirst? {mark : Char} {text before after : List Char}
    (split : splitAtFirst? mark text = some (before, after)) :
    text = before ++ mark :: after ∧ mark ∉ before := by
  induction text generalizing before with
  | nil => simp [splitAtFirst?] at split
  | cons head tail ih =>
      unfold splitAtFirst? at split
      split at split
      · next same =>
          rcases Prod.mk.inj (Option.some.inj split) with ⟨rfl, rfl⟩
          simp [same]
      · next different =>
          rcases Option.map_eq_some_iff.1 split with ⟨⟨front, back⟩, found, halves⟩
          rcases Prod.mk.inj halves with ⟨rfl, rfl⟩
          rcases ih found with ⟨whole, absent⟩
          exact ⟨by simp [whole], by simp [absent, Ne.symm different]⟩

/-- A text is split behind a half that is free of the mark. -/
theorem splitAtFirst?_append {mark : Char} {before : List Char} (absent : mark ∉ before)
    (after : List Char) : splitAtFirst? mark (before ++ mark :: after) = some (before, after) := by
  induction before with
  | nil => simp [splitAtFirst?]
  | cons head tail ih =>
      rw [List.mem_cons, not_or] at absent
      simp [splitAtFirst?, Ne.symm absent.1, ih absent.2]

/-- The text left after a given start, if the text has that start. -/
def stripStart? : List Char → List Char → Option (List Char)
  | [], text => some text
  | _ :: _, [] => none
  | expected :: start, head :: tail => if head = expected then stripStart? start tail else none

/-- A start is stripped exactly from the texts that continue it. -/
theorem stripStart?_eq_some_iff {start text rest : List Char} :
    stripStart? start text = some rest ↔ text = start ++ rest := by
  induction start generalizing text with
  | nil => simp [stripStart?, eq_comm]
  | cons expected start ih =>
      cases text with
      | nil => simp [stripStart?]
      | cons head tail =>
          unfold stripStart?
          split
          · next same => simp [ih, same]
          · next different => simp [different]

/-- Whether a phrase occurs somewhere in a text. -/
def mentions (phrase : List Char) : List Char → Bool
  | [] => phrase.isEmpty
  | head :: tail => (stripStart? phrase (head :: tail)).isSome || mentions phrase tail

/-- A phrase occurs exactly in the texts that have it between two further texts. -/
theorem mentions_iff {phrase text : List Char} :
    mentions phrase text = true ↔ ∃ before after, text = before ++ phrase ++ after := by
  induction text with
  | nil => simp [mentions]
  | cons head tail ih =>
      simp only [mentions, Bool.or_eq_true, Option.isSome_iff_exists, stripStart?_eq_some_iff, ih]
      constructor
      · rintro (⟨rest, whole⟩ | ⟨before, after, whole⟩)
        · exact ⟨[], rest, by simpa using whole⟩
        · exact ⟨head :: before, after, by simp [whole]⟩
      · rintro ⟨before, after, whole⟩
        cases before with
        | nil => exact Or.inl ⟨after, by simpa using whole⟩
        | cons first before =>
            simp only [List.cons_append, List.cons.injEq] at whole
            exact Or.inr ⟨before, after, by simpa using whole.2⟩

/-- The text with `a` to `z` written as capitals and all else unchanged. -/
def upperAscii (text : String) : String :=
  String.ofList (text.toList.map Char.toUpper)

@[simp]
theorem toList_upperAscii (text : String) :
    (upperAscii text).toList = text.toList.map Char.toUpper := by
  simp [upperAscii]

theorem toNat_toUpper (char : Char) :
    char.toUpper.toNat =
      if 97 ≤ char.toNat ∧ char.toNat ≤ 122 then char.toNat - 32 else char.toNat := by
  unfold Char.toUpper
  split
  · next small =>
      have bounds : 97 ≤ char.val.toNat ∧ char.val.toNat ≤ 122 := by
        simpa [UInt32.le_iff_toNat_le] using small
      simp only [Char.toNat, UInt32.toNat_add, if_pos bounds]
      change (char.val.toNat + 4294967264) % 4294967296 = _
      omega
  · next other =>
      have bounds : ¬(97 ≤ char.val.toNat ∧ char.val.toNat ≤ 122) := by
        simpa [UInt32.le_iff_toNat_le] using other
      simp only [Char.toNat, if_neg bounds]

end RankedSql.Text

import RankedSql.Value
import RankedSql.Proofs.ByteOrder
import RankedSql.Proofs.Calendar

/-!
# Sorted times

The texts of instants sort as the instants do (`Value.stored_instant_sorted`): a column of instants
can be ordered and searched by a range although the engine compares texts. A text is cut off after
the milliseconds, or after the day, so instants that are the same up to there have the same text.

The date and the clock are numerals of fixed widths with marks between them. So the order of texts
is that of the first numeral that differs, once an earlier instant is known to have an earlier date
or the same date with an earlier clock. This holds in a leap second as well, as it is shown as a
second of its own at the end of its minute.
-/

namespace RankedSql

/-! ## Dates -/

namespace Date

theorem monthLength_le (year : Int) (month : Nat) : monthLength year month ≤ 31 := by
  unfold monthLength
  split_ifs <;> decide

/-- The text of a year has four digits and no sign. -/
def HasPlainYear (date : Date) : Prop := 0 ≤ date.year ∧ date.year ≤ 9999

/-- Texts of dates compare as the dates do. -/
theorem precedes_text {left right : Date} (lt : left < right) (valid : right.IsValid)
    (leftPlain : left.HasPlainYear) (rightPlain : right.HasPlainYear) :
    Precedes left.text.toList right.text.toList := by
  have month_le := valid.month_le
  have day_le := valid.day_le.trans (monthLength_le _ _)
  have leftYear : yearText left.year = Numeral.padded 4 left.year.toNat := if_pos leftPlain
  have rightYear : yearText right.year = Numeral.padded 4 right.year.toNat := if_pos rightPlain
  unfold HasPlainYear at leftPlain rightPlain
  simp only [text, leftYear, rightYear, String.toList_append]
  rcases lt_def.1 lt with year_lt | ⟨year_eq, month_lt | ⟨month_eq, day_lt⟩⟩
  · have yearNumeral_lt : left.year.toNat < right.year.toNat := by omega
    exact ((((Numeral.precedes_padded (by decide) yearNumeral_lt (by omega)).append _ _).append
      _ _).append _ _).append _ _
  · rw [year_eq]
    exact (((Numeral.precedes_padded (by decide) month_lt (by omega)).append_left _).append
      _ _).append _ _
  · rw [year_eq, month_eq]
    exact (Numeral.precedes_padded (by decide) day_lt (by omega)).append_left _

theorem not_mem_text {char : Char} (notDigit : char.isDigit = false) (notSign : char ∉ ['-', '+'])
    (date : Date) : char ∉ date.text.toList := by
  simp only [List.mem_cons, List.not_mem_nil, or_false, not_or] at notSign
  unfold text yearText
  split_ifs <;> simp [Numeral.not_mem_padded notDigit, notSign]

end Date

/-! ## Instants -/

namespace Instant

/-- Instants are ordered by seconds, and those of one second by nanoseconds. -/
instance : LE Instant where
  le left right :=
    left.seconds < right.seconds ∨ left.seconds = right.seconds ∧ left.nanos ≤ right.nanos

theorem le_def {left right : Instant} :
    left ≤ right ↔
      left.seconds < right.seconds ∨ left.seconds = right.seconds ∧ left.nanos ≤ right.nanos :=
  Iff.rfl

/-- What a column keeps of an instant: the day, or the second and its milliseconds, which run on
through a leap second. -/
def truncated (instant : Instant) (type : Option ColumnType) : Int × Nat :=
  if type = some .date then (instant.seconds / 86400, 0)
  else (instant.seconds, instant.nanos / 1_000_000)

/-- The hour of the day, in UTC. -/
def hour (instant : Instant) : Nat := (instant.seconds % 86400).toNat / 3600

/-- The minute of the hour. -/
def minute (instant : Instant) : Nat := (instant.seconds % 86400).toNat / 60 % 60

theorem clockText_eq (instant : Instant) :
    instant.clockText =
      Numeral.padded 2 instant.hour ++ ":" ++ Numeral.padded 2 instant.minute ++ ":" ++
        Numeral.padded 2 instant.shownSecond ++ "." ++ Numeral.padded 3 instant.milliseconds := rfl

theorem not_mem_clockText {char : Char} (notDigit : char.isDigit = false)
    (notMark : char ∉ [':', '.']) (instant : Instant) : char ∉ instant.clockText.toList := by
  simp only [List.mem_cons, List.not_mem_nil, or_false, not_or] at notMark
  simp [clockText_eq, Numeral.not_mem_padded notDigit, notMark]

section Order

variable {left right : Instant}

theorem precedes_dateText (lt : left.seconds / 86400 < right.seconds / 86400)
    (leftPlain : left.date.HasPlainYear) (rightPlain : right.date.HasPlainYear) :
    Precedes left.date.text.toList right.date.text.toList :=
  Date.precedes_text (Date.ofDay_lt_ofDay lt) (Date.isValid_ofDay _) leftPlain rightPlain

theorem date_eq (same : left.seconds / 86400 = right.seconds / 86400) : left.date = right.date := by
  rw [date, date, same]

/-- Whether an instant comes before another one if both are cut off after the milliseconds. -/
def Before (left right : Instant) : Prop :=
  left.seconds < right.seconds ∨
    left.seconds = right.seconds ∧ left.nanos / 1_000_000 < right.nanos / 1_000_000

/-- The clocks of two instants of one day compare from the hours to the milliseconds. -/
theorem clock_lt (sameDay : left.seconds / 86400 = right.seconds / 86400)
    (before : Before left right) :
    left.hour < right.hour ∨ left.hour = right.hour ∧
      (left.minute < right.minute ∨ left.minute = right.minute ∧
        (left.shownSecond < right.shownSecond ∨ left.shownSecond = right.shownSecond ∧
          left.milliseconds < right.milliseconds)) := by
  rcases before with seconds_lt | ⟨seconds_eq, milliseconds_lt⟩
  · have later : left.hour < right.hour ∨ left.hour = right.hour ∧
        (left.minute < right.minute ∨
          left.minute = right.minute ∧ left.seconds % 60 < right.seconds % 60) := by
      unfold hour minute
      omega
    -- A second with another one behind it in its minute is not the last, so no leap second follows.
    have shown_lt : left.seconds % 60 < right.seconds % 60 →
        left.shownSecond < right.shownSecond := by
      intro lt
      have nanos_lt := left.nanos_lt
      unfold shownSecond
      omega
    rcases later with lt | ⟨hour_eq, lt | ⟨minute_eq, lt⟩⟩
    · exact .inl lt
    · exact .inr ⟨hour_eq, .inl lt⟩
    · exact .inr ⟨hour_eq, .inr ⟨minute_eq, .inl (shown_lt lt)⟩⟩
  · have hour_eq : left.hour = right.hour := by rw [hour, hour, seconds_eq]
    have minute_eq : left.minute = right.minute := by rw [minute, minute, seconds_eq]
    have rest : left.shownSecond < right.shownSecond ∨ left.shownSecond = right.shownSecond ∧
        left.milliseconds < right.milliseconds := by
      unfold shownSecond milliseconds
      omega
    exact .inr ⟨hour_eq, .inr ⟨minute_eq, rest⟩⟩

theorem precedes_clockText (sameDay : left.seconds / 86400 = right.seconds / 86400)
    (before : Before left right) : Precedes left.clockText.toList right.clockText.toList := by
  have hour_lt : right.hour < 24 := by
    unfold hour
    omega
  have minute_lt : right.minute < 60 := by
    unfold minute
    omega
  have second_lt : right.shownSecond < 100 := by
    have nanos_lt := right.nanos_lt
    unfold shownSecond
    omega
  have milliseconds_lt : right.milliseconds < 1000 := by
    unfold milliseconds
    omega
  simp only [clockText_eq, String.toList_append]
  rcases clock_lt sameDay before with lt | ⟨hour_eq, lt | ⟨minute_eq, lt | ⟨second_eq, lt⟩⟩⟩
  · exact ((((((Numeral.precedes_padded (by decide) lt (by omega)).append _ _).append _ _).append
      _ _).append _ _).append _ _).append _ _
  · rw [hour_eq]
    exact (((((Numeral.precedes_padded (by decide) lt (by omega)).append_left _).append
      _ _).append _ _).append _ _).append _ _
  · rw [hour_eq, minute_eq]
    exact (((Numeral.precedes_padded (by decide) lt (by omega)).append_left _).append
      _ _).append _ _
  · rw [hour_eq, minute_eq, second_eq]
    exact (Numeral.precedes_padded (by decide) lt (by omega)).append_left _

theorem clockText_eq_of_seconds_eq (seconds_eq : left.seconds = right.seconds)
    (milliseconds_eq : left.nanos / 1_000_000 = right.nanos / 1_000_000) :
    left.clockText = right.clockText := by
  have second_eq : left.shownSecond = right.shownSecond := by
    unfold shownSecond
    omega
  have fraction_eq : left.milliseconds = right.milliseconds := by
    unfold milliseconds
    omega
  rw [clockText_eq, clockText_eq, hour, hour, minute, minute, seconds_eq, second_eq, fraction_eq]

end Order

section Formats

variable (instant : Instant)

theorem toList_rfc3339 :
    instant.rfc3339.toList =
      instant.date.text.toList ++ 'T' :: (instant.clockText.toList ++ ['Z']) := by
  simp [rfc3339]

theorem not_mem_T_date : 'T' ∉ instant.date.text.toList :=
  instant.date.not_mem_text (by decide) (by decide)

theorem not_mem_T_clockText : 'T' ∉ instant.clockText.toList :=
  instant.not_mem_clockText (by decide) (by decide)

theorem count_T_rfc3339 : instant.rfc3339.toList.count 'T' = 1 := by
  simp [toList_rfc3339, List.count_eq_zero.2 instant.not_mem_T_date,
    List.count_eq_zero.2 instant.not_mem_T_clockText]

theorem getLast?_rfc3339 : instant.rfc3339.toList.getLast? = some 'Z' := by
  rw [toList_rfc3339, ← List.cons_append, ← List.append_assoc, List.getLast?_concat]

theorem map_dropLast_rfc3339 :
    instant.rfc3339.toList.dropLast.map (fun char => if char = 'T' then ' ' else char) =
      instant.dateTimeText.toList := by
  have kept : ∀ text : List Char, 'T' ∉ text →
      text.map (fun char => if char = 'T' then ' ' else char) = text := by
    intro text absent
    have same : ∀ char ∈ text, (if char = 'T' then ' ' else char) = char :=
      fun char member => if_neg (ne_of_mem_of_not_mem member absent)
    exact (List.map_congr_left same).trans (List.map_id' text)
  have dropped : instant.rfc3339.toList.dropLast =
      instant.date.text.toList ++ 'T' :: instant.clockText.toList := by
    rw [toList_rfc3339, ← List.cons_append, ← List.append_assoc, List.dropLast_concat]
  rw [dropped, List.map_append, List.map_cons, if_pos rfl, kept _ instant.not_mem_T_date,
    kept _ instant.not_mem_T_clockText]
  simp [dateTimeText]

theorem takeWhile_rfc3339 :
    instant.rfc3339.toList.takeWhile (· ≠ 'T') = instant.dateText.toList := by
  have before : ∀ char ∈ instant.date.text.toList, decide (char ≠ 'T') = true := by
    rintro char member
    exact decide_eq_true (ne_of_mem_of_not_mem member instant.not_mem_T_date)
  rw [toList_rfc3339, List.takeWhile_append_of_pos before]
  simp [dateText]

end Formats

end Instant

/-! ## Stored texts -/

namespace Value

variable {type : Option ColumnType} {left right : Instant}

theorem exists_instantText_eq (notDate : type ≠ some .date) :
    ∃ separator ending, ∀ instant : Instant,
      instantText instant type = instant.date.text ++ separator ++ instant.clockText ++ ending := by
  unfold instantText
  split
  · exact absurd rfl notDate
  · exact ⟨" ", "", fun _ => (String.append_empty).symm⟩
  · exact ⟨" ", "", fun _ => (String.append_empty).symm⟩
  · exact ⟨"T", "Z", fun _ => rfl⟩

/-- Of two instants that a column keeps apart, the text of the earlier one comes first. -/
theorem precedes_instantText (le : left ≤ right) (leftPlain : left.date.HasPlainYear)
    (rightPlain : right.date.HasPlainYear) (differ : left.truncated type ≠ right.truncated type) :
    Precedes (instantText left type).toList (instantText right type).toList := by
  have day_le : left.seconds / 86400 ≤ right.seconds / 86400 := by
    rcases Instant.le_def.1 le with lt | ⟨seconds_eq, _⟩
    · omega
    · rw [seconds_eq]
  by_cases isDate : type = some .date
  · rw [isDate] at differ ⊢
    have day_ne : left.seconds / 86400 ≠ right.seconds / 86400 :=
      fun same => differ (by simp [Instant.truncated, same])
    exact Instant.precedes_dateText (by omega) leftPlain rightPlain
  · rcases exists_instantText_eq isDate with ⟨separator, ending, text_eq⟩
    simp only [text_eq, String.toList_append]
    by_cases sameDay : left.seconds / 86400 = right.seconds / 86400
    · have before : left.Before right := by
        simp only [Instant.truncated, if_neg isDate, ne_eq, Prod.mk.injEq] at differ
        unfold Instant.Before
        rcases Instant.le_def.1 le with lt | ⟨seconds_eq, nanos_le⟩
        · exact .inl lt
        · exact .inr ⟨seconds_eq, by omega⟩
      rw [Instant.date_eq sameDay]
      exact ((Instant.precedes_clockText sameDay before).append_left _).append _ _
    · exact (((Instant.precedes_dateText (by omega) leftPlain rightPlain).append _ _).append
        _ _).append _ _

/-- Two instants that a column does not keep apart have one text. -/
theorem instantText_eq (same : left.truncated type = right.truncated type) :
    instantText left type = instantText right type := by
  by_cases isDate : type = some .date
  · rw [isDate] at same ⊢
    have sameDay : left.seconds / 86400 = right.seconds / 86400 := congrArg Prod.fst same
    exact congrArg Date.text (Instant.date_eq sameDay)
  · simp only [Instant.truncated, if_neg isDate, Prod.mk.injEq] at same
    rcases exists_instantText_eq isDate with ⟨separator, ending, text_eq⟩
    have sameDay : left.seconds / 86400 = right.seconds / 86400 := by rw [same.1]
    rw [text_eq, text_eq, Instant.date_eq sameDay,
      Instant.clockText_eq_of_seconds_eq same.1 same.2]

theorem not_mem_mark_instantText (instant : Instant) (type : Option ColumnType) :
    '"' ∉ (instantText instant type).toList := by
  have inDate := instant.date.not_mem_text (show '"'.isDigit = false by decide) (by decide)
  have inClock := instant.not_mem_clockText (show '"'.isDigit = false by decide) (by decide)
  unfold instantText
  split <;> simp [Instant.dateText, Instant.dateTimeText, Instant.rfc3339, inDate, inClock]

theorem toList_stored_instant (instant : Instant) (type : Option ColumnType) :
    ((Value.instant instant).stored type).toList =
      '"' :: (instantText instant type).toList ++ ['"'] := by
  rw [stored, Text.quoted, String.toList_ofList,
    Text.doubled_eq_self (not_mem_mark_instantText instant type)]

/-- Stored instants sort like time. Of two instants in order with years of four digits the text of
the later one is not smaller byte by byte, and larger if the column keeps the two apart. Between the
quotation marks the texts agree: a date with a time is the RFC 3339 text with a space in place of
the `T` and without the final `Z`, and a date is its part before the `T`. -/
theorem stored_instant_sorted :
    (∀ (type : Option ColumnType) (left right : Instant), left ≤ right →
      left.date.HasPlainYear → right.date.HasPlainYear →
      Text.bytes ((Value.instant left).stored type) ≤
          Text.bytes ((Value.instant right).stored type) ∧
        (left.truncated type ≠ right.truncated type →
          Text.bytes ((Value.instant left).stored type) <
            Text.bytes ((Value.instant right).stored type))) ∧
    ∀ instant : Instant, ∃ text : List Char,
      text.count 'T' = 1 ∧ text.getLast? = some 'Z' ∧ '"' ∉ text ∧
      (∀ type ∉ [some .date, some .datetime, some .timestamp],
        ((Value.instant instant).stored type).toList = '"' :: text ++ ['"']) ∧
      (∀ type ∈ [some .datetime, some .timestamp],
        ((Value.instant instant).stored type).toList =
          '"' :: (text.dropLast.map fun char => if char = 'T' then ' ' else char) ++ ['"']) ∧
      ((Value.instant instant).stored (some .date)).toList =
        '"' :: text.takeWhile (· ≠ 'T') ++ ['"'] := by
  refine ⟨fun type left right le leftPlain rightPlain => ?_, fun instant => ?_⟩
  · have later : left.truncated type ≠ right.truncated type →
        Text.bytes ((Value.instant left).stored type) <
          Text.bytes ((Value.instant right).stored type) := by
      intro differ
      refine Text.bytes_lt_bytes (String.lt_iff.2 ?_)
      rw [toList_stored_instant, toList_stored_instant]
      exact ((precedes_instantText le leftPlain rightPlain differ).later _ |>.append _ _).lt
    refine ⟨?_, later⟩
    by_cases same : left.truncated type = right.truncated type
    · have text_eq : (Value.instant left).stored type = (Value.instant right).stored type :=
        congrArg (Text.quoted '"') (instantText_eq same)
      rw [text_eq]
      exact List.le_refl _
    · exact List.le_of_lt (later same)
  · refine ⟨instant.rfc3339.toList, instant.count_T_rfc3339, instant.getLast?_rfc3339,
      not_mem_mark_instantText instant none, ?_, ?_, ?_⟩
    · intro type other
      rw [toList_stored_instant]
      unfold instantText
      split <;> simp at other ⊢
    · intro type member
      rw [instant.map_dropLast_rfc3339, toList_stored_instant]
      rcases List.mem_pair.1 member with rfl | rfl
      · rfl
      · rfl
    · rw [instant.takeWhile_rfc3339]
      exact toList_stored_instant instant (some .date)

/-- The last millisecond of a leap second comes before the start of the next year. -/
theorem stored_instant_sorted_of_leapSecond :
    let left : Instant := ⟨915148799, 1_999_999_999, .inr (by decide)⟩
    let right : Instant := ⟨915148800, 0, .inl (by decide)⟩
    left ≤ right ∧ left.date.HasPlainYear ∧ right.date.HasPlainYear ∧
      (Value.instant left).stored (some .timestamp) = "\"1998-12-31 23:59:60.999\"" ∧
      (Value.instant right).stored (some .timestamp) = "\"1999-01-01 00:00:00.000\"" ∧
      Text.bytes ((Value.instant left).stored (some .timestamp)) <
        Text.bytes ((Value.instant right).stored (some .timestamp)) := by
  intro left right
  have le : left ≤ right := .inl (by decide)
  have leftPlain : left.date.HasPlainYear := by unfold Date.HasPlainYear; decide
  have rightPlain : right.date.HasPlainYear := by unfold Date.HasPlainYear; decide
  have differ : left.truncated (some .timestamp) ≠ right.truncated (some .timestamp) := by decide
  exact ⟨le, leftPlain, rightPlain, by decide +kernel, by decide +kernel,
    (stored_instant_sorted.1 (some .timestamp) left right le leftPlain rightPlain).2 differ⟩

end Value

end RankedSql

import RankedSql.Instant
import Mathlib.Tactic.IntervalCases

/-!
# The calendar

Days that follow each other have dates that follow each other in the Gregorian calendar
(`Date.ofDay_succ`), and every day has a date of that calendar (`Date.isValid_ofDay`): the closed
form that turns a count of days into a date agrees with the lengths of the months and the rule for
leap years. With the date of the first day this fixes all dates (`Date.ofDay_zero`). Since a
following date is a later one, later days have later dates (`Date.ofDay_lt_ofDay`).

The step from a day to the next is followed in years that start in March, where it carries from one
place of a count to the next.
-/

namespace RankedSql

namespace Date

/-- Every fourth year is a leap year, but of the full centuries only every fourth. -/
def isLeapYear (year : Int) : Bool :=
  year % 4 == 0 && (year % 100 != 0 || year % 400 == 0)

/-- The number of days in a month. -/
def monthLength (year : Int) (month : Nat) : Nat :=
  if month = 2 then if isLeapYear year then 29 else 28
  else if month ∈ [4, 6, 9, 11] then 30
  else 31

/-- A date that the calendar has. -/
structure IsValid (date : Date) : Prop where
  one_le_month : 1 ≤ date.month
  month_le : date.month ≤ 12
  one_le_day : 1 ≤ date.day
  day_le : date.day ≤ monthLength date.year date.month

/-- The date of the following day. -/
def next (date : Date) : Date :=
  if date.day < monthLength date.year date.month then { date with day := date.day + 1 }
  else if date.month < 12 then ⟨date.year, date.month + 1, 1⟩
  else ⟨date.year + 1, 1, 1⟩

/-- The number of days of a year that starts in March. -/
def yearLength (year : Int) : Nat := if isLeapYear (year + 1) then 366 else 365

/-- The number of days before a month in a year that starts in March. -/
def monthStart (month : Nat) : Nat := (153 * month + 2) / 5

/-- The number of days up to the end of a month in a year that starts in March. -/
def monthEnd (year : Int) (month : Nat) : Nat :=
  if month < 11 then monthStart (month + 1) else yearLength year

/-- A date by its month in a year that starts in March. -/
def inMonth (year : Int) (month day : Nat) : Date :=
  if month < 10 then ⟨year, month + 3, day⟩ else ⟨year + 1, month - 9, day⟩

/-- The date of a day in a year that starts in March. -/
def ofMarch (year : Int) (day : Nat) : Date :=
  let month := (5 * day + 2) / 153
  inMonth year month (day - monthStart month + 1)

end Date

/-- A day, counted in years that start in March: by cycles of 400 years, centuries, four years,
years and days. The last century of a cycle, and the last year of four, may have one more day. -/
structure MarchDay where
  cycle : Int
  century : Nat
  four : Nat
  year : Nat
  day : Nat
  century_le : century ≤ 3
  four_le : four ≤ 24
  year_le : year ≤ 3
  day_le : day < 365 ∨ day = 365 ∧ year = 3 ∧ (four < 24 ∨ century = 3)

namespace MarchDay

/-- The day counted from 1 January 1970. -/
def count (place : MarchDay) : Int :=
  146097 * place.cycle +
    (36524 * place.century + 1461 * place.four + 365 * place.year + place.day : Nat) - 719468

/-- The number of the year. -/
def marchYear (place : MarchDay) : Int :=
  400 * place.cycle + (100 * place.century + 4 * place.four + place.year : Nat)

theorem ofDay_count (place : MarchDay) :
    Date.ofDay place.count = Date.ofMarch place.marchYear place.day := by
  rcases place with ⟨cycle, century, four, year, day, century_le, four_le, year_le, day_le⟩
  have inCycle : 36524 * century + 1461 * four + 365 * year + day < 146097 := by omega
  generalize count_eq : 36524 * century + 1461 * four + 365 * year + day = inYears at inCycle
  have since : 146097 * cycle + (inYears : Int) - 719468 + 719468 =
      146097 * cycle + inYears := by omega
  have cycle_eq : (146097 * cycle + (inYears : Int)) / 146097 = cycle := by omega
  have rest_eq : ((146097 * cycle + (inYears : Int)) % 146097).toNat = inYears := by omega
  have century_eq : min (inYears / 36524) 3 = century := by omega
  have four_eq : (inYears - 36524 * century) / 1461 = four := by omega
  have inFour_eq : (inYears - 36524 * century) % 1461 = 365 * year + day := by omega
  have year_eq : min ((365 * year + day) / 365) 3 = year := by omega
  have day_eq : 365 * year + day - 365 * year = day := by omega
  simp only [count, count_eq, marchYear, Date.ofDay, Date.ofMarch, Date.inMonth, Date.monthStart,
    since, cycle_eq, rest_eq, century_eq, four_eq, inFour_eq, year_eq, day_eq]
  split <;> rfl

/-- Every day has a place. -/
theorem exists_count (day : Int) : ∃ place : MarchDay, place.count = day := by
  have inCycle_lt : ((day + 719468) % 146097).toNat < 146097 := by omega
  have whole : day + 719468 =
      146097 * ((day + 719468) / 146097) + (((day + 719468) % 146097).toNat : Int) := by omega
  generalize ((day + 719468) % 146097).toNat = inCycle at inCycle_lt whole
  let century := min (inCycle / 36524) 3
  let inCentury := inCycle - 36524 * century
  let year := min (inCentury % 1461 / 365) 3
  refine ⟨⟨(day + 719468) / 146097, century, inCentury / 1461, year,
    inCentury % 1461 - 365 * year, ?_, ?_, ?_, ?_⟩, ?_⟩
  · omega
  · omega
  · omega
  · omega
  · simp only [count]
    omega

/-- Whether a year ends with the February of a leap year. -/
def EndsLeap (place : MarchDay) : Prop :=
  place.year = 3 ∧ (place.four < 24 ∨ place.century = 3)

theorem yearLength_marchYear (place : MarchDay) :
    place.EndsLeap ∧ Date.yearLength place.marchYear = 366 ∨
      ¬place.EndsLeap ∧ Date.yearLength place.marchYear = 365 := by
  have leap : Date.isLeapYear (place.marchYear + 1) = true ↔ place.EndsLeap := by
    rcases place with ⟨cycle, century, four, year, day, century_le, four_le, year_le, day_le⟩
    simp only [Date.isLeapYear, marchYear, EndsLeap, Bool.and_eq_true, Bool.or_eq_true, beq_iff_eq,
      bne_iff_ne]
    omega
  rw [← leap]
  unfold Date.yearLength
  split
  · next ends => exact .inl ⟨ends, rfl⟩
  · next ends => exact .inr ⟨ends, rfl⟩

theorem day_lt_yearLength (place : MarchDay) : place.day < Date.yearLength place.marchYear := by
  have length := place.yearLength_marchYear
  have day_le := place.day_le
  unfold EndsLeap at length
  omega

/-- The following day is in the same year, unless the day is the last of its year. -/
theorem exists_following (place : MarchDay) :
    ∃ following : MarchDay, following.count = place.count + 1 ∧
      (place.day + 1 < Date.yearLength place.marchYear ∧
          following.marchYear = place.marchYear ∧ following.day = place.day + 1 ∨
        place.day + 1 = Date.yearLength place.marchYear ∧
          following.marchYear = place.marchYear + 1 ∧ following.day = 0) := by
  have length_cases := place.yearLength_marchYear
  have day_lt := place.day_lt_yearLength
  generalize Date.yearLength place.marchYear = length at length_cases day_lt
  rcases place with ⟨cycle, century, four, year, day, century_le, four_le, year_le, day_le⟩
  simp only [EndsLeap, count, marchYear] at length_cases day_lt ⊢
  by_cases inYear : day + 1 < length
  · exact ⟨⟨cycle, century, four, year, day + 1, by omega, by omega, by omega, by omega⟩,
      by dsimp only; omega, .inl ⟨inYear, rfl, rfl⟩⟩
  have last : day + 1 = length := by omega
  -- The first place that is not at its end is counted up, and all places below it start again.
  by_cases inFour : year < 3
  · exact ⟨⟨cycle, century, four, year + 1, 0, by omega, by omega, by omega, by omega⟩,
      by dsimp only; omega, .inr ⟨last, by dsimp only; omega, rfl⟩⟩
  by_cases inCentury : four < 24
  · exact ⟨⟨cycle, century, four + 1, 0, 0, by omega, by omega, by omega, by omega⟩,
      by dsimp only; omega, .inr ⟨last, by dsimp only; omega, rfl⟩⟩
  by_cases inCycle : century < 3
  · exact ⟨⟨cycle, century + 1, 0, 0, 0, by omega, by omega, by omega, by omega⟩,
      by dsimp only; omega, .inr ⟨last, by dsimp only; omega, rfl⟩⟩
  · exact ⟨⟨cycle + 1, 0, 0, 0, 0, by omega, by omega, by omega, by omega⟩,
      by dsimp only; omega, .inr ⟨last, by dsimp only; omega, rfl⟩⟩

end MarchDay

namespace Date

section March

variable {year : Int} {month day : Nat}

/-- The last month of a year that starts in March is the February of the next year. -/
theorem monthLength_inMonth (month_le : month ≤ 11) :
    monthLength (inMonth year month day).year (inMonth year month day).month =
      monthEnd year month - monthStart month := by
  rcases Nat.lt_or_eq_of_le month_le with notLast | rfl
  · rw [monthEnd, if_pos notLast]
    interval_cases month <;> rfl
  · change (if isLeapYear (year + 1) then 29 else 28) = yearLength year - 337
    unfold yearLength
    split <;> rfl

@[simp] theorem day_inMonth : (inMonth year month day).day = day := by
  unfold inMonth
  split <;> rfl

theorem next_inMonth (month_le : month ≤ 11)
    (inside : monthStart month + day < monthEnd year month) :
    (inMonth year month day).next = inMonth year month (day + 1) := by
  rw [next, monthLength_inMonth month_le, day_inMonth, if_pos (by omega)]
  unfold inMonth
  split <;> rfl

theorem next_inMonth_of_last (month_le : month ≤ 11)
    (last : monthEnd year month ≤ monthStart month + day) :
    (inMonth year month day).next =
      if month < 11 then inMonth year (month + 1) 1 else inMonth (year + 1) 0 1 := by
  rw [next, monthLength_inMonth month_le, day_inMonth, if_neg (by omega)]
  interval_cases month <;> rfl

theorem yearLength_le (year : Int) : yearLength year ≤ 366 := by
  unfold yearLength
  split <;> omega

theorem ofMarch_eq_inMonth (month_le : month ≤ 11) (starts : monthStart month ≤ day)
    (ends : day < monthEnd year month) :
    ofMarch year day = inMonth year month (day - monthStart month + 1) := by
  have length_le := yearLength_le year
  have month_eq : (5 * day + 2) / 153 = month := by
    unfold monthStart at starts
    unfold monthEnd monthStart at ends
    split at ends <;> omega
  rw [ofMarch, month_eq]

/-- Every day of a year is in one of its months. -/
theorem exists_month (day_lt : day < yearLength year) :
    ∃ month ≤ 11, monthStart month ≤ day ∧ day < monthEnd year month := by
  have length_le := yearLength_le year
  refine ⟨(5 * day + 2) / 153, by omega, ?_, ?_⟩
  · unfold monthStart
    omega
  · unfold monthEnd monthStart
    split <;> omega

theorem next_ofMarch (inside : day + 1 < yearLength year) :
    (ofMarch year day).next = ofMarch year (day + 1) := by
  rcases exists_month (Nat.lt_of_succ_lt inside) with ⟨month, month_le, starts, ends⟩
  rw [ofMarch_eq_inMonth month_le starts ends]
  by_cases sameMonth : day + 1 < monthEnd year month
  · rw [next_inMonth month_le (by omega),
      ofMarch_eq_inMonth month_le (Nat.le_succ_of_le starts) sameMonth]
    congr 1
    omega
  · have notLast : month < 11 := by
      by_contra isLast
      rw [monthEnd, if_neg isLast] at sameMonth
      exact sameMonth inside
    have start_eq : monthStart (month + 1) = day + 1 := by
      rw [monthEnd, if_pos notLast] at ends sameMonth
      omega
    have nextEnds : day + 1 < monthEnd year (month + 1) := by
      unfold monthEnd
      split
      · rw [← start_eq]
        unfold monthStart
        omega
      · exact inside
    rw [next_inMonth_of_last month_le (by omega), if_pos notLast,
      ofMarch_eq_inMonth notLast start_eq.le nextEnds, start_eq, Nat.sub_self]

theorem next_ofMarch_of_last (last : day + 1 = yearLength year) :
    (ofMarch year day).next = ofMarch (year + 1) 0 := by
  have starts : monthStart 11 ≤ day := by
    change 337 ≤ day
    unfold yearLength at last
    split at last <;> omega
  have end_eq : monthEnd year 11 = day + 1 := last.symm
  rw [ofMarch_eq_inMonth le_rfl starts (by omega), next_inMonth_of_last le_rfl (by omega)]
  rfl

theorem isValid_ofMarch (day_lt : day < yearLength year) : (ofMarch year day).IsValid := by
  rcases exists_month day_lt with ⟨month, month_le, starts, ends⟩
  rw [ofMarch_eq_inMonth month_le starts ends]
  refine ⟨?_, ?_, ?_, ?_⟩
  · unfold inMonth
    split <;> dsimp only <;> omega
  · unfold inMonth
    split <;> dsimp only <;> omega
  · rw [day_inMonth]
    omega
  · rw [day_inMonth, monthLength_inMonth month_le]
    omega

end March

/-- Days that follow each other have dates that follow each other. -/
theorem ofDay_succ (day : Int) : ofDay (day + 1) = (ofDay day).next := by
  rcases MarchDay.exists_count day with ⟨place, rfl⟩
  rcases place.exists_following with ⟨following, count_eq, same⟩
  rw [← count_eq, MarchDay.ofDay_count, MarchDay.ofDay_count]
  rcases same with ⟨inside, year_eq, day_eq⟩ | ⟨last, year_eq, day_eq⟩
  · rw [year_eq, day_eq, next_ofMarch inside]
  · rw [year_eq, day_eq, next_ofMarch_of_last last]

theorem isValid_ofDay (day : Int) : (ofDay day).IsValid := by
  rcases MarchDay.exists_count day with ⟨place, rfl⟩
  rw [MarchDay.ofDay_count]
  exact isValid_ofMarch place.day_lt_yearLength

theorem ofDay_zero : ofDay 0 = ⟨1970, 1, 1⟩ := by decide

/-! ## The order of dates -/

/-- A date is earlier than another one if its year is, or in one year its month is, or in one month
its day is. -/
instance : LT Date where
  lt left right :=
    left.year < right.year ∨
      left.year = right.year ∧
        (left.month < right.month ∨ left.month = right.month ∧ left.day < right.day)

theorem lt_def {left right : Date} :
    left < right ↔ left.year < right.year ∨
      left.year = right.year ∧
        (left.month < right.month ∨ left.month = right.month ∧ left.day < right.day) := Iff.rfl

protected theorem lt_trans {first second third : Date} (firstLt : first < second)
    (secondLt : second < third) : first < third := by
  rw [lt_def] at *
  omega

theorem lt_next (date : Date) : date < date.next := by
  rw [lt_def]
  unfold next
  split
  · exact .inr ⟨rfl, .inr ⟨rfl, Nat.lt_succ_self _⟩⟩
  · split
    · exact .inr ⟨rfl, .inl (Nat.lt_succ_self _)⟩
    · exact .inl (Int.lt_succ _)

/-- Later days have later dates. -/
theorem ofDay_lt_ofDay {left right : Int} (lt : left < right) : ofDay left < ofDay right := by
  induction right, (show left + 1 ≤ right from lt) using Int.leInduction with
  | base =>
      rw [ofDay_succ]
      exact lt_next _
  | succ day _ earlier =>
      rw [ofDay_succ]
      exact Date.lt_trans (earlier ‹_›) (lt_next _)

end Date

end RankedSql
